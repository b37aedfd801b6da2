import CppRsDriver.Lib.Checks
import CppRsDriver.Statement.Model
import CppRsDriver.Wire.Serialize

/-! The row of values sent for a statement, executed alone or in a batch. The Rust
driver's serialization of a plain vector of values is a parameter. -/
namespace CppRsDriver.Statement

open CppRsDriver.Lib CppRsDriver.Types CppRsDriver.Wire

/- `set_unset`: the length −2. -/
def unsetCell : List UInt8 := beBytes 4 (2 ^ 32 - 2)

/-- The type of the column is given to the serializer of a value and not used there. -/
def serializeSlot (sizes : NativeType → Option Nat) (_typ : ColumnType) :
    Slot → Except SerializationError (List UInt8)
  | .unset => .ok unsetCell
  | .set none => .ok nullCell
  | .set (some v) => doSerialize (CassDataType.usesVariableLengthEncodingInVector sizes) v .sized

inductive RowError (E : Type) where
  | unknownNamedParameter (name : String)
  | values (err : E)
  /-- The index of a name is not the index of a slot: `bound_values[idx]` panics. -/
  | panicked
  deriving DecidableEq, Repr

section Rows
variable {E C : Type} (cell : ColumnType → Slot → Except E C)

/-- A vector of values is serialized in its order, one value for each column. -/
def Positional (vec : List ColumnSpec → List Slot → Except E (List C)) : Prop :=
  ∀ columns values cells, vec columns values = .ok cells ↔
    columns.length = values.length ∧
      List.Forall₂ (fun entry c => cell entry.1.typ entry.2 = .ok c) (columns.zip values) cells

/-- A serializer of vectors: one value for each column, or a mismatch. -/
def vecSerialize (mismatch : E) (columns : List ColumnSpec) (values : List Slot) :
    Except E (List C) :=
  if columns.length = values.length then
    (columns.zip values).mapM (fun entry => cell entry.1.typ entry.2)
  else .error mismatch

theorem vecSerialize_positional (mismatch : E) : Positional cell (vecSerialize cell mismatch) := by
  intro columns values cells
  rw [vecSerialize]
  split
  · rename_i same
    rw [mapM_eq_ok, and_iff_right same]
  · rename_i other
    exact ⟨nofun, fun h => absurd h.1 other⟩

variable (vec : List ColumnSpec → List Slot → Except E (List C))

structure SimpleQueryRowSerializer where
  boundValues : List Slot
  nameToBoundIndex : List (String × Nat)

namespace SimpleQueryRowSerializer

def serializeColumn (self : SimpleQueryRowSerializer) (colSpec : ColumnSpec) :
    Except (RowError E) C :=
  match self.nameToBoundIndex.lookup colSpec.name with
  | none => .error (.unknownNamedParameter colSpec.name)
  | some boundValuesIdx =>
    match self.boundValues[boundValuesIdx]? with
    | none => .error .panicked
    | some val => (cell colSpec.typ val).mapError .values

def serialize (self : SimpleQueryRowSerializer) (columns : List ColumnSpec) :
    Except (RowError E) (List C) :=
  if self.nameToBoundIndex.isEmpty then (vec columns self.boundValues).mapError .values
  else columns.mapM (serializeColumn cell self)

end SimpleQueryRowSerializer

/- The Rust driver prepares a query, and so learns its columns, only when there are
values for it; `describe` is what the server then answers. -/
variable (describe : String → List ColumnSpec)

/-- The row of `cass_session_execute`. -/
def BoundStatement.execute : BoundStatement → Except (RowError E) (List C)
  | .simple q =>
    if q.boundValues.isEmpty then .ok []
    else SimpleQueryRowSerializer.serialize cell vec ⟨q.boundValues, q.nameToBoundIndex⟩
      (describe q.query)
  | .prepared p => (vec p.statement.variableColSpecs p.boundValues).mapError .values

inductive BatchStatement where
  | query (q : String)
  | preparedStatement (p : CassPrepared)

structure CassBatchState where
  statements : List BatchStatement
  boundValues : List (List Slot)

namespace CassBatchState

/-- `cass_batch_new`. -/
def new : CassBatchState := ⟨[], []⟩

/-- `cass_batch_add_statement`. -/
def addStatement (state : CassBatchState) : BoundStatement → CassBatchState
  | .simple q => ⟨state.statements ++ [.query q.query], state.boundValues ++ [q.boundValues]⟩
  | .prepared p =>
    ⟨state.statements ++ [.preparedStatement p.statement], state.boundValues ++ [p.boundValues]⟩

def serializeEntry : BatchStatement × List Slot → Except (RowError E) (List C)
  | (.query q, values) =>
    if values.isEmpty then .ok [] else (vec (describe q) values).mapError .values
  | (.preparedStatement p, values) => (vec p.variableColSpecs values).mapError .values

/-- The rows of `cass_session_execute_batch`, one for each statement. -/
def execute (state : CassBatchState) : List (Except (RowError E) (List C)) :=
  (state.statements.zip state.boundValues).map (serializeEntry vec describe)

end CassBatchState

end Rows

end CppRsDriver.Statement
