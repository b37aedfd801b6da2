import CppRsDriver.Types.Column
import CppRsDriver.Types.Value
import CppRsDriver.Lib.Runs

/-! Statements and the values bound to them. Nothing modifies a data type here, so
data types are trees; `none` stands for a type check that panics. -/
namespace CppRsDriver.Statement

open CppRsDriver.Types

inductive MaybeUnset (α : Type) where
  | unset
  | set (value : α)
  deriving DecidableEq, Repr

abbrev Value := CassCqlValue CassDataType

/-- A place for a bound value, null included. -/
abbrev Slot := MaybeUnset (Option Value)

structure ColumnSpec where
  name : String
  typ : ColumnType

/-- A prepared statement, with the columns the server described for its parameters. -/
structure CassPrepared where
  variableColSpecs : List ColumnSpec
  variableColDataTypes : List CassDataType

def CassPrepared.newFromPreparedStatement (colSpecs : List ColumnSpec) : CassPrepared where
  variableColSpecs := colSpecs
  variableColDataTypes := colSpecs.map (fun colSpec => getColumnType colSpec.typ)

structure BoundPreparedStatement where
  statement : CassPrepared
  boundValues : List Slot

/- The name map is the list of its entries; `insert` is only called on an absent name. -/
structure BoundSimpleStatement where
  query : String
  boundValues : List Slot
  nameToBoundIndex : List (String × Nat)

inductive BoundStatement where
  | simple (q : BoundSimpleStatement)
  | prepared (p : BoundPreparedStatement)

def eqIgnoreAsciiCase (a b : String) : Bool :=
  a.toList.map Char.toLower == b.toList.map Char.toLower

namespace BoundPreparedStatement

def bindCqlValue (self : BoundPreparedStatement) (index : Nat) (value : Option Value) :
    Option (CassError × BoundPreparedStatement) :=
  match self.boundValues[index]?, self.statement.variableColDataTypes[index]? with
  | some _, some dt =>
    (isTypeCompatible CassDataType.ops value dt).map (fun compatible =>
      if compatible then
        (.ok, { self with boundValues := self.boundValues.set index (.set value) })
      else (.libInvalidValueType, self))
  -- a reset may leave fewer or more slots than there are columns
  | _, _ => some (.libIndexOutOfBounds, self)

def bindMultipleValuesByName (self : BoundPreparedStatement) (value : Option Value) :
    List Nat → Option (CassError × BoundPreparedStatement)
  | [] => some (.ok, self)
  | i :: indices => do
    let (bindStatus, self) ← self.bindCqlValue i value
    if bindStatus ≠ .ok then return (bindStatus, self)
    self.bindMultipleValuesByName value indices

def matchesName (isCaseSensitive : Bool) (name : String) (col : ColumnSpec) : Bool :=
  isCaseSensitive && col.name == name || !isCaseSensitive && eqIgnoreAsciiCase col.name name

def bindCqlValueByName (self : BoundPreparedStatement) (name : String) (isCaseSensitive : Bool)
    (value : Option Value) : Option (CassError × BoundPreparedStatement) :=
  let indices := (self.statement.variableColSpecs.zipIdx.filter
    (fun (col, _) => matchesName isCaseSensitive name col)).map Prod.snd
  if indices.isEmpty then some (.libNameDoesNotExist, self)
  else self.bindMultipleValuesByName value indices

end BoundPreparedStatement

namespace BoundSimpleStatement

def bindCqlValue (self : BoundSimpleStatement) (index : Nat) (value : Option Value) :
    CassError × BoundSimpleStatement :=
  if index < self.boundValues.length then
    (.ok, { self with boundValues := self.boundValues.set index (.set value) })
  else (.libIndexOutOfBounds, self)

def bindCqlValueByName (self : BoundSimpleStatement) (name : String) (value : Option Value) :
    CassError × BoundSimpleStatement :=
  match self.nameToBoundIndex.lookup name with
  | some idx => self.bindCqlValue idx value
  | none =>
    let freeIndex := self.nameToBoundIndex.length
    if freeIndex ≥ self.boundValues.length then (.libNameDoesNotExist, self)
    else
      -- may overwrite a value that was bound by index
      let self := { self with nameToBoundIndex := (name, freeIndex) :: self.nameToBoundIndex }
      self.bindCqlValue freeIndex value

end BoundSimpleStatement

/-- The name without its quotes, and whether it had any. -/
def unquote (name : String) : String × Bool :=
  match name.toList with
  | '"' :: rest =>
    if rest.getLast? = some '"' then (String.ofList rest.dropLast, true) else (name, false)
  | _ => (name, false)

theorem unquote_plain {name : String} (plain : (unquote name).2 = false) : (unquote name).1 = name := by
  unfold unquote at plain ⊢
  split at plain
  · split at plain
    · contradiction
    · rename_i last
      simp [last]
  · rfl

namespace BoundStatement

/-- `cass_statement_new`. -/
def newUnprepared (query : String) (parameterCount : Nat) : BoundStatement :=
  .simple ⟨query, List.replicate parameterCount .unset, []⟩

/-- `cass_prepared_bind`. -/
def newPrepared (prepared : CassPrepared) : BoundStatement :=
  .prepared ⟨prepared, List.replicate prepared.variableColSpecs.length .unset⟩

def bindCqlValue (self : BoundStatement) (index : Nat) (value : Option Value) :
    Option (CassError × BoundStatement) :=
  match self with
  | .simple q => some ((q.bindCqlValue index value).map id .simple)
  | .prepared p => (p.bindCqlValue index value).map (Prod.map id .prepared)

/- The binders by name turn an empty name away before they look at the statement. -/
def bindCqlValueByName (self : BoundStatement) (name : String) (value : Option Value) :
    Option (CassError × BoundStatement) :=
  if name = "" then some (.libBadParams, self)
  else
    let (nameUnquoted, isCaseSensitive) := unquote name
    match self with
    | .simple q => some ((q.bindCqlValueByName nameUnquoted value).map id .simple)
    | .prepared p =>
      (p.bindCqlValueByName nameUnquoted isCaseSensitive value).map (Prod.map id .prepared)

def resetBoundValues (self : BoundStatement) (count : Nat) : BoundStatement :=
  match self with
  | .simple q => .simple ⟨q.query, List.replicate count .unset, []⟩
  | .prepared p => .prepared { p with boundValues := List.replicate count .unset }

end BoundStatement

/-- The calls that change what is bound to a statement. -/
inductive Call where
  | bind (index : Nat) (value : Option Value)
  | bindByName (name : String) (value : Option Value)
  | resetParameters (count : Nat)

def call (s : BoundStatement) : Call → Option (CassError × BoundStatement)
  | .bind index value => s.bindCqlValue index value
  | .bindByName name value => s.bindCqlValueByName name value
  | .resetParameters count => some (.ok, s.resetBoundValues count)

def step (s : BoundStatement) (c : Call) : Option BoundStatement := (call s c).map Prod.snd

end CppRsDriver.Statement
