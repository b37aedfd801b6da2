import CppRsDriver.Types.Column
import CppRsDriver.Wire.Scalar

/-! What a reader of a column makes of the bytes of a cell, knowing the column's type
only. Every part of a value has to be used up. -/
namespace CppRsDriver.Wire

open CppRsDriver.Lib CppRsDriver.Types

/-- The content of a value, without the data types it was built from. -/
inductive CqlValue where
  | scalar (s : CassScalar)
  | tuple (fields : List (Option CqlValue))
  | list (values : List CqlValue)
  | map (values : List (CqlValue × CqlValue))
  | set (values : List CqlValue)
  | vector (values : List (Option CqlValue))
  | userDefinedType (fields : List (String × Option CqlValue))

/- A negative length is a null. -/
def readCell : Reader (Option (List UInt8)) :=
  (readNat 4).andThen (fun length =>
    if length < 2 ^ 31 then (Reader.take length).filterMap (fun bytes => some (some bytes))
    else Reader.pure none)

section Readers
variable {α : Type} (decode : List UInt8 → Option α)

/-- A cell that may be null. -/
def readField : Reader (Option α) :=
  readCell.filterMap (fun
    | none => some none
    | some bytes => (decode bytes).map some)

/-- A cell that may not be null. -/
def readElement : Reader α :=
  readCell.filterMap (fun
    | none => none
    | some bytes => decode bytes)

def readPair (decodeOther : List UInt8 → Option α) : Reader (α × α) :=
  (readElement decode).andThen (fun k =>
    (readElement decodeOther).filterMap (fun v => some (k, v)))

def readNamed (name : String) : Reader (String × Option α) :=
  (readField decode).filterMap (fun v => some (name, v))

/- A count that is not negative, and that many elements. -/
def readCounted (read : Reader α) : Reader (List α) :=
  (readNat 4).andThen (fun count =>
    if count < 2 ^ 31 then Reader.sequence (List.replicate count read) else Reader.fail)

/-- An element of a vector: of the given size, or with its length in front. -/
def readVectorElement (size : Option Nat) : Reader (Option α) :=
  match size with
  | some k => (Reader.take k).filterMap (fun bytes => (decode bytes).map some)
  | none => (readUnsignedVint.andThen Reader.take).filterMap (fun bytes => (decode bytes).map some)

end Readers

section Decode
variable (sizes : NativeType → Option Nat)

/-- The size of the values of a column inside a vector, if they all have one. -/
def fixedSize : ColumnType → Option Nat
  | .native t => sizes t
  | .vector typ dimensions => (fixedSize typ).map (· * dimensions.toNat)
  | _ => none

mutual
def decodeValue : ColumnType → List UInt8 → Option CqlValue
  | .native t, bytes => (decodeScalar t bytes).map .scalar
  | .list typ _, bytes => ((readCounted (readElement (decodeValue typ))).complete bytes).map .list
  | .set typ _, bytes => ((readCounted (readElement (decodeValue typ))).complete bytes).map .set
  | .map key value _, bytes =>
    ((readCounted (readPair (decodeValue key) (decodeValue value))).complete bytes).map .map
  | .userDefinedType fieldTypes _ _ _, bytes =>
    ((Reader.sequence (namedReaders fieldTypes)).complete bytes).map .userDefinedType
  | .tuple types, bytes => ((Reader.sequence (fieldReaders types)).complete bytes).map .tuple
  | .vector typ dimensions, bytes =>
    ((Reader.sequence (List.replicate dimensions.toNat
      (readVectorElement (decodeValue typ) (fixedSize sizes typ)))).complete bytes).map .vector
termination_by structural c => c

def fieldReaders : List ColumnType → List (Reader (Option CqlValue))
  | [] => []
  | c :: types => readField (decodeValue c) :: fieldReaders types
termination_by structural types => types

def namedReaders : List (String × ColumnType) → List (Reader (String × Option CqlValue))
  | [] => []
  | (name, c) :: fields => readNamed (decodeValue c) name :: namedReaders fields
termination_by structural fields => fields
end

theorem fieldReaders_eq (types : List ColumnType) :
    fieldReaders sizes types = types.map (fun c => readField (decodeValue sizes c)) := by
  induction types with
  | nil => rw [fieldReaders, List.map_nil]
  | cons c types ih => rw [fieldReaders, ih, List.map_cons]

theorem namedReaders_eq (fields : List (String × ColumnType)) :
    namedReaders sizes fields =
      fields.map (fun field => readNamed (decodeValue sizes field.2) field.1) := by
  induction fields with
  | nil => rw [namedReaders, List.map_nil]
  | cons field fields ih => rw [namedReaders, ih, List.map_cons]

/-- One cell of a row; the result of a null cell is `some none`. -/
def decodeCell (c : ColumnType) (bytes : List UInt8) : Option (Option CqlValue) :=
  (readField (decodeValue sizes c)).complete bytes

end Decode

theorem reads_cell {bytes : List UInt8} (small : bytes.length < 2 ^ 31) :
    Reads readCell (beBytes 4 bytes.length ++ bytes) (some bytes) := by
  have length := reads_readNat 4 bytes.length
  have whole : bytes.length % 256 ^ 4 = bytes.length := Nat.mod_eq_of_lt (by omega)
  rw [whole] at length
  apply length.andThen
  rw [if_pos small]
  exact (Reads.take bytes).filterMap rfl

theorem reads_null : Reads readCell (beBytes 4 (2 ^ 32 - 1)) none := by
  intro rest
  have length := reads_readNat 4 (2 ^ 32 - 1) rest
  simp only [readCell, Reader.andThen, length]
  rfl

end CppRsDriver.Wire
