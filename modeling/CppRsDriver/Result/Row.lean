import CppRsDriver.Lib.Bytes
import CppRsDriver.Lib.Checks
import CppRsDriver.Statement.Model
import Mathlib.Algebra.Group.Int.Defs

/-! Rows of a result: the cells of a frame, read with the column types that came with
it, next to the driver's own description of the same columns. -/
namespace CppRsDriver.Result

open CppRsDriver.Lib CppRsDriver.Types CppRsDriver.Statement

structure CassColumnSpec where
  name : String
  dataType : CassDataType

structure CassResultMetadata where
  colSpecs : List CassColumnSpec

def CassResultMetadata.fromColumnSpecs (colSpecs : List ColumnSpec) : CassResultMetadata where
  colSpecs := colSpecs.map (fun colSpec => ⟨colSpec.name, getColumnType colSpec.typ⟩)

inductive CollectionLengthDeserializationError where
  | tooFewBytes (length : Nat)
  | negativeLength (length : Int)
  deriving DecidableEq, Repr

/- A big-endian `i32` in front of the elements. -/
def collectionLength (slice : List UInt8) : Except CollectionLengthDeserializationError Nat :=
  if slice.length < 4 then .error (.tooFewBytes slice.length)
  else
    let length := ofBeBytes (slice.take 4)
    if length < 2 ^ 31 then .ok length else .error (.negativeLength (length - 2 ^ 32 : Int))

def determineValueItemCount (typ : ColumnType) (slice : Option (List UInt8)) :
    Except CollectionLengthDeserializationError (Option Nat) :=
  match slice with
  | none => .ok none
  | some frameSlice =>
    match typ with
    | .list _ _ | .set _ _ | .map _ _ _ => (collectionLength frameSlice).map some
    | .tuple types => .ok (some types.length)
    | .vector _ dimensions => .ok (some dimensions.toNat)
    | .userDefinedType fieldTypes _ _ _ => .ok (some fieldTypes.length)
    | .native _ => .ok none

structure CassRawValue where
  typ : ColumnType
  slice : Option (List UInt8)
  itemCount : Option Nat

/-- The types whose values are kept as they are when they have no bytes: those that have
no "empty" value, and strings and blobs. -/
def keepsEmpty : ColumnType → Bool
  | .list _ _ | .set _ _ | .map _ _ _ | .userDefinedType _ _ _ _ => true
  | .native .duration | .native .counter | .native .ascii | .native .text | .native .blob => true
  | _ => false

/-- The slice of a value; an "empty" value is a null. -/
def emptyToNull (typ : ColumnType) (v : Option (List UInt8)) : Option (List UInt8) :=
  if keepsEmpty typ then v else v.filter (fun slice => !slice.isEmpty)

def CassRawValue.deserialize (typ : ColumnType) (v : Option (List UInt8)) :
    Except CollectionLengthDeserializationError CassRawValue :=
  let slice := emptyToNull typ v
  (determineValueItemCount typ slice).map (fun itemCount => ⟨typ, slice, itemCount⟩)

structure CassValue where
  value : CassRawValue
  valueType : CassDataType

/-- The value carries the data type of the column type it is decoded with. -/
def CassValue.Typed (v : CassValue) : Prop := v.valueType = getColumnType v.value.typ

theorem CassRawValue.deserialize_typ {typ : ColumnType} {v : Option (List UInt8)}
    {raw : CassRawValue} (decoded : CassRawValue.deserialize typ v = .ok raw) : raw.typ = typ := by
  obtain ⟨itemCount, -, rfl⟩ := map_eq_ok.mp decoded
  rfl

structure RawColumn where
  index : Nat
  spec : ColumnSpec
  slice : Option (List UInt8)

/-- The items of a `ColumnIterator` of the driver underneath over the bytes of one row: a raw
column, or an error, for each column of the frame. -/
structure ColumnDecoder (ε : Type) where
  columns : List ColumnSpec → List UInt8 → List (Except ε RawColumn)
  columns_specs : ∀ specs bytes, List.Forall₂
    (fun spec column => ∀ raw, column = .ok raw → raw.spec = spec) specs (columns specs bytes)

section Rows
variable {ε : Type}

inductive DeserializationError (ε : Type) where
  | rawColumn (err : ε)
  | columnDeserializationFailed (columnIndex : Nat) (columnName : String)
      (err : CollectionLengthDeserializationError)

structure CassRow where
  columns : List CassValue
  resultMetadata : CassResultMetadata

/-- The value of a raw column, with the data type of a column of the metadata. -/
def deserializeColumn (rawColumn : Except ε RawColumn) (cassColSpec : CassColumnSpec) :
    Except (DeserializationError ε) CassValue :=
  match rawColumn with
  | .error err => .error (.rawColumn err)
  | .ok raw =>
    match CassRawValue.deserialize raw.spec.typ raw.slice with
    | .error err => .error (.columnDeserializationFailed raw.index raw.spec.name err)
    | .ok value => .ok ⟨value, cassColSpec.dataType⟩

/- The vector of an old row is emptied before it is filled again, so only its
capacity is left of it. -/
def CassRow.fromRawRowAndMetadata (rawRow : List (Except ε RawColumn))
    (resultMetadata : CassResultMetadata) : Except (DeserializationError ε) CassRow :=
  ((rawRow.zip resultMetadata.colSpecs).mapM (fun column => deserializeColumn column.1 column.2)).map
    (fun columns => ⟨columns, resultMetadata⟩)

/-- The values of a row are those of the given columns, in order. -/
def CassRow.Of (row : CassRow) (specs : List ColumnSpec) : Prop :=
  List.Forall₂ (fun spec v => v.value.typ = spec.typ ∧ v.Typed) specs row.columns

theorem deserializeColumn_ok {rawColumn : Except ε RawColumn} {spec : CassColumnSpec}
    {v : CassValue} (decoded : deserializeColumn rawColumn spec = .ok v) :
    ∃ raw, rawColumn = .ok raw ∧ v.value.typ = raw.spec.typ ∧ v.valueType = spec.dataType := by
  cases rawColumn with
  | error err => cases decoded
  | ok raw =>
    simp only [deserializeColumn] at decoded
    split at decoded
    · contradiction
    · rename_i value is
      cases decoded
      exact ⟨raw, rfl, CassRawValue.deserialize_typ is, rfl⟩

theorem deserializeColumns_of {specs : List ColumnSpec} {columns : List (Except ε RawColumn)}
    {values : List CassValue}
    (ofSpecs : List.Forall₂ (fun spec column => ∀ raw, column = .ok raw → raw.spec = spec) specs columns)
    (decoded : List.Forall₂ (fun column v => deserializeColumn column.1 column.2 = .ok v)
      (columns.zip (CassResultMetadata.fromColumnSpecs specs).colSpecs) values) :
    List.Forall₂ (fun spec v => v.value.typ = spec.typ ∧ v.Typed) specs values := by
  induction ofSpecs generalizing values with
  | nil =>
    cases decoded
    exact .nil
  | cons ofSpec _ ih =>
    simp only [CassResultMetadata.fromColumnSpecs, List.map_cons, List.zip_cons_cons,
      List.forall₂_cons_left_iff] at decoded
    obtain ⟨v, others, head, tail, rfl⟩ := decoded
    obtain ⟨raw, read, typ, valueType⟩ := deserializeColumn_ok head
    rw [ofSpec raw read] at typ
    have typed : v.Typed := by
      rw [CassValue.Typed, valueType, typ]
    exact .cons ⟨typ, typed⟩ (ih tail)

theorem CassRow.fromRawRowAndMetadata_of (d : ColumnDecoder ε) {specs : List ColumnSpec}
    {bytes : List UInt8} {row : CassRow}
    (built : CassRow.fromRawRowAndMetadata (d.columns specs bytes)
      (CassResultMetadata.fromColumnSpecs specs) = .ok row) : row.Of specs := by
  obtain ⟨columns, decoded, rfl⟩ := map_eq_ok.mp built
  exact deserializeColumns_of (d.columns_specs specs bytes) (mapM_eq_ok.mp decoded)

end Rows

end CppRsDriver.Result
