import CppRsDriver.Basic
import CppRsDriver.Lib.Runs
import CppRsDriver.Result.Row

/-! Iterators over results, rows and nested values. A value is decoded with the column
type of its frame and handed out with a data type of the driver, and every iterator
keeps the two side by side. `none` stands for a panic. -/
namespace CppRsDriver.Result

open CppRsDriver.Lib CppRsDriver.Types CppRsDriver.Statement

/-- A cell inside a frame, or why it could not be read. -/
abbrev Cell (ε : Type) := Except ε (Option (List UInt8))

/-- A field of a user-defined type: its name and type, and its cell if it is there. -/
abbrev UdtField (ε : Type) := (String × ColumnType) × Except ε (Option (Option (List UInt8)))

/-- What the driver underneath finds in the bytes of nested values: nothing when they do not
begin as such a value has to, otherwise the cells it iterates over. `readCqlBytes` takes the
next cell of a frame and leaves the bytes behind it. -/
structure Decoder (ε : Type) extends ColumnDecoder ε where
  readCqlBytes : List UInt8 → Cell ε × List UInt8
  listlike : List UInt8 → Except ε (List (Cell ε))
  map : List UInt8 → Except ε (List (Except ε (Option (List UInt8) × Option (List UInt8))))
  vector : ColumnType → UInt16 → List UInt8 → Except ε (List (Cell ε))
  udt : List (String × ColumnType) → List UInt8 → Except ε (List (UdtField ε))
  udt_fields : ∀ fieldTypes slice fields, udt fieldTypes slice = .ok fields →
    fields.map Prod.fst = fieldTypes

section Raw
variable {ε : Type}

/-- `ListlikeIterator` and `VectorIterator` over raw values. -/
structure ElementIterator (ε : Type) where
  elemTyp : ColumnType
  cells : List (Cell ε)

def deserializeCell (typ : ColumnType) (cell : Cell ε) : Option CassRawValue :=
  cell.toOption.bind (fun v => (CassRawValue.deserialize typ v).toOption)

/- An item that fails is logged and dropped by all callers, so it is `some none` here. -/
def ElementIterator.next (self : ElementIterator ε) :
    Option (Option CassRawValue) × ElementIterator ε :=
  match self.cells with
  | [] => (none, self)
  | cell :: cells => (some (deserializeCell self.elemTyp cell), { self with cells })

structure MapIterator (ε : Type) where
  keyTyp : ColumnType
  valueTyp : ColumnType
  cells : List (Except ε (Option (List UInt8) × Option (List UInt8)))

def MapIterator.next (self : MapIterator ε) :
    Option (Option (CassRawValue × CassRawValue)) × MapIterator ε :=
  match self.cells with
  | [] => (none, self)
  | cell :: cells =>
    let entry : Option (CassRawValue × CassRawValue) := do
      let (k, v) ← cell.toOption
      let key ← (CassRawValue.deserialize self.keyTyp k).toOption
      let value ← (CassRawValue.deserialize self.valueTyp v).toOption
      return (key, value)
    (some entry, { self with cells })

/-- `BytesSequenceIterator`. -/
def nextBytes (d : Decoder ε) (slice : List UInt8) : Option (Cell ε) × List UInt8 :=
  if slice.isEmpty then (none, slice)
  else
    let (cell, rest) := d.readCqlBytes slice
    (some cell, rest)

inductive TupleDeserializationError (ε : Type) where
  | rawCqlBytesReadError (err : ε)
  | tupleMissingValue (position : Nat)

structure TupleIterator where
  allMetadata : List ColumnType
  remainingMetadata : List ColumnType
  slice : List UInt8

def TupleIterator.next (d : Decoder ε) (self : TupleIterator) :
    Option (Except (TupleDeserializationError ε) (ColumnType × Option (List UInt8))) ×
      TupleIterator :=
  let pos := self.allMetadata.length - self.remainingMetadata.length
  match self.remainingMetadata with
  | [] => (none, self)
  | head :: metadata =>
    let (cell, slice) := nextBytes d self.slice
    let rawRes := match cell with
      | some (.ok raw) => .ok (head, raw)
      | some (.error e) => .error (.rawCqlBytesReadError e)
      | none => .error (.tupleMissingValue pos)
    (some rawRes, { self with remainingMetadata := metadata, slice })

structure UdtIterator (ε : Type) where
  fields : List (UdtField ε)

def UdtIterator.next (self : UdtIterator ε) : Option (UdtField ε) × UdtIterator ε :=
  match self.fields with
  | [] => (none, self)
  | field :: fields => (some field, { fields })

end Raw

section FromValue
variable {ε α τ : Type}

inductive NonNullDeserializationError (ε : Type) where
  | isNull
  | typecheck
  | deserialization (err : ε)

/-- `get_non_null`; the target gives no way to deserialize a type that fails its check. -/
def CassValue.getNonNull (self : CassValue)
    (target : ColumnType → Option (List UInt8 → Except ε α)) :
    Except (NonNullDeserializationError ε) α :=
  match self.value.slice with
  | none => .error .isNull
  | some frameSlice =>
    match target self.value.typ with
    | none => .error .typecheck
    | some deserialize => (deserialize frameSlice).mapError .deserialization

/-- The shape of every `new_from_value`: the raw iterator, and the data types of its items
if the data type of the value has them. -/
def newFromValue (target : ColumnType → Option (List UInt8 → Except ε α))
    (itemTypes : CassDataTypeInner CassDataType → Option τ) (value : CassValue) :
    Option (Except (NonNullDeserializationError ε) (α × τ)) :=
  match value.getNonNull target with
  | .error e => some (.error e)
  | .ok iterator => (itemTypes value.valueType.inner).map (fun types => .ok (iterator, types))

end FromValue

section Iterators
variable {ε : Type}

structure CassRowsResultIterator (ε : Type) where
  specs : List ColumnSpec
  rows : List (Except ε (List UInt8))
  resultMetadata : CassResultMetadata
  currentRow : Option CassRow

def CassRowsResultIterator.next (d : Decoder ε) (self : CassRowsResultIterator ε) :
    Bool × CassRowsResultIterator ε :=
  let newRow := match self.rows with
    | [] => none
    | .error _ :: _ => none
    | .ok bytes :: _ => (CassRow.fromRawRowAndMetadata
        (d.columns self.specs bytes) self.resultMetadata).toOption
  (newRow.isSome, { self with rows := self.rows.tail, currentRow := newRow })

structure CassRowIterator where
  row : CassRow
  position : Option Nat

def CassRowIterator.next (self : CassRowIterator) : Bool × CassRowIterator :=
  let newPos := self.position.elim 0 (· + 1)
  (decide (newPos < self.row.columns.length), { self with position := some newPos })

/-- `CassListlikeIterator` and `CassVectorIterator`. -/
structure CassElementIterator (ε : Type) where
  iterator : ElementIterator ε
  valueDataType : CassDataType
  currentValue : Option CassValue

def CassElementIterator.next (self : CassElementIterator ε) : Bool × CassElementIterator ε :=
  let (item, iterator) := self.iterator.next
  let nextValue := item.join.map (fun value => (⟨value, self.valueDataType⟩ : CassValue))
  (nextValue.isSome, { self with iterator, currentValue := nextValue })

def listlikeTarget (d : Decoder ε) : ColumnType → Option (List UInt8 → Except ε (ElementIterator ε))
  | .list typ _ | .set typ _ => some (fun slice => (d.listlike slice).map (⟨typ, ·⟩))
  | _ => none

/- An untyped list or set has no item type. -/
def listlikeItemType : CassDataTypeInner CassDataType → Option CassDataType
  | .list typ _ | .set typ _ => typ
  | _ => none

def CassListlikeIterator.newFromValue (d : Decoder ε) (value : CassValue) :
    Option (Except (NonNullDeserializationError ε) (CassElementIterator ε)) :=
  (Result.newFromValue (listlikeTarget d) listlikeItemType value).map
    (·.map (fun parts => ⟨parts.1, parts.2, none⟩))

def vectorTarget (d : Decoder ε) : ColumnType → Option (List UInt8 → Except ε (ElementIterator ε))
  | .vector typ dimensions => some (fun slice => (d.vector typ dimensions slice).map (⟨typ, ·⟩))
  | _ => none

def vectorElementType : CassDataTypeInner CassDataType → Option CassDataType
  | .vector typ _ => some typ
  | _ => none

def CassVectorIterator.newFromValue (d : Decoder ε) (value : CassValue) :
    Option (Except (NonNullDeserializationError ε) (CassElementIterator ε)) :=
  (Result.newFromValue (vectorTarget d) vectorElementType value).map
    (·.map (fun parts => ⟨parts.1, parts.2, none⟩))

structure CassMapIterator (ε : Type) where
  iterator : MapIterator ε
  keyValueTypes : CassDataType × CassDataType
  currentEntry : Option (CassValue × CassValue)

def CassMapIterator.next (self : CassMapIterator ε) : Bool × CassMapIterator ε :=
  let (item, iterator) := self.iterator.next
  let newEntry := item.join.map (fun entry =>
    ((⟨entry.1, self.keyValueTypes.1⟩ : CassValue), (⟨entry.2, self.keyValueTypes.2⟩ : CassValue)))
  (newEntry.isSome, { self with iterator, currentEntry := newEntry })

def mapTarget (d : Decoder ε) : ColumnType → Option (List UInt8 → Except ε (MapIterator ε))
  | .map key value _ => some (fun slice => (d.map slice).map (⟨key, value, ·⟩))
  | _ => none

/- Untyped and half-typed maps have no key and value types. -/
def mapKeyValueTypes : CassDataTypeInner CassDataType → Option (CassDataType × CassDataType)
  | .map (.keyAndValue k v) _ => some (k, v)
  | _ => none

def CassMapIterator.newFromValue (d : Decoder ε) (value : CassValue) :
    Option (Except (NonNullDeserializationError ε) (CassMapIterator ε)) :=
  (Result.newFromValue (mapTarget d) mapKeyValueTypes value).map
    (·.map (fun parts => ⟨parts.1, parts.2, none⟩))

inductive CassMapCollectionIteratorState where
  | key
  | value
  deriving DecidableEq, Repr

structure CassMapCollectionIterator (ε : Type) where
  iterator : CassMapIterator ε
  state : Option CassMapCollectionIteratorState

def CassMapCollectionIterator.next (self : CassMapCollectionIterator ε) :
    Bool × CassMapCollectionIterator ε :=
  match self.state with
  -- the value of the entry whose key came last
  | some .key => (true, { self with state := some .value })
  | none | some .value =>
    let (nextResult, iterator) := self.iterator.next
    (nextResult, { iterator, state := if nextResult then some .key else self.state })

/-- `CassTupleIteratorEntry` and `CassUdtIteratorEntry`. -/
structure FieldEntry where
  fieldValue : CassValue
  metadataTypesIndex : Nat

def nextTypesIndex (currentEntry : Option FieldEntry) : Nat :=
  currentEntry.elim 0 (fun entry => entry.metadataTypesIndex + 1)

/-- How `next` of a tuple or UDT iterator ends: the field is decoded, and only then the
position in the driver's own types moves on. -/
def nextEntry (metadata : List CassDataType) (currentEntry : Option FieldEntry)
    (columnType : ColumnType) (slice : Option (List UInt8)) : Option (Bool × Option FieldEntry) :=
  match CassRawValue.deserialize columnType slice with
  | .error _ => some (false, currentEntry)
  | .ok rawValue =>
    let newMetadataTypesIndex := nextTypesIndex currentEntry
    metadata[newMetadataTypesIndex]?.map (fun valueType =>
      (true, some ⟨⟨rawValue, valueType⟩, newMetadataTypesIndex⟩))

structure CassTupleIterator where
  iterator : TupleIterator
  metadata : List CassDataType
  currentEntry : Option FieldEntry

def tupleTarget : ColumnType → Option (List UInt8 → Except ε TupleIterator)
  | .tuple types => some (fun slice => .ok ⟨types, types, slice⟩)
  | _ => none

def tupleMetadata : CassDataTypeInner CassDataType → Option (List CassDataType)
  | .tuple types => some types
  | _ => none

def CassTupleIterator.newFromValue (value : CassValue) :
    Option (Except (NonNullDeserializationError ε) CassTupleIterator) :=
  (Result.newFromValue tupleTarget tupleMetadata value).map
    (·.map (fun parts => ⟨parts.1, parts.2, none⟩))

def CassTupleIterator.next (d : Decoder ε) (self : CassTupleIterator) :
    Option (Bool × CassTupleIterator) :=
  match self.iterator.next d with
  | (none, iterator) | (some (.error _), iterator) => some (false, { self with iterator })
  | (some (.ok (columnType, slice)), iterator) =>
    (nextEntry self.metadata self.currentEntry columnType slice).map (fun (more, currentEntry) =>
      (more, { self with iterator, currentEntry }))

structure CassUdtIterator (ε : Type) where
  iterator : UdtIterator ε
  metadata : List (String × CassDataType)
  currentEntry : Option FieldEntry

def udtTarget (d : Decoder ε) : ColumnType → Option (List UInt8 → Except ε (UdtIterator ε))
  | .userDefinedType fieldTypes _ _ _ => some (fun slice => (d.udt fieldTypes slice).map (⟨·⟩))
  | _ => none

def udtMetadata : CassDataTypeInner CassDataType → Option (List (String × CassDataType))
  | .udt u => some u.fieldTypes
  | _ => none

def CassUdtIterator.newFromValue (d : Decoder ε) (value : CassValue) :
    Option (Except (NonNullDeserializationError ε) (CassUdtIterator ε)) :=
  (Result.newFromValue (udtTarget d) udtMetadata value).map
    (·.map (fun parts => ⟨parts.1, parts.2, none⟩))

/- A missing field is no error. -/
def CassUdtIterator.next (self : CassUdtIterator ε) : Option (Bool × CassUdtIterator ε) :=
  match self.iterator.next with
  | (none, iterator) | (some (_, .error _), iterator) => some (false, { self with iterator })
  | (some ((_, fieldType), .ok fieldValue), iterator) =>
    (nextEntry (self.metadata.map Prod.snd) self.currentEntry fieldType fieldValue.join).map
      (fun (more, currentEntry) => (more, { self with iterator, currentEntry }))

/-- The iterators that come from a result; a result without rows has an empty one. -/
inductive CassIterator (ε : Type) where
  | result (it : Option (CassRowsResultIterator ε))
  | row (it : CassRowIterator)
  | listlike (it : CassElementIterator ε)
  | mapCollection (it : CassMapCollectionIterator ε)
  | map (it : CassMapIterator ε)
  | tuple (it : CassTupleIterator)
  | udt (it : CassUdtIterator ε)
  | vector (it : CassElementIterator ε)

namespace CassIterator

def next (d : Decoder ε) : CassIterator ε → Option (Bool × CassIterator ε)
  | .result none => some (false, .result none)
  | .result (some it) => some ((it.next d).map id (fun it => .result (some it)))
  | .row it => some (it.next.map id .row)
  | .listlike it => some (it.next.map id .listlike)
  | .mapCollection it => some (it.next.map id .mapCollection)
  | .map it => some (it.next.map id .map)
  | .tuple it => (it.next d).map (Prod.map id .tuple)
  | .udt it => it.next.map (Prod.map id .udt)
  | .vector it => some (it.next.map id .vector)

def getRow : CassIterator ε → Option CassRow
  | .result (some it) => it.currentRow
  | _ => none

def getColumn : CassIterator ε → Option CassValue
  | .row it => it.position.bind (fun position => it.row.columns[position]?)
  | _ => none

def getValue : CassIterator ε → Option CassValue
  | .listlike it | .vector it => it.currentValue
  | .mapCollection it =>
    match it.state with
    | none => none
    | some .key => it.iterator.currentEntry.map Prod.fst
    | some .value => it.iterator.currentEntry.map Prod.snd
  | .tuple it => it.currentEntry.map FieldEntry.fieldValue
  | _ => none

def getMapKey : CassIterator ε → Option CassValue
  | .map it => it.currentEntry.map Prod.fst
  | _ => none

def getMapValue : CassIterator ε → Option CassValue
  | .map it => it.currentEntry.map Prod.snd
  | _ => none

/- The index into the metadata is not checked. -/
def getUserTypeFieldName : CassIterator ε → Option (Except CassError String)
  | .udt it =>
    match it.currentEntry with
    | some entry => it.metadata[entry.metadataTypesIndex]?.map (fun field => .ok field.1)
    | none => some (.error .libBadParams)
  | _ => some (.error .libBadParams)

def getUserTypeFieldValue : CassIterator ε → Option CassValue
  | .udt it => it.currentEntry.map FieldEntry.fieldValue
  | _ => none

/-- An iterator from its construction; one that failed is a null pointer. -/
def ofConstructed {α : Type} (wrap : α → CassIterator ε) :
    Option (Except (NonNullDeserializationError ε) α) → Option (Option (CassIterator ε)) :=
  Option.map (fun constructed => constructed.toOption.map wrap)

/- Whether the value is a map is read off its data type. -/
def fromCollection (d : Decoder ε) (value : CassValue) : Option (Option (CassIterator ε)) :=
  match value.valueType.inner.getValueType with
  | .set | .list => ofConstructed .listlike (CassListlikeIterator.newFromValue d value)
  | .map =>
    ofConstructed (fun it => .mapCollection ⟨it, none⟩) (CassMapIterator.newFromValue d value)
  | _ => some none

def fromTuple (value : CassValue) : Option (Option (CassIterator ε)) :=
  ofConstructed .tuple (CassTupleIterator.newFromValue value)

def fromVector (d : Decoder ε) (value : CassValue) : Option (Option (CassIterator ε)) :=
  ofConstructed .vector (CassVectorIterator.newFromValue d value)

def fromMap (d : Decoder ε) (value : CassValue) : Option (Option (CassIterator ε)) :=
  ofConstructed .map (CassMapIterator.newFromValue d value)

def fieldsFromUserType (d : Decoder ε) (value : CassValue) : Option (Option (CassIterator ε)) :=
  ofConstructed .udt (CassUdtIterator.newFromValue d value)

end CassIterator

end Iterators

end CppRsDriver.Result
