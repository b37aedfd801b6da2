import CppRsDriver.Wire.Scalar

/-! Serialization of a value. It looks at the value and at the element types of its
vectors only, never at the column. -/
namespace CppRsDriver.Wire

open CppRsDriver.Lib CppRsDriver.Types

/-- A cell carries its length in front of it unless the writer was made without size. -/
inductive CellWriter where
  | sized
  | withoutSize
  deriving DecidableEq, Repr

inductive SerializationError where
  | sizeOverflow
  | tupleElement (index : Nat) (err : SerializationError)
  | listTooManyElements
  | listElement (err : SerializationError)
  | mapTooManyElements
  | mapKey (err : SerializationError)
  | mapValue (err : SerializationError)
  | vectorElement (err : SerializationError)
  | vectorElementNotSet (index : Nat)
  | udtField (fieldName : String) (err : SerializationError)
  deriving DecidableEq, Repr

def finish (writer : CellWriter) (content : List UInt8) :
    Except SerializationError (List UInt8) :=
  match writer with
  | .withoutSize => .ok content
  | .sized =>
    if content.length < 2 ^ 31 then .ok (beBytes 4 content.length ++ content)
    else .error .sizeOverflow

/- `set_null`: the length −1. -/
def nullCell : List UInt8 := beBytes 4 (2 ^ 32 - 1)

/-- How a part of a value writes itself. -/
abbrev Serializer := CellWriter → Except SerializationError (List UInt8)

/- The functions below fill the value builder, which `do_serialize` then finishes. -/

def tupleCell (index : Nat) : Option Serializer → Except SerializationError (List UInt8)
  | none => .ok nullCell
  | some el => (el .sized).mapError (.tupleElement index)

def serializeTupleLike (fields : List (Option Serializer)) :
    Except SerializationError (List UInt8) :=
  writeEach tupleCell 0 fields

def udtCell (_index : Nat) : String × Option Serializer → Except SerializationError (List UInt8)
  | (_, none) => .ok nullCell
  | (fieldName, some v) => (v .sized).mapError (.udtField fieldName)

def serializeUdt (fields : List (String × Option Serializer)) :
    Except SerializationError (List UInt8) :=
  writeEach udtCell 0 fields

/- `element_count`, an `i32`, in front of the elements. -/
def counted (count : Nat) (tooMany : SerializationError)
    (elements : Except SerializationError (List UInt8)) : Except SerializationError (List UInt8) :=
  if count < 2 ^ 31 then elements.map (beBytes 4 count ++ ·) else .error tooMany

def listCell (_index : Nat) (el : Serializer) : Except SerializationError (List UInt8) :=
  (el .sized).mapError .listElement

def serializeSequence (values : List Serializer) : Except SerializationError (List UInt8) :=
  counted values.length .listTooManyElements (writeEach listCell 0 values)

def mapCells (_index : Nat) (pair : Serializer × Serializer) :
    Except SerializationError (List UInt8) :=
  ((pair.1 .sized).mapError .mapKey).bind (fun key =>
    ((pair.2 .sized).mapError .mapValue).bind (fun value => .ok (key ++ value)))

def serializeMapping (values : List (Serializer × Serializer)) :
    Except SerializationError (List UInt8) :=
  counted values.length .mapTooManyElements (writeEach mapCells 0 values)

/- An element is written raw, or with its length as an unsigned vint in front of it. -/
def vectorElement (variableLength : Bool) (index : Nat) :
    Option Serializer → Except SerializationError (List UInt8)
  | none => .error (.vectorElement (.vectorElementNotSet index))
  | some element =>
    ((element .withoutSize).mapError .vectorElement).bind (fun content => .ok
      (if variableLength then unsignedVintEncode (UInt64.ofNat content.length) ++ content
      else content))

def serializeVector (variableLength : Bool) (values : List (Option Serializer)) :
    Except SerializationError (List UInt8) :=
  writeEach (vectorElement variableLength) 0 values

section Serialize
variable {D : Type} (variableLength : D → Bool)

/-- The body of `do_serialize` up to `finish`, given how the parts of the value are
written; `variableLength` is `uses_variable_length_encoding_in_vector`. -/
def contentWith : ValueLayer D Serializer → Except SerializationError (List UInt8)
  | .scalar s => .ok (scalarBytes s)
  | .tuple _ fields => serializeTupleLike fields
  | .list _ values | .set _ values => serializeSequence values
  | .map _ values => serializeMapping values
  | .vector _ elementType values => serializeVector (variableLength elementType) values
  | .userDefinedType _ fields => serializeUdt fields

def serializeWith (layer : ValueLayer D Serializer) : Serializer := fun writer =>
  (contentWith variableLength layer).bind (finish writer)

def doSerialize : CassCqlValue D → Serializer := CassCqlValue.fold (serializeWith variableLength)

/-- The bytes of a value without a length in front. -/
def content (v : CassCqlValue D) : Except SerializationError (List UInt8) :=
  doSerialize variableLength v .withoutSize

theorem serializeWith_withoutSize (layer : ValueLayer D Serializer) :
    serializeWith variableLength layer .withoutSize = contentWith variableLength layer := by
  rw [serializeWith]
  cases contentWith variableLength layer <;> rfl

theorem content_tuple (dataType : Option D) (fields : List (Option (CassCqlValue D))) :
    content variableLength (.tuple dataType fields) =
      writeEach (fun i field => tupleCell i (field.map (doSerialize variableLength))) 0 fields := by
  simp only [content, doSerialize, CassCqlValue.fold, CassCqlValue.foldOptions_eq,
    serializeWith_withoutSize, contentWith,
    serializeTupleLike, writeEach_map]

theorem content_list (dataType : Option D) (values : List (CassCqlValue D)) :
    content variableLength (.list dataType values) = counted values.length .listTooManyElements
      (writeEach (fun i v => listCell i (doSerialize variableLength v)) 0 values) := by
  simp only [content, doSerialize, CassCqlValue.fold, CassCqlValue.foldList_eq,
    serializeWith_withoutSize, contentWith,
    serializeSequence, writeEach_map, List.length_map]

theorem content_set (dataType : Option D) (values : List (CassCqlValue D)) :
    content variableLength (.set dataType values) = content variableLength (.list dataType values) := by
  simp only [content, doSerialize, CassCqlValue.fold, serializeWith_withoutSize, contentWith]

theorem content_map (dataType : Option D) (values : List (CassCqlValue D × CassCqlValue D)) :
    content variableLength (.map dataType values) = counted values.length .mapTooManyElements
      (writeEach (fun i pair => mapCells i
        (doSerialize variableLength pair.1, doSerialize variableLength pair.2)) 0 values) := by
  simp only [content, doSerialize, CassCqlValue.fold, CassCqlValue.foldPairs_eq,
    serializeWith_withoutSize, contentWith,
    serializeMapping, writeEach_map, List.length_map]

theorem content_vector (dataType elementType : D) (values : List (Option (CassCqlValue D))) :
    content variableLength (.vector dataType elementType values) =
      writeEach (fun i element => vectorElement (variableLength elementType) i
        (element.map (doSerialize variableLength))) 0 values := by
  simp only [content, doSerialize, CassCqlValue.fold, CassCqlValue.foldOptions_eq,
    serializeWith_withoutSize, contentWith,
    serializeVector, writeEach_map]

theorem content_userDefinedType (dataType : D) (fields : List (String × Option (CassCqlValue D))) :
    content variableLength (.userDefinedType dataType fields) =
      writeEach (fun i field => udtCell i (field.1, field.2.map (doSerialize variableLength)))
        0 fields := by
  simp only [content, doSerialize, CassCqlValue.fold, CassCqlValue.foldNamed_eq,
    serializeWith_withoutSize, contentWith,
    serializeUdt, writeEach_map]

theorem doSerialize_eq (v : CassCqlValue D) (writer : CellWriter) :
    doSerialize variableLength v writer = (content variableLength v).bind (finish writer) := by
  cases v <;> simp only [content, doSerialize, CassCqlValue.fold, serializeWith_withoutSize] <;> rfl

variable {variableLength}

theorem sized_eq_ok {v : CassCqlValue D} {cell : List UInt8}
    (written : doSerialize variableLength v .sized = .ok cell) :
    ∃ bytes, content variableLength v = .ok bytes ∧ bytes.length < 2 ^ 31 ∧
      cell = beBytes 4 bytes.length ++ bytes := by
  rw [doSerialize_eq] at written
  obtain ⟨bytes, inner, finished⟩ := bind_eq_ok.mp written
  simp only [finish] at finished
  split at finished
  · rename_i small
    exact ⟨bytes, inner, small, (Except.ok.inj finished).symm⟩
  · contradiction

end Serialize

end CppRsDriver.Wire
