import CppRsDriver.Types.Value

/-! Tuples, collections, user types and vectors under construction. Every setter
returns a code and the container as it leaves it; `none` stands for a panic, or for
a type check that does not return. -/
namespace CppRsDriver.Types

section Containers
variable {D : Type} (types : TypeOps D)

structure CassTuple (D : Type) where
  dataType : Option D
  items : List (Option (CassCqlValue D))

inductive CollectionType where
  | list
  | set
  | map
  deriving DecidableEq, Repr

structure CassCollection (D : Type) where
  collectionType : CollectionType
  dataType : Option D
  items : List (CassCqlValue D)

structure CassUserType (D : Type) where
  dataType : D
  fieldValues : List (Option (CassCqlValue D))

structure CassVector (D : Type) where
  dataType : D
  elementType : D
  items : List (Option (CassCqlValue D))

/- A rejected value leaves the container as it was. -/
def checked {C : Type} (check : Option Bool) (container updated : C) : Option (CassError × C) :=
  check.map (fun ok => if ok then (.ok, updated) else (.libInvalidValueType, container))

namespace CassTuple

def new (itemCount : Nat) : CassTuple D := ⟨none, List.replicate itemCount none⟩

def newFromDataType (dataType : D) : Option (CassTuple D) :=
  match types.getUnchecked dataType with
  | .tuple subtypes => some ⟨some dataType, List.replicate subtypes.length none⟩
  | _ => none

def bindValue (tuple : CassTuple D) (index : Nat) (v : Option (CassCqlValue D)) :
    Option (CassError × CassTuple D) :=
  if index ≥ tuple.items.length then some (.libIndexOutOfBounds, tuple)
  else
    let updated := { tuple with items := tuple.items.set index v }
    match tuple.dataType with
    | none => some (.ok, updated)
    | some dataType =>
      match types.getUnchecked dataType with
      | .tuple innerTypes => do
        -- `inner_types[index]`
        let typ ← innerTypes[index]?
        checked (isTypeCompatible types v typ) tuple updated
      -- `unreachable!`
      | _ => none

def toCqlValue (tuple : CassTuple D) : CassCqlValue D := .tuple tuple.dataType tuple.items

end CassTuple

namespace CassCollection

def new (collectionType : CollectionType) : CassCollection D := ⟨collectionType, none, []⟩

def newFromDataType (dataType : D) : Option (CassCollection D) :=
  match types.getUnchecked dataType with
  | .list _ _ => some ⟨.list, some dataType, []⟩
  | .set _ _ => some ⟨.set, some dataType, []⟩
  | .map _ _ => some ⟨.map, some dataType, []⟩
  | _ => none

/-- The subtype the next value of a collection is checked against: an element, or a
key at an even and a value at an odd position; a missing subtype is not checked. -/
def subtypeAt (inner : CassDataTypeInner D) (index : Nat) : Except CassError (Option D) :=
  match inner with
  | .list subtype _ | .set subtype _ => .ok subtype
  | .map (.key k) _ => .ok (if index % 2 = 0 then some k else none)
  | .map (.keyAndValue k v) _ => .ok (if index % 2 = 0 then some k else some v)
  | .map .untyped _ => .ok none
  | _ => .error .libInvalidValueType

def typecheckOnAppend (collection : CassCollection D) (value : Option (CassCqlValue D)) :
    Option CassError :=
  match collection.dataType with
  | none => some .ok
  | some dataType =>
    match subtypeAt (types.getUnchecked dataType) collection.items.length with
    | .error e => some e
    | .ok none => some .ok
    | .ok (some subtype) =>
      (isTypeCompatible types value subtype).map (fun ok =>
        if ok then .ok else .libInvalidValueType)

def appendCqlValue (collection : CassCollection D) (value : Option (CassCqlValue D)) :
    Option (CassError × CassCollection D) := do
  let err ← collection.typecheckOnAppend types value
  if err = .ok then
    -- `value.unwrap()`
    let v ← value
    return (.ok, { collection with items := collection.items ++ [v] })
  else return (err, collection)

/-- `as_chunks::<2>`, or nothing when an item is left over. -/
def pairs : List (CassCqlValue D) → Option (List (CassCqlValue D × CassCqlValue D))
  | [] => some []
  | [_] => none
  | key :: value :: rest => (pairs rest).map ((key, value) :: ·)

def toCqlValue (collection : CassCollection D) : Except CassError (CassCqlValue D) :=
  match collection.collectionType with
  | .list => .ok (.list collection.dataType collection.items)
  | .map =>
    match pairs collection.items with
    | some groupedItems => .ok (.map collection.dataType groupedItems)
    | none => .error .libInvalidItemCount
  | .set => .ok (.set collection.dataType collection.items)

end CassCollection

namespace CassUserType

def newFromDataType (dataType : D) : Option (CassUserType D) :=
  match types.getUnchecked dataType with
  | .udt udt => some ⟨dataType, List.replicate udt.fieldTypes.length none⟩
  | _ => none

/- `get_udt_type` panics on any other type. -/
def fieldTypes (userType : CassUserType D) : Option (List (String × D)) :=
  match types.getUnchecked userType.dataType with
  | .udt udt => some udt.fieldTypes
  | _ => none

def setFieldByIndex (userType : CassUserType D) (index : Nat) (value : Option (CassCqlValue D)) :
    Option (CassError × CassUserType D) :=
  if index ≥ userType.fieldValues.length then some (.libIndexOutOfBounds, userType)
  else do
    let fieldTypes ← userType.fieldTypes types
    -- `field_types[index].1`
    let field ← fieldTypes[index]?
    checked (isTypeCompatible types value field.2) userType
      { userType with fieldValues := userType.fieldValues.set index value }

/- The loop over the fields from `index` on: every field of the name is set, the
first one that cannot be ends the loop with what has been set before. -/
def setFieldsFrom (name : String) (value : Option (CassCqlValue D)) :
    Nat → List (String × D) → Bool → CassUserType D → Option (CassError × CassUserType D)
  | _, [], foundField, userType =>
    some (if foundField then .ok else .libNameDoesNotExist, userType)
  | index, (fieldName, fieldType) :: rest, foundField, userType =>
    if fieldName = name then
      if index ≥ userType.fieldValues.length then some (.libIndexOutOfBounds, userType)
      else do
        if ← isTypeCompatible types value fieldType then
          setFieldsFrom name value (index + 1) rest true
            { userType with fieldValues := userType.fieldValues.set index value }
        else return (.libInvalidValueType, userType)
    else setFieldsFrom name value (index + 1) rest foundField userType

def setFieldByName (userType : CassUserType D) (name : String) (value : Option (CassCqlValue D)) :
    Option (CassError × CassUserType D) := do
  let fieldTypes ← userType.fieldTypes types
  setFieldsFrom types name value 0 fieldTypes false userType

def toCqlValue (userType : CassUserType D) : Option (CassCqlValue D) := do
  let fieldTypes ← userType.fieldTypes types
  return .userDefinedType userType.dataType
    ((userType.fieldValues.zip fieldTypes).map (fun (v, field) => (field.1, v)))

end CassUserType

namespace CassVector

def newFromDataType (dataType : D) : Option (CassVector D) :=
  match types.getUnchecked dataType with
  | .vector typ dimensions => some ⟨dataType, typ, List.replicate dimensions.toNat none⟩
  | _ => none

def bindValue (vector : CassVector D) (index : Nat) (v : CassCqlValue D) :
    Option (CassError × CassVector D) :=
  if index ≥ vector.items.length then some (.libIndexOutOfBounds, vector)
  else
    checked (v.isTypeCompatible types vector.elementType) vector
      { vector with items := vector.items.set index (some v) }

def toCqlValue (vector : CassVector D) : CassCqlValue D :=
  .vector vector.dataType vector.elementType vector.items

end CassVector

end Containers

end CppRsDriver.Types
