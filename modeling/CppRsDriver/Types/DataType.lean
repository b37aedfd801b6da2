import CppRsDriver.Basic
import Mathlib.Data.List.Basic

/-! One layer of a data type over references to its subtypes. A reference is an
`Arc` into the data-type heap, or the subtype itself where nothing is modified;
what a function does with a subtype is a parameter. A check that panics or does
not return gives `none`. -/
namespace CppRsDriver.Types

inductive CassValueType where
  | unknown
  | custom
  | ascii
  | bigint
  | blob
  | boolean
  | counter
  | decimal
  | double
  | float
  | int
  | text
  | timestamp
  | uuid
  | varchar
  | varint
  | timeuuid
  | inet
  | date
  | time
  | smallInt
  | tinyInt
  | duration
  | list
  | map
  | set
  | udt
  | tuple
  | vector
  | lastEntry
  deriving DecidableEq, Repr

/-- The native types the driver names. -/
inductive NativeType where
  | ascii
  | boolean
  | blob
  | counter
  | date
  | decimal
  | double
  | duration
  | float
  | int
  | bigInt
  | text
  | timestamp
  | inet
  | smallInt
  | tinyInt
  | time
  | timeuuid
  | uuid
  | varint
  deriving DecidableEq, Repr

def NativeType.toValueType : NativeType → CassValueType
  | .ascii => .ascii
  | .boolean => .boolean
  | .blob => .blob
  | .counter => .counter
  | .date => .date
  | .decimal => .decimal
  | .double => .double
  | .duration => .duration
  | .float => .float
  | .int => .int
  | .bigInt => .bigint
  -- the servers send the type VARCHAR
  | .text => .varchar
  | .timestamp => .timestamp
  | .inet => .inet
  | .smallInt => .smallInt
  | .tinyInt => .tinyInt
  | .time => .time
  | .timeuuid => .timeuuid
  | .uuid => .uuid
  | .varint => .varint

def CassValueType.toNativeType : CassValueType → Option NativeType
  | .ascii => some .ascii
  | .bigint => some .bigInt
  | .blob => some .blob
  | .boolean => some .boolean
  | .counter => some .counter
  | .decimal => some .decimal
  | .double => some .double
  | .duration => some .duration
  | .float => some .float
  | .int => some .int
  | .text | .varchar => some .text
  | .timestamp => some .timestamp
  | .uuid => some .uuid
  | .varint => some .varint
  | .timeuuid => some .timeuuid
  | .inet => some .inet
  | .date => some .date
  | .time => some .time
  | .smallInt => some .smallInt
  | .tinyInt => some .tinyInt
  | _ => none

theorem toNativeType_toValueType (native : NativeType) :
    native.toValueType.toNativeType = some native := by
  cases native <;> rfl

inductive MapDataType (D : Type) where
  | untyped
  | key (k : D)
  | keyAndValue (k v : D)
  deriving DecidableEq, Repr

structure UdtDataType (D : Type) where
  fieldTypes : List (String × D) := []
  keyspace : String := ""
  name : String := ""
  frozen : Bool := false
  deriving DecidableEq, Repr

/-- An absent subtype of a list or set, or an empty list of subtypes, is untyped. -/
inductive CassDataTypeInner (D : Type) where
  | value (t : CassValueType)
  | udt (udt : UdtDataType D)
  | list (typ : Option D) (frozen : Bool)
  | set (typ : Option D) (frozen : Bool)
  | map (typ : MapDataType D) (frozen : Bool)
  | tuple (types : List D)
  | vector (typ : D) (dimensions : UInt16)
  | custom (className : String)
  deriving DecidableEq, Repr

def anyStringEmptyOrBothEqual (s1 s2 : String) : Bool := s1 == "" || s2 == "" || s1 == s2

def valueTypesEqual : CassValueType → CassValueType → Bool
  | .text, .varchar | .varchar, .text => true
  | t1, t2 => t1 == t2

def UdtDataType.mapSubtypes {D E : Type} (f : D → E) (udt : UdtDataType D) : UdtDataType E where
  fieldTypes := udt.fieldTypes.map (fun field => (field.1, f field.2))
  keyspace := udt.keyspace
  name := udt.name
  frozen := udt.frozen

def MapDataType.mapSubtypes {D E : Type} (f : D → E) : MapDataType D → MapDataType E
  | .untyped => .untyped
  | .key k => .key (f k)
  | .keyAndValue k v => .keyAndValue (f k) (f v)

namespace CassDataTypeInner
variable {D E : Type}

def mapSubtypes (f : D → E) : CassDataTypeInner D → CassDataTypeInner E
  | .value t => .value t
  | .udt u => .udt (u.mapSubtypes f)
  | .list typ frozen => .list (typ.map f) frozen
  | .set typ frozen => .set (typ.map f) frozen
  | .map typ frozen => .map (typ.mapSubtypes f) frozen
  | .tuple types => .tuple (types.map f)
  | .vector typ dimensions => .vector (f typ) dimensions
  | .custom className => .custom className

def getValueType : CassDataTypeInner D → CassValueType
  | .value t => t
  | .udt _ => .udt
  | .list _ _ => .list
  | .set _ _ => .set
  | .map _ _ => .map
  | .tuple _ => .tuple
  | .vector _ _ => .vector
  | .custom _ => .custom

def getSubDataType (inner : CassDataTypeInner D) (index : Nat) : Option D :=
  match inner with
  | .udt u => (u.fieldTypes[index]?).map Prod.snd
  | .list typ _ | .set typ _ => if index > 0 then none else typ
  | .map .untyped _ => none
  | .map (.key k) _ => if index = 0 then some k else none
  | .map (.keyAndValue k v) _ =>
    match index with
    | 0 => some k
    | 1 => some v
    | _ => none
  | .tuple types => types[index]?
  | .vector typ _ => if index = 0 then some typ else none
  | _ => none

def addSubDataType (inner : CassDataTypeInner D) (subType : D) :
    Except CassError (CassDataTypeInner D) :=
  match inner with
  | .list (some _) _ | .set (some _) _ => .error .libBadParams
  | .list none frozen => .ok (.list (some subType) frozen)
  | .set none frozen => .ok (.set (some subType) frozen)
  | .map (.keyAndValue _ _) _ => .error .libBadParams
  | .map (.key k) frozen => .ok (.map (.keyAndValue k subType) frozen)
  | .map .untyped frozen => .ok (.map (.key subType) frozen)
  | .tuple types => .ok (.tuple (types ++ [subType]))
  | _ => .error .libInvalidValueType

/-- All subtypes, in order. -/
def children : CassDataTypeInner D → List D
  | .value _ | .custom _ => []
  | .udt u => u.fieldTypes.map Prod.snd
  | .list typ _ | .set typ _ => typ.toList
  | .map .untyped _ => []
  | .map (.key k) _ => [k]
  | .map (.keyAndValue k v) _ => [k, v]
  | .tuple types => types
  | .vector typ _ => [typ]

theorem children_mapSubtypes (g : D → E) (self : CassDataTypeInner D) :
    (self.mapSubtypes g).children = self.children.map g := by
  cases self with
  | udt u => simp [mapSubtypes, children, UdtDataType.mapSubtypes, Function.comp_def]
  | list typ | set typ => cases typ <;> rfl
  | map typ => cases typ <;> rfl
  | _ => rfl

theorem getValueType_mapSubtypes (g : D → E) (self : CassDataTypeInner D) :
    (self.mapSubtypes g).getValueType = self.getValueType := by
  cases self <;> rfl

theorem mapSubtypes_id (self : CassDataTypeInner D) : self.mapSubtypes id = self := by
  cases self with
  | udt u => simp [mapSubtypes, UdtDataType.mapSubtypes]
  | list typ | set typ => simp [mapSubtypes]
  | map typ => cases typ <;> rfl
  | tuple types => simp [mapSubtypes]
  | _ => rfl

section Checks
variable (check : D → E → Option Bool)

/- The loop over the fields both types share: UDTs only ever grow at the end. -/
def typecheckUdt (self : UdtDataType D) (other : UdtDataType E) : Option Bool :=
  if !anyStringEmptyOrBothEqual self.keyspace other.keyspace then some false
  else if !anyStringEmptyOrBothEqual self.name other.name then some false
  else (self.fieldTypes.zip other.fieldTypes).allM (fun (field, otherField) =>
    if field.1 != otherField.1 then some false else check field.2 otherField.2)

/- One of them untyped: the check of the subtype is skipped. -/
def typecheckElement : Option D → Option E → Option Bool
  | some typ, some otherTyp => check typ otherTyp
  | _, _ => some true

def typecheckMap : MapDataType D → MapDataType E → Option Bool
  | .untyped, _ | _, .untyped => some true
  | .key k, .key otherK => check k otherK
  | .keyAndValue k v, .keyAndValue otherK otherV => do
    if ← check k otherK then check v otherV else some false
  | _, _ => some false

def typecheckTuple (types : List D) (otherTypes : List E) : Option Bool :=
  if types.isEmpty || otherTypes.isEmpty then some true
  else if types.length ≠ otherTypes.length then some false
  else (types.zip otherTypes).allM (fun (typ, otherTyp) => check typ otherTyp)

/-- The body of `typecheck_equals`, given how it goes on with two subtypes. -/
def typecheckWith (self : CassDataTypeInner D) (other : CassDataTypeInner E) : Option Bool :=
  match self, other with
  | .value t, _ => some (valueTypesEqual t other.getValueType)
  | .udt u, .udt otherU => typecheckUdt check u otherU
  | .list typ _, .list otherTyp _ | .set typ _, .set otherTyp _ =>
    typecheckElement check typ otherTyp
  | .map typ _, .map otherTyp _ => typecheckMap check typ otherTyp
  | .tuple types, .tuple otherTypes => typecheckTuple check types otherTypes
  | .vector typ dimensions, .vector otherTyp otherDimensions =>
    if dimensions = otherDimensions then check typ otherTyp else some false
  -- `unimplemented!`
  | .custom _, _ => none
  | _, _ => some false

end Checks

/-- The body of `is_fully_typed`. -/
def isFullyTypedWith (sub : D → Bool) : CassDataTypeInner D → Bool
  | .value _ => true
  | .custom _ => false
  | .list typ _ | .set typ _ => typ.any sub
  | .map .untyped _ | .map (.key _) _ => false
  | .map (.keyAndValue k v) _ => sub k && sub v
  | .tuple types => !types.isEmpty && types.all sub
  | .udt u => !u.fieldTypes.isEmpty && u.fieldTypes.all (fun field => sub field.2)
  | .vector typ _ => sub typ

/-- The same, where the check of a subtype may not return. -/
def isFullyTypedM (sub : D → Option Bool) : CassDataTypeInner D → Option Bool
  | .value _ => some true
  | .custom _ => some false
  | .list typ _ | .set typ _ => typ.elim (some false) sub
  | .map .untyped _ | .map (.key _) _ => some false
  | .map (.keyAndValue k v) _ => do
    if ← sub k then sub v else some false
  | .tuple types => if types.isEmpty then some false else types.allM sub
  | .udt u =>
    if u.fieldTypes.isEmpty then some false else u.fieldTypes.allM (fun field => sub field.2)
  | .vector typ _ => sub typ

/-- The body of `uses_variable_length_encoding_in_vector`; `sizes` stands for the
driver's `type_size_for_vector`. -/
def usesVariableLengthWith (sizes : NativeType → Option Nat) (sub : D → Bool) :
    CassDataTypeInner D → Bool
  | .value t => !(t.toNativeType.any (fun native => (sizes native).isSome))
  | .vector typ _ => sub typ
  | _ => true

/-- The same, where the check of a subtype may not return. -/
def usesVariableLengthM (sizes : NativeType → Option Nat) (sub : D → Option Bool) :
    CassDataTypeInner D → Option Bool
  | .value t => some (!(t.toNativeType.any (fun native => (sizes native).isSome)))
  | .vector typ _ => sub typ
  | _ => some true

end CassDataTypeInner

end CppRsDriver.Types
