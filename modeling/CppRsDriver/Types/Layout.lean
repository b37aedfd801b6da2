import CppRsDriver.Types.Compatibility

/-! Data types laid out as a column. A type accepted for a type of the column's layout
has that layout itself, once its user-defined types have the column's fields. -/
namespace CppRsDriver.Types

open CppRsDriver.Lib

/-- The data type names the same layout as the column, up to keyspaces and type names. -/
inductive Alike : CassDataType → ColumnType → Prop where
  | value (t native) (same : t.canonical = native.toValueType.canonical) :
      Alike (.mk (.value t)) (.native native)
  | list (typ c frozen frozen') (sub : Alike typ c) :
      Alike (.mk (.list (some typ) frozen)) (.list c frozen')
  | set (typ c frozen frozen') (sub : Alike typ c) :
      Alike (.mk (.set (some typ) frozen)) (.set c frozen')
  | map (k v key value frozen frozen') (keys : Alike k key) (values : Alike v value) :
      Alike (.mk (.map (.keyAndValue k v) frozen)) (.map key value frozen')
  | tuple (types columns) (nonempty : columns ≠ []) (length : types.length = columns.length)
      (sub : ∀ typ c, (typ, c) ∈ types.zip columns → Alike typ c) :
      Alike (.mk (.tuple types)) (.tuple columns)
  | vector (typ c dimensions) (sub : Alike typ c) :
      Alike (.mk (.vector typ dimensions)) (.vector c dimensions)
  | udt (udt : UdtDataType CassDataType) (fieldTypes keyspace name frozen)
      (names : udt.fieldTypes.map Prod.fst = fieldTypes.map Prod.fst)
      (sub : ∀ field fieldType, (field, fieldType) ∈ udt.fieldTypes.zip fieldTypes →
        Alike field.2 fieldType.2) :
      Alike (.mk (.udt udt)) (.userDefinedType fieldTypes keyspace name frozen)

section Columns

mutual
def ColumnType.nonemptyTuples : ColumnType → Bool
  | .native _ => true
  | .list typ _ | .set typ _ | .vector typ _ => nonemptyTuples typ
  | .map key value _ => nonemptyTuples key && nonemptyTuples value
  | .userDefinedType fieldTypes _ _ _ => nonemptyTuplesFields fieldTypes
  | .tuple types => !types.isEmpty && nonemptyTuplesList types
termination_by structural c => c

def ColumnType.nonemptyTuplesList : List ColumnType → Bool
  | [] => true
  | c :: types => nonemptyTuples c && nonemptyTuplesList types
termination_by structural types => types

def ColumnType.nonemptyTuplesFields : List (String × ColumnType) → Bool
  | [] => true
  | (_, c) :: fields => nonemptyTuples c && nonemptyTuplesFields fields
termination_by structural fields => fields
end

theorem ColumnType.nonemptyTuplesList_eq (types : List ColumnType) :
    nonemptyTuplesList types = types.all nonemptyTuples := by
  induction types with
  | nil => rw [nonemptyTuplesList, List.all_nil]
  | cons c types ih => rw [nonemptyTuplesList, ih, List.all_cons]

theorem ColumnType.nonemptyTuplesFields_eq (fields : List (String × ColumnType)) :
    nonemptyTuplesFields fields = fields.all (fun field => nonemptyTuples field.2) := by
  induction fields with
  | nil => rw [nonemptyTuplesFields, List.all_nil]
  | cons field fields ih => rw [nonemptyTuplesFields, ih, List.all_cons]

theorem zip_map_self {α β : Type} {f : α → β} {xs : List α} {y : β} {x : α}
    (member : (y, x) ∈ (xs.map f).zip xs) : y = f x ∧ x ∈ xs := by
  have pairs : (xs.map f).zip xs = xs.map (fun x => (f x, x)) := by
    simpa using List.zip_map' (f := f) (g := id) (l := xs)
  rw [pairs, List.mem_map] at member
  obtain ⟨x', inside, same⟩ := member
  cases same
  exact ⟨rfl, inside⟩

theorem alike_getColumnType (c : ColumnType) :
    c.nonemptyTuples = true → Alike (getColumnType c) c := by
  refine ColumnType.forall_columns
    (motive := fun c => c.nonemptyTuples = true → Alike (getColumnType c) c)
    ⟨?native, ?list, ?set, ?map, ?userDefinedType, ?tuple, ?vector⟩ c
  case native => exact fun t _ => .value _ _ rfl
  case list => exact fun typ frozen ih nonempty => .list _ _ _ _ (ih nonempty)
  case set => exact fun typ frozen ih nonempty => .set _ _ _ _ (ih nonempty)
  case vector => exact fun typ dimensions ih nonempty => .vector _ _ _ (ih nonempty)
  case map =>
    intro key value frozen keyIh valueIh nonempty
    rw [ColumnType.nonemptyTuples, Bool.and_eq_true] at nonempty
    exact .map _ _ _ _ _ _ (keyIh nonempty.1) (valueIh nonempty.2)
  case tuple =>
    intro types ih nonempty
    rw [ColumnType.nonemptyTuples, ColumnType.nonemptyTuplesList_eq, Bool.and_eq_true,
      List.all_eq_true] at nonempty
    rw [getColumnType, getColumnTypes_eq]
    refine .tuple _ _ (by simpa using nonempty.1) (by simp) ?_
    intro typ c member
    obtain ⟨rfl, inside⟩ := zip_map_self member
    exact ih c inside (nonempty.2 c inside)
  case userDefinedType =>
    intro fieldTypes keyspace name frozen ih nonempty
    rw [ColumnType.nonemptyTuples, ColumnType.nonemptyTuplesFields_eq, List.all_eq_true] at nonempty
    rw [getColumnType, getFieldTypes_eq]
    refine .udt _ _ _ _ _ (by simp) ?_
    intro field fieldType member
    obtain ⟨rfl, inside⟩ := zip_map_self member
    exact ih fieldType inside (nonempty fieldType inside)

end Columns

theorem toNativeType_of_canonical {t t' : CassValueType} (same : t.canonical = t'.canonical) :
    t.toNativeType = t'.toNativeType := by
  cases t <;> cases t' <;> first | rfl | contradiction

namespace CassDataTypeInner
variable {D : Type}

/-- One layer of: every leaf is a native scalar type. -/
def nativeLeavesWith (sub : D → Bool) : CassDataTypeInner D → Bool
  | .value t => t.toNativeType.isSome
  | .custom _ => false
  | inner => inner.children.all sub

/-- One layer of: user-defined types have the field names of the column's. -/
def sameFieldsWith (sub : D → ColumnType → Bool) : CassDataTypeInner D → ColumnType → Bool
  | .udt u, .userDefinedType fieldTypes _ _ _ =>
    u.fieldTypes.map Prod.fst == fieldTypes.map Prod.fst &&
      (u.fieldTypes.zip fieldTypes).all (fun (field, fieldType) => sub field.2 fieldType.2)
  | .list (some typ) _, .list c _ | .set (some typ) _, .set c _ => sub typ c
  | .map (.keyAndValue k v) _, .map keyType valueType _ => sub k keyType && sub v valueType
  | .tuple types, .tuple columns => (types.zip columns).all (fun (typ, c) => sub typ c)
  | .vector typ _, .vector c _ => sub typ c
  | _, _ => true

theorem nativeLeavesWith_mapSubtypes {E : Type} (g : D → E) (sub : E → Bool)
    (self : CassDataTypeInner D) :
    (self.mapSubtypes g).nativeLeavesWith sub = self.nativeLeavesWith (fun d => sub (g d)) := by
  have all := children_mapSubtypes g self
  cases self <;> simp only [mapSubtypes, nativeLeavesWith] at all ⊢ <;>
    simp only [all, List.all_map] <;> rfl

theorem sameFieldsWith_mapSubtypes {E : Type} (g : D → E) (sub : E → ColumnType → Bool)
    (self : CassDataTypeInner D) (c : ColumnType) :
    (self.mapSubtypes g).sameFieldsWith sub c = self.sameFieldsWith (fun d => sub (g d)) c := by
  cases self with
  | udt u =>
    cases c with
    | userDefinedType =>
      simp only [mapSubtypes, sameFieldsWith, UdtDataType.mapSubtypes, List.zip_map_left,
        List.all_map, List.map_map]
      rfl
    | _ => rfl
  | list typ | set typ => cases typ <;> cases c <;> rfl
  | map typ => cases typ <;> cases c <;> rfl
  | tuple types =>
    cases c with
    | tuple =>
      simp only [mapSubtypes, sameFieldsWith, List.zip_map_left, List.all_map]
      rfl
    | _ => rfl
  | _ => cases c <;> rfl

end CassDataTypeInner

namespace CassDataType

def nativeLeaves : CassDataType → Bool := fold (CassDataTypeInner.nativeLeavesWith id)

def sameFields : CassDataType → ColumnType → Bool :=
  fold (CassDataTypeInner.sameFieldsWith (fun same => same))

/-- Fully typed, with native scalar types at the leaves. -/
def usable (d : CassDataType) : Bool := d.isFullyTyped && d.nativeLeaves

theorem nativeLeaves_mk (inner : CassDataTypeInner CassDataType) :
    nativeLeaves (.mk inner) = inner.nativeLeavesWith nativeLeaves := by
  simp only [nativeLeaves, fold_mk, CassDataTypeInner.nativeLeavesWith_mapSubtypes]
  rfl

theorem sameFields_mk (inner : CassDataTypeInner CassDataType) :
    sameFields (.mk inner) = inner.sameFieldsWith sameFields := by
  funext c
  simp only [sameFields, fold_mk, CassDataTypeInner.sameFieldsWith_mapSubtypes]

theorem usable_mk {inner : CassDataTypeInner CassDataType} (ready : usable (.mk inner) = true) :
    inner.isFullyTypedWith isFullyTyped = true ∧ inner.nativeLeavesWith nativeLeaves = true := by
  rwa [usable, isFullyTyped_mk, nativeLeaves_mk, Bool.and_eq_true] at ready

/- A usable type of a container kind is not just the name of the kind. -/
theorem usable_not_bare {t kind : CassValueType} (ready : usable (.mk (.value t)) = true)
    (same : valueTypesEqual t kind = true) : kind.toNativeType ≠ none := by
  have native := (usable_mk ready).2
  rw [CassDataTypeInner.nativeLeavesWith,
    toNativeType_of_canonical ((valueTypesEqual_iff _ _).mp same)] at native
  exact Option.isSome_iff_ne_none.mp native

theorem usable_child {inner : CassDataTypeInner CassDataType} (ready : usable (.mk inner) = true) :
    ∀ d ∈ inner.children, d.usable = true := by
  obtain ⟨full, native⟩ := usable_mk ready
  intro d member
  rw [usable, Bool.and_eq_true]
  cases inner with
  | value | custom => exact absurd member List.not_mem_nil
  | udt u =>
    simp only [CassDataTypeInner.isFullyTypedWith, Bool.and_eq_true, List.all_eq_true] at full
    simp only [CassDataTypeInner.children, List.mem_map] at member
    obtain ⟨field, inside, rfl⟩ := member
    exact ⟨full.2 field inside, List.all_eq_true.mp native _ (List.mem_map_of_mem inside)⟩
  | tuple types =>
    simp only [CassDataTypeInner.isFullyTypedWith, Bool.and_eq_true, List.all_eq_true] at full
    exact ⟨full.2 d member, List.all_eq_true.mp native d member⟩
  | list typ | set typ =>
    cases typ with
    | none => contradiction
    | some typ =>
      cases List.mem_singleton.mp member
      exact ⟨full, List.all_eq_true.mp native _ member⟩
  | vector typ =>
    cases List.mem_singleton.mp member
    exact ⟨full, List.all_eq_true.mp native _ member⟩
  | map typ =>
    cases typ with
    | untyped | key => contradiction
    | keyAndValue k v =>
      simp only [CassDataTypeInner.isFullyTypedWith, Bool.and_eq_true] at full
      refine ⟨?_, List.all_eq_true.mp native d member⟩
      rcases List.mem_pair.mp member with rfl | rfl
      · exact full.1
      · exact full.2

theorem alike_of_typecheckEquals {typ : CassDataType} {c : ColumnType} (alike : Alike typ c) :
    ∀ d : CassDataType, d.usable = true → d.typecheckEquals typ = some true →
      d.sameFields c = true → Alike d c := by
  induction alike with
  | value t native same =>
    rintro ⟨inner⟩ ready accepted fields
    cases (typecheckEquals_iff _ _).mp accepted with
    | value t' _ equal => exact .value _ _ (((valueTypesEqual_iff _ _).mp equal).trans same)
  | list typ c frozen frozen' sub ih =>
    rintro ⟨inner⟩ ready accepted fields
    cases (typecheckEquals_iff _ _).mp accepted with
    | value t' _ equal => exact absurd rfl (usable_not_bare ready equal)
    | list typ' _ _ _ element =>
      cases typ' with
      | none => exact absurd (usable_mk ready).1 (by simp [CassDataTypeInner.isFullyTypedWith])
      | some d =>
        have child := usable_child ready d (by simp [CassDataTypeInner.children])
        rw [sameFields_mk] at fields
        exact .list _ _ _ _ (ih d child (element d typ rfl rfl) fields)
  | set typ c frozen frozen' sub ih =>
    rintro ⟨inner⟩ ready accepted fields
    cases (typecheckEquals_iff _ _).mp accepted with
    | value t' _ equal => exact absurd rfl (usable_not_bare ready equal)
    | set typ' _ _ _ element =>
      cases typ' with
      | none => exact absurd (usable_mk ready).1 (by simp [CassDataTypeInner.isFullyTypedWith])
      | some d =>
        have child := usable_child ready d (by simp [CassDataTypeInner.children])
        rw [sameFields_mk] at fields
        exact .set _ _ _ _ (ih d child (element d typ rfl rfl) fields)
  | map k v key value frozen frozen' keys values keyIh valueIh =>
    rintro ⟨inner⟩ ready accepted fields
    cases (typecheckEquals_iff _ _).mp accepted with
    | value t' _ equal => exact absurd rfl (usable_not_bare ready equal)
    | map typ' _ _ _ subtypes =>
      cases typ' with
      | untyped | key =>
        exact absurd (usable_mk ready).1 (by simp [CassDataTypeInner.isFullyTypedWith])
      | keyAndValue k' v' =>
        have keyReady := usable_child ready k' (by simp [CassDataTypeInner.children])
        have valueReady := usable_child ready v' (by simp [CassDataTypeInner.children])
        rw [sameFields_mk, CassDataTypeInner.sameFieldsWith, Bool.and_eq_true] at fields
        exact .map _ _ _ _ _ _ (keyIh k' keyReady subtypes.1 fields.1)
          (valueIh v' valueReady subtypes.2 fields.2)
  | tuple types columns nonempty length sub ih =>
    rintro ⟨inner⟩ ready accepted fields
    cases (typecheckEquals_iff _ _).mp accepted with
    | value t' _ equal => exact absurd rfl (usable_not_bare ready equal)
    | tupleUntyped types' _ untyped =>
      rcases untyped with rfl | rfl
      · exact absurd (usable_mk ready).1 (by simp [CassDataTypeInner.isFullyTypedWith])
      · exact absurd (List.length_eq_zero_iff.mp length.symm) nonempty
    | tuple types' _ length' elements =>
      rw [sameFields_mk, CassDataTypeInner.sameFieldsWith, List.all_eq_true] at fields
      refine .tuple _ _ nonempty (length'.trans length) ?_
      intro d c member
      obtain ⟨typ, left, right⟩ := mem_zip_through (Nat.le_of_eq length.symm) member
      exact ih typ c right d (usable_child ready d (List.of_mem_zip left).1) (elements _ left)
        (fields _ member)
  | vector typ c dimensions sub ih =>
    rintro ⟨inner⟩ ready accepted fields
    cases (typecheckEquals_iff _ _).mp accepted with
    | value t' _ equal => exact absurd rfl (usable_not_bare ready equal)
    | vector d _ _ element =>
      have child := usable_child ready d (by simp [CassDataTypeInner.children])
      rw [sameFields_mk] at fields
      exact .vector _ _ _ (ih d child element fields)
  | udt u fieldTypes keyspace name frozen names sub ih =>
    rintro ⟨inner⟩ ready accepted fields
    cases (typecheckEquals_iff _ _).mp accepted with
    | value t' _ equal => exact absurd rfl (usable_not_bare ready equal)
    | udt u' _ _ _ elements =>
      rw [sameFields_mk, CassDataTypeInner.sameFieldsWith, Bool.and_eq_true, beq_iff_eq,
        List.all_eq_true] at fields
      have length : u.fieldTypes.length = fieldTypes.length := by
        simpa using congrArg List.length names
      refine .udt _ _ _ _ _ fields.1 ?_
      intro field fieldType member
      obtain ⟨between, left, right⟩ := mem_zip_through (Nat.le_of_eq length.symm) member
      have inside : field.2 ∈ (CassDataTypeInner.udt u').children :=
        List.mem_map_of_mem (List.of_mem_zip left).1
      exact ih between fieldType right field.2 (usable_child ready _ inside) (elements _ left).2
        (fields.2 _ member)

end CassDataType

end CppRsDriver.Types
