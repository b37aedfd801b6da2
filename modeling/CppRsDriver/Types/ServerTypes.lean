import CppRsDriver.Types.Compatibility

/-! The type check between column types that the server describes. They leave nothing
open, so the check accepts a type for itself only. -/
namespace CppRsDriver.Types

open CppRsDriver.Lib

namespace ColumnType

mutual
/-- The column type without its frozen flags. -/
def thaw : ColumnType → ColumnType
  | .native t => .native t
  | .list typ _ => .list (thaw typ) false
  | .set typ _ => .set (thaw typ) false
  | .map key value _ => .map (thaw key) (thaw value) false
  | .userDefinedType fieldTypes keyspace name _ =>
    .userDefinedType (thawFields fieldTypes) keyspace name false
  | .tuple types => .tuple (thawList types)
  | .vector typ dimensions => .vector (thaw typ) dimensions
termination_by structural c => c

def thawList : List ColumnType → List ColumnType
  | [] => []
  | c :: types => thaw c :: thawList types
termination_by structural types => types

def thawFields : List (String × ColumnType) → List (String × ColumnType)
  | [] => []
  | (name, c) :: fields => (name, thaw c) :: thawFields fields
termination_by structural fields => fields
end

theorem thawList_eq (types : List ColumnType) : thawList types = types.map thaw := by
  induction types with
  | nil => rw [thawList, List.map_nil]
  | cons c types ih => rw [thawList, ih, List.map_cons]

/-- Built from native types, lists, sets, maps, vectors and non-empty tuples. -/
inductive Plain : ColumnType → Prop where
  | native (t) : Plain (.native t)
  | list (typ frozen) (element : Plain typ) : Plain (.list typ frozen)
  | set (typ frozen) (element : Plain typ) : Plain (.set typ frozen)
  | map (key value frozen) (keys : Plain key) (values : Plain value) : Plain (.map key value frozen)
  | tuple (types) (typed : types ≠ []) (elements : ∀ c ∈ types, Plain c) : Plain (.tuple types)
  | vector (typ dimensions) (element : Plain typ) : Plain (.vector typ dimensions)

end ColumnType

section Native

theorem toNativeType_eq_of_equal {t other : CassValueType} (equal : valueTypesEqual t other = true) :
    t.toNativeType = other.toNativeType := by
  rw [valueTypesEqual_iff] at equal
  have canonical : ∀ t : CassValueType, t.canonical.toNativeType = t.toNativeType := by
    intro t
    cases t <;> rfl
  rw [← canonical t, equal, canonical]

theorem native_equal_iff (t other : NativeType) :
    valueTypesEqual t.toValueType other.toValueType = true ↔ t = other := by
  constructor
  · intro equal
    have same := toNativeType_eq_of_equal equal
    rw [toNativeType_toValueType, toNativeType_toValueType] at same
    exact Option.some.inj same
  · rintro rfl
    exact (valueTypesEqual_iff _ _).mpr rfl

end Native

section Exact
open ColumnType CassDataTypeInner

theorem accepts_iff {inner other : CassDataTypeInner CassDataType} :
    CassDataType.typecheckEquals (.mk inner) (.mk other) = some true ↔
      inner.headsAgree other = true ∧
        ∀ d e, (d, e) ∈ inner.places other → d.typecheckEquals e = some true := by
  rw [CassDataType.typecheckEquals_iff, agrees_iff_places]

theorem ColumnType.Plain.typecheck_returns {A : ColumnType} (plain : A.Plain) (other : CassDataType) :
    ∃ b, (getColumnType A).typecheckEquals other = some b := by
  induction plain generalizing other with
  | native t => exact ⟨_, rfl⟩
  | list typ frozen _ ih | set typ frozen _ ih | vector typ dimensions _ ih =>
    obtain ⟨inner⟩ := other
    rw [getColumnType, CassDataType.typecheckEquals_mk]
    apply typecheckWith_returns _ _ (fun _ custom => by cases custom)
    intro d member e _
    cases List.mem_singleton.mp member
    exact ih e
  | map key value frozen _ _ keys values =>
    obtain ⟨inner⟩ := other
    rw [getColumnType, CassDataType.typecheckEquals_mk]
    apply typecheckWith_returns _ _ (fun _ custom => by cases custom)
    intro d member e _
    simp only [children, List.mem_cons, List.not_mem_nil, or_false] at member
    rcases member with rfl | rfl
    · exact keys e
    · exact values e
  | tuple types _ _ ih =>
    obtain ⟨inner⟩ := other
    rw [getColumnType, CassDataType.typecheckEquals_mk, getColumnTypes_eq]
    apply typecheckWith_returns _ _ (fun _ custom => by cases custom)
    intro d member e _
    obtain ⟨c, inside, rfl⟩ := List.mem_map.mp member
    exact ih c inside e

theorem ColumnType.Plain.isFullyTyped {A : ColumnType} (plain : A.Plain) :
    (getColumnType A).isFullyTyped = true := by
  induction plain with
  | native t => rfl
  | list typ frozen _ ih | set typ frozen _ ih | vector typ dimensions _ ih =>
    rw [getColumnType, CassDataType.isFullyTyped_mk]
    exact ih
  | map key value frozen _ _ keys values =>
    rw [getColumnType, CassDataType.isFullyTyped_mk]
    exact Bool.and_eq_true_iff.mpr ⟨keys, values⟩
  | tuple types typed _ ih =>
    rw [getColumnType, CassDataType.isFullyTyped_mk, getColumnTypes_eq]
    simpa [isFullyTypedWith, typed] using ih

theorem map_thaw_eq_iff {types others : List ColumnType} :
    types.map thaw = others.map thaw ↔
      types.length = others.length ∧ ∀ c o, (c, o) ∈ types.zip others → c.thaw = o.thaw := by
  rw [← List.forall₂_eq_eq_eq, List.forall₂_map_left_iff, List.forall₂_map_right_iff,
    List.forall₂_iff_zip]

theorem native_accepts {t : NativeType} {other : CassDataTypeInner CassDataType}
    (accepted : CassDataType.typecheckEquals (getColumnType (.native t)) (.mk other) = some true) :
    other.getValueType.toNativeType = some t := by
  have same := toNativeType_eq_of_equal (accepts_iff.mp accepted).1
  rw [← same, toNativeType_toValueType]

theorem tuple_accepts_iff {types others : List ColumnType} (typed : types ≠ []) (typed' : others ≠ []) :
    (getColumnType (.tuple types)).typecheckEquals (getColumnType (.tuple others)) = some true ↔
      types.length = others.length ∧ ∀ c o, (c, o) ∈ types.zip others →
        (getColumnType c).typecheckEquals (getColumnType o) = some true := by
  simp only [getColumnType, accepts_iff, headsAgree, places, getColumnTypes_eq, List.length_map,
    List.isEmpty_map, Bool.or_eq_true, List.isEmpty_iff, typed, typed', false_or, beq_iff_eq,
    List.zip_map, List.mem_map]
  apply and_congr_right
  intro _
  constructor
  · exact fun each c o member => each _ _ ⟨(c, o), member, rfl⟩
  · rintro each d e ⟨⟨c, o⟩, member, is⟩
    cases is
    exact each c o member

/-- The check accepts a column type exactly for itself, up to the frozen flags. -/
theorem ColumnType.Plain.accepts_iff_thaw {A B : ColumnType} (plainA : A.Plain) (plainB : B.Plain) :
    (getColumnType A).typecheckEquals (getColumnType B) = some true ↔ A.thaw = B.thaw := by
  induction plainA generalizing B with
  | native t =>
    cases plainB with
    | native other =>
      simp [getColumnType, thaw, accepts_iff, headsAgree, places_value, getValueType, native_equal_iff]
    | _ =>
      constructor
      · intro accepted
        cases native_accepts accepted
      · intro same
        simp [thaw] at same
  | list typ frozen _ ih =>
    cases plainB with
    | list other otherFrozen element =>
      simp [getColumnType, thaw, accepts_iff, headsAgree, places, ih element]
    | _ => simp [getColumnType, thaw, accepts_iff, headsAgree]
  | set typ frozen _ ih =>
    cases plainB with
    | set other otherFrozen element =>
      simp [getColumnType, thaw, accepts_iff, headsAgree, places, ih element]
    | _ => simp [getColumnType, thaw, accepts_iff, headsAgree]
  | map key value frozen _ _ keys values =>
    cases plainB with
    | map otherKey otherValue otherFrozen keys' values' =>
      simp only [getColumnType, thaw, accepts_iff, headsAgree, places, ColumnType.map.injEq, and_true,
        true_and, List.mem_cons, List.not_mem_nil, or_false, Prod.mk.injEq]
      rw [← keys keys', ← values values']
      constructor
      · exact fun each => ⟨each _ _ (.inl ⟨rfl, rfl⟩), each _ _ (.inr ⟨rfl, rfl⟩)⟩
      · rintro ⟨key, value⟩ d e (⟨rfl, rfl⟩ | ⟨rfl, rfl⟩)
        · exact key
        · exact value
    | _ => simp [getColumnType, thaw, accepts_iff, headsAgree]
  | vector typ dimensions _ ih =>
    cases plainB with
    | vector other otherDimensions element =>
      simp [getColumnType, thaw, accepts_iff, headsAgree, places, ih element, and_comm]
    | _ => simp [getColumnType, thaw, accepts_iff, headsAgree]
  | tuple types typed elements ih =>
    cases plainB with
    | tuple others typed' elements' =>
      rw [tuple_accepts_iff typed typed', thaw, thaw, ColumnType.tuple.injEq, thawList_eq, thawList_eq,
        map_thaw_eq_iff]
      apply and_congr_right
      intro _
      apply forall₃_congr
      intro c o member
      obtain ⟨left, right⟩ := List.of_mem_zip member
      exact ih c left (elements' o right)
    | _ => simp [getColumnType, thaw, accepts_iff, headsAgree]

/-- On the column types of the server, user-defined types and empty tuples apart, the check
is equality up to the frozen flags, and nothing is left open. -/
theorem server_type_check_exact (A B : ColumnType) (plainA : A.Plain) (plainB : B.Plain) :
    (∃ equal, (getColumnType A).typecheckEquals (getColumnType B) = some equal ∧
      (equal = true ↔ A.thaw = B.thaw)) ∧
    (getColumnType A).isFullyTyped = true := by
  obtain ⟨equal, is⟩ := plainA.typecheck_returns (getColumnType B)
  refine ⟨⟨equal, is, ?_⟩, plainA.isFullyTyped⟩
  rw [← plainA.accepts_iff_thaw plainB, is, Option.some.injEq]

/- A frozen list of vectors against a list of them that is not frozen. -/
theorem server_type_check_exact_vectors :
    (∃ equal, (getColumnType (.list (.vector (.native .float) 3) true)).typecheckEquals
        (getColumnType (.list (.vector (.native .float) 3) false)) = some equal ∧
      (equal = true ↔ ColumnType.thaw (.list (.vector (.native .float) 3) true) =
        ColumnType.thaw (.list (.vector (.native .float) 3) false))) ∧
    (getColumnType (.list (.vector (.native .float) 3) true)).isFullyTyped = true :=
  server_type_check_exact _ _ (.list _ _ (.vector _ _ (.native _))) (.list _ _ (.vector _ _ (.native _)))

end Exact

end CppRsDriver.Types
