import CppRsDriver.Lib.Checks
import CppRsDriver.Types.Snapshot

/-! The type check. `Agrees` says what the body of `typecheck_equals` accepts; on a
tree the check is the fold of that body. -/
namespace CppRsDriver.Types

open CppRsDriver.Lib

namespace CassDataTypeInner
variable {D D' E : Type}

/- A half-typed map agrees with another one only; an untyped map agrees with all. -/
def MapAgrees (sub : D → E → Prop) : MapDataType D → MapDataType E → Prop
  | .untyped, _ | _, .untyped => True
  | .key k, .key otherK => sub k otherK
  | .keyAndValue k v, .keyAndValue otherK otherV => sub k otherK ∧ sub v otherV
  | _, _ => False

/-- What one layer of the check accepts, given what it accepts of two subtypes. -/
inductive Agrees (sub : D → E → Prop) : CassDataTypeInner D → CassDataTypeInner E → Prop where
  | value (t other) (same : valueTypesEqual t other.getValueType = true) :
      Agrees sub (.value t) other
  | udt (u other) (keyspace : anyStringEmptyOrBothEqual u.keyspace other.keyspace = true)
      (name : anyStringEmptyOrBothEqual u.name other.name = true)
      (fields : ∀ pair ∈ u.fieldTypes.zip other.fieldTypes,
        pair.1.1 = pair.2.1 ∧ sub pair.1.2 pair.2.2) :
      Agrees sub (.udt u) (.udt other)
  | list (typ otherTyp frozen otherFrozen)
      (element : ∀ t o, typ = some t → otherTyp = some o → sub t o) :
      Agrees sub (.list typ frozen) (.list otherTyp otherFrozen)
  | set (typ otherTyp frozen otherFrozen)
      (element : ∀ t o, typ = some t → otherTyp = some o → sub t o) :
      Agrees sub (.set typ frozen) (.set otherTyp otherFrozen)
  | map (typ otherTyp frozen otherFrozen) (subtypes : MapAgrees sub typ otherTyp) :
      Agrees sub (.map typ frozen) (.map otherTyp otherFrozen)
  | tupleUntyped (types otherTypes) (untyped : types = [] ∨ otherTypes = []) :
      Agrees sub (.tuple types) (.tuple otherTypes)
  | tuple (types otherTypes) (length : types.length = otherTypes.length)
      (elements : ∀ pair ∈ types.zip otherTypes, sub pair.1 pair.2) :
      Agrees sub (.tuple types) (.tuple otherTypes)
  | vector (typ otherTyp dimensions) (element : sub typ otherTyp) :
      Agrees sub (.vector typ dimensions) (.vector otherTyp dimensions)

theorem Agrees.mono {sub sub' : D → E → Prop} {self : CassDataTypeInner D}
    {other : CassDataTypeInner E} (agrees : self.Agrees sub other)
    (weaker : ∀ d ∈ self.children, ∀ e ∈ other.children, sub d e → sub' d e) :
    self.Agrees sub' other := by
  cases agrees with
  | value t other same => exact .value t other same
  | udt u other keyspace name fields =>
    refine .udt u other keyspace name (fun pair member => ?_)
    obtain ⟨left, right⟩ := List.of_mem_zip member
    exact ⟨(fields pair member).1, weaker _ (List.mem_map_of_mem left) _ (List.mem_map_of_mem right)
      (fields pair member).2⟩
  | list typ otherTyp frozen otherFrozen element =>
    refine .list _ _ _ _ (fun t o ht ho => ?_)
    subst ht ho
    exact weaker t (by simp [children]) o (by simp [children]) (element t o rfl rfl)
  | set typ otherTyp frozen otherFrozen element =>
    refine .set _ _ _ _ (fun t o ht ho => ?_)
    subst ht ho
    exact weaker t (by simp [children]) o (by simp [children]) (element t o rfl rfl)
  | map typ otherTyp frozen otherFrozen subtypes =>
    refine .map _ _ _ _ ?_
    cases typ with
    | untyped => trivial
    | key k =>
      cases otherTyp with
      | untyped => trivial
      | key otherK => exact weaker k (by simp [children]) otherK (by simp [children]) subtypes
      | keyAndValue => exact subtypes.elim
    | keyAndValue k v =>
      cases otherTyp with
      | untyped => trivial
      | key => exact subtypes.elim
      | keyAndValue otherK otherV =>
        exact ⟨weaker k (by simp [children]) otherK (by simp [children]) subtypes.1,
          weaker v (by simp [children]) otherV (by simp [children]) subtypes.2⟩
  | tupleUntyped types otherTypes untyped => exact .tupleUntyped _ _ untyped
  | tuple types otherTypes length elements =>
    refine .tuple _ _ length (fun pair member => ?_)
    obtain ⟨left, right⟩ := List.of_mem_zip member
    exact weaker _ left _ right (elements pair member)
  | vector typ otherTyp dimensions element =>
    exact .vector _ _ _ (weaker typ (by simp [children]) otherTyp (by simp [children]) element)

section Places

/-- The pairs of subtypes that the check of two data types compares. -/
def places : CassDataTypeInner D → CassDataTypeInner E → List (D × E)
  | .udt u, .udt other =>
    (u.fieldTypes.zip other.fieldTypes).map (fun pair => (pair.1.2, pair.2.2))
  | .list (some typ) _, .list (some otherTyp) _ | .set (some typ) _, .set (some otherTyp) _ =>
    [(typ, otherTyp)]
  | .map (.key k) _, .map (.key otherK) _ => [(k, otherK)]
  | .map (.keyAndValue k v) _, .map (.keyAndValue otherK otherV) _ => [(k, otherK), (v, otherV)]
  | .tuple types, .tuple otherTypes => types.zip otherTypes
  | .vector typ _, .vector otherTyp _ => [(typ, otherTyp)]
  | _, _ => []

/-- What the check asks of two data types apart from their subtypes. -/
def headsAgree : CassDataTypeInner D → CassDataTypeInner E → Bool
  | .value t, other => valueTypesEqual t other.getValueType
  | .udt u, .udt other => anyStringEmptyOrBothEqual u.keyspace other.keyspace &&
    anyStringEmptyOrBothEqual u.name other.name &&
    (u.fieldTypes.zip other.fieldTypes).all (fun pair => pair.1.1 == pair.2.1)
  | .list _ _, .list _ _ | .set _ _, .set _ _ => true
  | .map .untyped _, .map _ _ | .map _ _, .map .untyped _ => true
  | .map (.key _) _, .map (.key _) _ => true
  | .map (.keyAndValue _ _) _, .map (.keyAndValue _ _) _ => true
  | .tuple types, .tuple otherTypes =>
    types.isEmpty || otherTypes.isEmpty || types.length == otherTypes.length
  | .vector _ dimensions, .vector _ otherDimensions => dimensions == otherDimensions
  | _, _ => false

theorem places_value (t : CassValueType) (other : CassDataTypeInner E) :
    (CassDataTypeInner.value t : CassDataTypeInner D).places other = [] := by
  cases other <;> rfl

theorem Agrees.heads {sub : D → E → Prop} {self : CassDataTypeInner D} {other : CassDataTypeInner E}
    (agrees : self.Agrees sub other) :
    self.headsAgree other = true ∧ ∀ d e, (d, e) ∈ self.places other → sub d e := by
  cases agrees with
  | value t other same =>
    refine ⟨same, fun d e place => ?_⟩
    rw [places_value] at place
    cases place
  | udt u other keyspace name fields =>
    constructor
    · simp only [headsAgree, keyspace, name, Bool.true_and, List.all_eq_true]
      exact fun pair member => beq_iff_eq.mpr (fields pair member).1
    · intro d e place
      obtain ⟨pair, member, is⟩ := List.mem_map.mp place
      cases is
      exact (fields pair member).2
  | list typ otherTyp frozen otherFrozen element | set typ otherTyp frozen otherFrozen element =>
    refine ⟨rfl, fun d e place => ?_⟩
    cases typ with
    | none => cases place
    | some typ =>
      cases otherTyp with
      | none => cases place
      | some otherTyp =>
        cases List.mem_singleton.mp place
        exact element _ _ rfl rfl
  | map typ otherTyp frozen otherFrozen subtypes =>
    cases typ with
    | untyped => exact ⟨rfl, fun d e place => by cases otherTyp <;> cases place⟩
    | key k =>
      cases otherTyp with
      | untyped => exact ⟨rfl, fun d e place => by cases place⟩
      | key otherK => exact ⟨rfl, fun d e place => by cases List.mem_singleton.mp place; exact subtypes⟩
      | keyAndValue => exact subtypes.elim
    | keyAndValue k v =>
      cases otherTyp with
      | untyped => exact ⟨rfl, fun d e place => by cases place⟩
      | key => exact subtypes.elim
      | keyAndValue otherK otherV =>
        refine ⟨rfl, fun d e place => ?_⟩
        simp only [places, List.mem_cons, List.not_mem_nil, or_false, Prod.mk.injEq] at place
        rcases place with ⟨rfl, rfl⟩ | ⟨rfl, rfl⟩
        · exact subtypes.1
        · exact subtypes.2
  | tupleUntyped types otherTypes untyped =>
    rcases untyped with rfl | rfl
    · simp [headsAgree, places]
    · simp [headsAgree, places]
  | tuple types otherTypes length elements =>
    constructor
    · simp [headsAgree, length]
    · exact fun d e place => elements (d, e) place
  | vector typ otherTyp dimensions element =>
    constructor
    · simp [headsAgree]
    · intro d e place
      cases List.mem_singleton.mp place
      exact element

/-- Two data types agree if their heads do and the subtypes at every place they share. -/
theorem agrees_iff_places {sub : D → E → Prop} {self : CassDataTypeInner D}
    {other : CassDataTypeInner E} :
    self.Agrees sub other ↔
      self.headsAgree other = true ∧ ∀ d e, (d, e) ∈ self.places other → sub d e := by
  refine ⟨Agrees.heads, ?_⟩
  rintro ⟨heads, subtypes⟩
  unfold headsAgree at heads
  split at heads
  · exact .value _ _ heads
  · rename_i u other
    simp only [Bool.and_eq_true, List.all_eq_true, beq_iff_eq] at heads
    refine .udt u other heads.1.1 heads.1.2 (fun pair member => ⟨heads.2 pair member, ?_⟩)
    exact subtypes _ _ (List.mem_map_of_mem (f := fun pair => (pair.1.2, pair.2.2)) member)
  · refine .list _ _ _ _ ?_
    rintro t o rfl rfl
    exact subtypes t o (List.mem_singleton_self _)
  · refine .set _ _ _ _ ?_
    rintro t o rfl rfl
    exact subtypes t o (List.mem_singleton_self _)
  · exact .map _ _ _ _ trivial
  · rename_i typ _ _ _
    refine .map _ _ _ _ ?_
    cases typ <;> trivial
  · exact .map _ _ _ _ (subtypes _ _ (List.mem_singleton_self _))
  · exact .map _ _ _ _ ⟨subtypes _ _ (by simp [places]), subtypes _ _ (by simp [places])⟩
  · rename_i types otherTypes
    simp only [Bool.or_eq_true, List.isEmpty_iff, beq_iff_eq] at heads
    rcases heads with untyped | length
    · exact .tupleUntyped _ _ untyped
    · exact .tuple _ _ length (fun pair member => subtypes pair.1 pair.2 member)
  · cases beq_iff_eq.mp heads
    exact .vector _ _ _ (subtypes _ _ (List.mem_singleton_self _))
  · contradiction

end Places

section Spec
variable {check : D → E → Option Bool}

theorem typecheckUdt_iff {u : UdtDataType D} {other : UdtDataType E} :
    typecheckUdt check u other = some true ↔
      anyStringEmptyOrBothEqual u.keyspace other.keyspace = true ∧
      anyStringEmptyOrBothEqual u.name other.name = true ∧
      ∀ pair ∈ u.fieldTypes.zip other.fieldTypes,
        pair.1.1 = pair.2.1 ∧ check pair.1.2 pair.2.2 = some true := by
  unfold typecheckUdt
  cases keyspace : anyStringEmptyOrBothEqual u.keyspace other.keyspace with
  | false => simp
  | true =>
    cases name : anyStringEmptyOrBothEqual u.name other.name with
    | false => simp
    | true =>
      simp only [Bool.not_true, Bool.false_eq_true, if_false, true_and, allM_eq_some_true]
      refine forall₂_congr (fun pair _ => ?_)
      by_cases same : pair.1.1 = pair.2.1 <;> simp [same]

theorem typecheckTuple_iff {types : List D} {otherTypes : List E} :
    typecheckTuple check types otherTypes = some true ↔
      types = [] ∨ otherTypes = [] ∨ (types.length = otherTypes.length ∧
        ∀ pair ∈ types.zip otherTypes, check pair.1 pair.2 = some true) := by
  unfold typecheckTuple
  cases types with
  | nil => simp
  | cons typ types =>
    cases otherTypes with
    | nil => simp
    | cons otherTyp otherTypes =>
      by_cases length : (typ :: types).length = (otherTyp :: otherTypes).length
      · rw [if_neg (by simp), if_neg (not_not.mpr length), allM_eq_some_true]
        simp only [reduceCtorEq, false_or, length, true_and]
      · rw [if_neg (by simp), if_pos length]
        simp only [reduceCtorEq, false_or, length, false_and, Option.some.injEq, Bool.false_eq_true]

theorem typecheckMap_iff {typ : MapDataType D} {otherTyp : MapDataType E} :
    typecheckMap check typ otherTyp = some true ↔
      MapAgrees (fun d e => check d e = some true) typ otherTyp := by
  cases typ <;> cases otherTyp <;>
    simp only [typecheckMap, MapAgrees, Option.some.injEq, Bool.false_eq_true]
  exact bind_check_eq_some_true

theorem typecheckElement_iff {typ : Option D} {otherTyp : Option E} :
    typecheckElement check typ otherTyp = some true ↔
      ∀ t o, typ = some t → otherTyp = some o → check t o = some true := by
  cases typ <;> cases otherTyp <;> simp [typecheckElement]

/-- The body of `typecheck_equals` accepts exactly what agrees. -/
theorem typecheckWith_iff {self : CassDataTypeInner D} {other : CassDataTypeInner E} :
    self.typecheckWith check other = some true ↔
      Agrees (fun d e => check d e = some true) self other := by
  constructor
  · intro accepted
    unfold typecheckWith at accepted
    split at accepted
    · exact .value _ _ (Option.some.inj accepted)
    · obtain ⟨keyspace, name, fields⟩ := typecheckUdt_iff.mp accepted
      exact .udt _ _ keyspace name fields
    · exact .list _ _ _ _ (typecheckElement_iff.mp accepted)
    · exact .set _ _ _ _ (typecheckElement_iff.mp accepted)
    · exact .map _ _ _ _ (typecheckMap_iff.mp accepted)
    · rcases typecheckTuple_iff.mp accepted with empty | empty | ⟨length, elements⟩
      · exact .tupleUntyped _ _ (.inl empty)
      · exact .tupleUntyped _ _ (.inr empty)
      · exact .tuple _ _ length elements
    · split at accepted
      · rename_i same
        subst same
        exact .vector _ _ _ accepted
      · contradiction
    · contradiction
    · contradiction
  · intro agrees
    cases agrees with
    | value t other same => exact congrArg some same
    | udt u other keyspace name fields => exact typecheckUdt_iff.mpr ⟨keyspace, name, fields⟩
    | list _ _ _ _ element => exact typecheckElement_iff.mpr element
    | set _ _ _ _ element => exact typecheckElement_iff.mpr element
    | map _ _ _ _ subtypes => exact typecheckMap_iff.mpr subtypes
    | tupleUntyped _ _ untyped =>
      exact typecheckTuple_iff.mpr (untyped.imp_right Or.inl)
    | tuple _ _ length elements => exact typecheckTuple_iff.mpr (.inr (.inr ⟨length, elements⟩))
    | vector _ _ _ element => exact (if_pos rfl).trans element

end Spec

section Congr
variable {check check' : D → E → Option Bool}

theorem typecheckUdt_congr {u : UdtDataType D} {other : UdtDataType E}
    (same : ∀ d ∈ u.fieldTypes.map Prod.snd, ∀ e ∈ other.fieldTypes.map Prod.snd,
      check d e = check' d e) :
    typecheckUdt check u other = typecheckUdt check' u other := by
  have fields : ∀ pair ∈ u.fieldTypes.zip other.fieldTypes,
      check pair.1.2 pair.2.2 = check' pair.1.2 pair.2.2 := by
    intro pair member
    obtain ⟨left, right⟩ := List.of_mem_zip member
    exact same _ (List.mem_map_of_mem left) _ (List.mem_map_of_mem right)
  simp only [typecheckUdt]
  rw [allM_congr (fun pair member => by rw [fields pair member])]

theorem typecheckElement_congr {typ : Option D} {otherTyp : Option E}
    (same : ∀ d ∈ typ.toList, ∀ e ∈ otherTyp.toList, check d e = check' d e) :
    typecheckElement check typ otherTyp = typecheckElement check' typ otherTyp := by
  cases typ with
  | none => rfl
  | some t =>
    cases otherTyp with
    | none => rfl
    | some o => exact same t (List.mem_singleton_self t) o (List.mem_singleton_self o)

theorem typecheckMap_congr {typ : MapDataType D} {otherTyp : MapDataType E} {frozen otherFrozen : Bool}
    (same : ∀ d ∈ (map typ frozen).children, ∀ e ∈ (map otherTyp otherFrozen).children,
      check d e = check' d e) :
    typecheckMap check typ otherTyp = typecheckMap check' typ otherTyp := by
  cases typ with
  | untyped => rfl
  | key k =>
    cases otherTyp with
    | key otherK => exact same k (List.mem_singleton_self k) otherK (List.mem_singleton_self otherK)
    | _ => rfl
  | keyAndValue k v =>
    cases otherTyp with
    | keyAndValue otherK otherV =>
      have keys := same k List.mem_cons_self otherK List.mem_cons_self
      have values := same v (List.mem_of_mem_getLast? rfl) otherV (List.mem_of_mem_getLast? rfl)
      simp only [typecheckMap, keys, values]
    | _ => rfl

theorem typecheckTuple_congr {types : List D} {otherTypes : List E}
    (same : ∀ d ∈ types, ∀ e ∈ otherTypes, check d e = check' d e) :
    typecheckTuple check types otherTypes = typecheckTuple check' types otherTypes := by
  have elements : ∀ pair ∈ types.zip otherTypes, check pair.1 pair.2 = check' pair.1 pair.2 := by
    intro pair member
    obtain ⟨left, right⟩ := List.of_mem_zip member
    exact same _ left _ right
  unfold typecheckTuple
  rw [allM_congr (fun pair member => elements pair member)]

theorem typecheckWith_congr {self : CassDataTypeInner D} {other : CassDataTypeInner E}
    (same : ∀ d ∈ self.children, ∀ e ∈ other.children, check d e = check' d e) :
    self.typecheckWith check other = self.typecheckWith check' other := by
  cases self with
  | value | custom => rfl
  | udt u => cases other with
    | udt other => exact typecheckUdt_congr same
    | _ => rfl
  | list typ => cases other with
    | list otherTyp => exact typecheckElement_congr same
    | _ => rfl
  | set typ => cases other with
    | set otherTyp => exact typecheckElement_congr same
    | _ => rfl
  | map typ => cases other with
    | map otherTyp => exact typecheckMap_congr same
    | _ => rfl
  | tuple types => cases other with
    | tuple otherTypes => exact typecheckTuple_congr same
    | _ => rfl
  | vector typ => cases other with
    | vector otherTyp =>
      have element := same typ (List.mem_singleton_self typ) otherTyp (List.mem_singleton_self otherTyp)
      unfold typecheckWith
      simp only [element]
    | _ => rfl

end Congr

section Returning
variable {check : D → E → Option Bool}

theorem typecheckUdt_returns {u : UdtDataType D} {other : UdtDataType E}
    (subtypes : ∀ d ∈ u.fieldTypes.map Prod.snd, ∀ e ∈ other.fieldTypes.map Prod.snd,
      ∃ b, check d e = some b) : ∃ b, typecheckUdt check u other = some b := by
  unfold typecheckUdt
  split
  · exact ⟨false, rfl⟩
  · split
    · exact ⟨false, rfl⟩
    · apply allM_returns
      intro pair member
      obtain ⟨left, right⟩ := List.of_mem_zip member
      show ∃ b, (if pair.1.1 != pair.2.1 then some false else check pair.1.2 pair.2.2) = some b
      split
      · exact ⟨false, rfl⟩
      · exact subtypes _ (List.mem_map_of_mem left) _ (List.mem_map_of_mem right)

theorem typecheckElement_returns {typ : Option D} {otherTyp : Option E}
    (subtypes : ∀ d ∈ typ.toList, ∀ e ∈ otherTyp.toList, ∃ b, check d e = some b) :
    ∃ b, typecheckElement check typ otherTyp = some b := by
  cases typ with
  | none => exact ⟨true, rfl⟩
  | some t =>
    cases otherTyp with
    | none => exact ⟨true, rfl⟩
    | some o => exact subtypes t (List.mem_singleton_self t) o (List.mem_singleton_self o)

theorem typecheckMap_returns {typ : MapDataType D} {otherTyp : MapDataType E} {frozen otherFrozen : Bool}
    (subtypes : ∀ d ∈ (map typ frozen).children, ∀ e ∈ (map otherTyp otherFrozen).children,
      ∃ b, check d e = some b) : ∃ b, typecheckMap check typ otherTyp = some b := by
  cases typ with
  | untyped => exact ⟨true, rfl⟩
  | key k =>
    cases otherTyp with
    | untyped => exact ⟨true, rfl⟩
    | key otherK => exact subtypes k (List.mem_singleton_self k) otherK (List.mem_singleton_self otherK)
    | keyAndValue => exact ⟨false, rfl⟩
  | keyAndValue k v =>
    cases otherTyp with
    | untyped => exact ⟨true, rfl⟩
    | key => exact ⟨false, rfl⟩
    | keyAndValue otherK otherV =>
      obtain ⟨key, keys⟩ := subtypes k List.mem_cons_self otherK List.mem_cons_self
      obtain ⟨value, values⟩ :=
        subtypes v (List.mem_of_mem_getLast? rfl) otherV (List.mem_of_mem_getLast? rfl)
      simp only [typecheckMap, keys]
      cases key with
      | false => exact ⟨false, rfl⟩
      | true => exact ⟨value, values⟩

theorem typecheckTuple_returns {types : List D} {otherTypes : List E}
    (subtypes : ∀ d ∈ types, ∀ e ∈ otherTypes, ∃ b, check d e = some b) :
    ∃ b, typecheckTuple check types otherTypes = some b := by
  unfold typecheckTuple
  split
  · exact ⟨true, rfl⟩
  · split
    · exact ⟨false, rfl⟩
    · apply allM_returns
      intro pair member
      obtain ⟨left, right⟩ := List.of_mem_zip member
      exact subtypes _ left _ right

theorem typecheckWith_returns (check : D → E → Option Bool) {self : CassDataTypeInner D}
    (other : CassDataTypeInner E) (known : ∀ className, self ≠ .custom className)
    (subtypes : ∀ d ∈ self.children, ∀ e ∈ other.children, ∃ b, check d e = some b) :
    ∃ b, self.typecheckWith check other = some b := by
  cases self with
  | value t => exact ⟨_, rfl⟩
  | custom className => exact absurd rfl (known className)
  | udt u => cases other with
    | udt other => exact typecheckUdt_returns subtypes
    | _ => exact ⟨false, rfl⟩
  | list typ => cases other with
    | list otherTyp => exact typecheckElement_returns subtypes
    | _ => exact ⟨false, rfl⟩
  | set typ => cases other with
    | set otherTyp => exact typecheckElement_returns subtypes
    | _ => exact ⟨false, rfl⟩
  | map typ => cases other with
    | map otherTyp => exact typecheckMap_returns subtypes
    | _ => exact ⟨false, rfl⟩
  | tuple types => cases other with
    | tuple otherTypes => exact typecheckTuple_returns subtypes
    | _ => exact ⟨false, rfl⟩
  | vector typ => cases other with
    | vector otherTyp =>
      unfold typecheckWith
      simp only
      split
      · exact subtypes typ (List.mem_singleton_self typ) otherTyp (List.mem_singleton_self otherTyp)
      · exact ⟨false, rfl⟩
    | _ => exact ⟨false, rfl⟩

end Returning

section Subtypes
variable (g : D' → D)

section Renaming
variable {E' : Type} (f : E' → E) (check : D → E → Option Bool)

theorem typecheckUdt_mapSubtypes (u : UdtDataType D') (other : UdtDataType E') :
    typecheckUdt check (u.mapSubtypes g) (other.mapSubtypes f) =
      typecheckUdt (fun d e => check (g d) (f e)) u other := by
  simp only [typecheckUdt, UdtDataType.mapSubtypes, List.zip_map, allM_map, Prod.map]

theorem typecheckTuple_map (types : List D') (otherTypes : List E') :
    typecheckTuple check (types.map g) (otherTypes.map f) =
      typecheckTuple (fun d e => check (g d) (f e)) types otherTypes := by
  simp only [typecheckTuple, List.zip_map, allM_map, List.isEmpty_map, List.length_map, Prod.map]

theorem typecheckWith_mapSubtypes_both (self : CassDataTypeInner D') (other : CassDataTypeInner E') :
    (self.mapSubtypes g).typecheckWith check (other.mapSubtypes f) =
      self.typecheckWith (fun d e => check (g d) (f e)) other := by
  cases self with
  | udt u => cases other with
    | udt other => exact typecheckUdt_mapSubtypes g f check u other
    | _ => rfl
  | list typ => cases other with
    | list otherTyp => cases typ <;> cases otherTyp <;> rfl
    | _ => rfl
  | set typ => cases other with
    | set otherTyp => cases typ <;> cases otherTyp <;> rfl
    | _ => rfl
  | map typ => cases other with
    | map otherTyp => cases typ <;> cases otherTyp <;> rfl
    | _ => rfl
  | tuple types => cases other with
    | tuple otherTypes => exact typecheckTuple_map g f check types otherTypes
    | _ => rfl
  | _ => cases other <;> rfl

theorem typecheckWith_mapSubtypes (self : CassDataTypeInner D') (other : CassDataTypeInner E) :
    (self.mapSubtypes g).typecheckWith check other =
      self.typecheckWith (fun d e => check (g d) e) other := by
  have both := typecheckWith_mapSubtypes_both g id check self other
  rwa [mapSubtypes_id] at both

theorem typecheckWith_mapSubtypes_right (self : CassDataTypeInner D) (other : CassDataTypeInner E') :
    self.typecheckWith check (other.mapSubtypes f) =
      self.typecheckWith (fun d e => check d (f e)) other := by
  have both := typecheckWith_mapSubtypes_both id f check self other
  rwa [mapSubtypes_id] at both

end Renaming

theorem isFullyTypedM_eq (sub : D → Option Bool) (full : D → Bool) (self : CassDataTypeInner D)
    (same : ∀ d ∈ self.children, sub d = some (full d)) :
    self.isFullyTypedM sub = some (self.isFullyTypedWith full) := by
  cases self with
  | value | custom => rfl
  | list typ | set typ =>
    cases typ with
    | none => rfl
    | some typ => simpa [isFullyTypedM, isFullyTypedWith, children] using same
  | vector typ => simpa [isFullyTypedM, isFullyTypedWith, children] using same
  | map typ =>
    cases typ with
    | untyped | key => rfl
    | keyAndValue k v =>
      obtain ⟨key, value⟩ : sub k = some (full k) ∧ sub v = some (full v) := by
        simpa [children] using same
      simp only [isFullyTypedM, isFullyTypedWith, key, value]
      cases full k <;> rfl
  | tuple types =>
    have elements : types.allM sub = some (types.all full) := (allM_congr same).trans allM_some
    simp only [isFullyTypedM, isFullyTypedWith, elements]
    cases types <;> rfl
  | udt u =>
    have fields : u.fieldTypes.allM (fun field => sub field.2) =
        some (u.fieldTypes.all (fun field => full field.2)) :=
      (allM_congr (fun field member => same _ (List.mem_map_of_mem member))).trans allM_some
    simp only [isFullyTypedM, isFullyTypedWith, fields]
    cases u.fieldTypes <;> rfl

theorem usesVariableLengthM_eq (sizes : NativeType → Option Nat) (sub : D → Option Bool)
    (variable' : D → Bool) (self : CassDataTypeInner D)
    (same : ∀ typ dimensions, self = .vector typ dimensions → sub typ = some (variable' typ)) :
    self.usesVariableLengthM sizes sub = some (self.usesVariableLengthWith sizes variable') := by
  cases self with
  | vector typ dimensions => exact same typ dimensions rfl
  | _ => rfl

theorem isFullyTypedWith_mapSubtypes (sub : D → Bool) (self : CassDataTypeInner D') :
    (self.mapSubtypes g).isFullyTypedWith sub = self.isFullyTypedWith (fun d => sub (g d)) := by
  cases self with
  | udt u => simp [mapSubtypes, isFullyTypedWith, UdtDataType.mapSubtypes, Function.comp_def]
  | list typ | set typ => cases typ <;> rfl
  | map typ => cases typ <;> rfl
  | tuple types => simp [mapSubtypes, isFullyTypedWith, Function.comp_def]
  | _ => rfl

theorem usesVariableLengthWith_mapSubtypes (sizes : NativeType → Option Nat) (sub : D → Bool)
    (self : CassDataTypeInner D') :
    (self.mapSubtypes g).usesVariableLengthWith sizes sub =
      self.usesVariableLengthWith sizes (fun d => sub (g d)) := by
  cases self <;> rfl

end Subtypes

end CassDataTypeInner

namespace CassDataType

def typecheckEquals (self other : CassDataType) : Option Bool :=
  fold (fun inner (other : CassDataType) =>
    inner.typecheckWith (fun check sub => check sub) other.inner) self other

def isFullyTyped (self : CassDataType) : Bool :=
  fold (CassDataTypeInner.isFullyTypedWith id) self

def usesVariableLengthEncodingInVector (sizes : NativeType → Option Nat) (self : CassDataType) :
    Bool :=
  fold (CassDataTypeInner.usesVariableLengthWith sizes id) self

/-- How many layers a tree has. -/
def height (self : CassDataType) : Nat := fold (fun inner => inner.children.foldr max 0 + 1) self

variable (inner other : CassDataTypeInner CassDataType)

theorem typecheckEquals_mk :
    typecheckEquals (.mk inner) (.mk other) = inner.typecheckWith typecheckEquals other := by
  simp only [typecheckEquals, fold_mk, CassDataTypeInner.typecheckWith_mapSubtypes]
  rfl

theorem isFullyTyped_mk : isFullyTyped (.mk inner) = inner.isFullyTypedWith isFullyTyped := by
  simp only [isFullyTyped, fold_mk, CassDataTypeInner.isFullyTypedWith_mapSubtypes]
  rfl

theorem usesVariableLength_mk (sizes : NativeType → Option Nat) :
    usesVariableLengthEncodingInVector sizes (.mk inner) =
      inner.usesVariableLengthWith sizes (usesVariableLengthEncodingInVector sizes) := by
  simp only [usesVariableLengthEncodingInVector, fold_mk,
    CassDataTypeInner.usesVariableLengthWith_mapSubtypes]
  rfl

theorem height_mk : height (.mk inner) = (inner.children.map height).foldr max 0 + 1 := by
  simp only [height, fold_mk, CassDataTypeInner.children_mapSubtypes]
  rfl

theorem height_pos (self : CassDataType) : 0 < self.height := by
  obtain ⟨inner⟩ := self
  rw [height_mk]
  omega

variable {inner} in
theorem height_lt {d : CassDataType} (member : d ∈ inner.children) :
    d.height < height (.mk inner) := by
  rw [height_mk, Nat.lt_succ_iff]
  generalize inner.children = ds at member
  induction ds with
  | nil => contradiction
  | cons first ds ih =>
    rw [List.map_cons, List.foldr_cons]
    rcases List.mem_cons.mp member with rfl | later
    · exact Nat.le_max_left _ _
    · exact Nat.le_trans (ih later) (Nat.le_max_right _ _)

theorem typecheckEquals_iff :
    typecheckEquals (.mk inner) (.mk other) = some true ↔
      inner.Agrees (fun d e => typecheckEquals d e = some true) other := by
  rw [typecheckEquals_mk, CassDataTypeInner.typecheckWith_iff]

end CassDataType

end CppRsDriver.Types
