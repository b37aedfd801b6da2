import CppRsDriver.Types.Compatibility
import CppRsDriver.Types.Objects

/-! Kinds. A container made from a data type has one of its own kind for good, a vector has a
slot for each dimension, and a container is accepted for data types of its kind only. -/
namespace CppRsDriver.Types

open CppRsDriver.Lib

section Inner
variable {D E : Type} {inner after : CassDataTypeInner D} {kind : CassValueType}

/-- A data type of the kind that is more than the name of the kind. -/
def CassDataTypeInner.Describes (inner : CassDataTypeInner D) (kind : CassValueType) : Prop :=
  inner.getValueType = kind ∧ ∀ t, inner ≠ .value t

theorem CassDataTypeInner.Describes.agrees {sub : D → E → Prop} {other : CassDataTypeInner E}
    (describes : inner.Describes kind) (agrees : inner.Agrees sub other) : other.Describes kind := by
  cases agrees with
  | value t other same => exact absurd rfl (describes.2 t)
  | _ => exact ⟨describes.1, nofun⟩

theorem CassDataTypeInner.Describes.grows {sub : Option D} (describes : inner.Describes kind)
    (grows : inner.Grows after sub) : after.Describes kind := by
  cases grows <;> exact ⟨describes.1, nofun⟩

/- The data types that no call modifies. -/
def CassDataTypeInner.final : CassDataTypeInner D → Bool
  | .value _ | .vector _ _ => true
  | _ => false

theorem CassDataTypeInner.Grows.not_final {sub : Option D} (grows : inner.Grows after sub) :
    inner.final = false ∧ after.final = false := by
  cases grows <;> exact ⟨rfl, rfl⟩

end Inner

namespace Heap
variable {h h' : Heap} {d : Nat}

theorem Evolves.describes {inner after : CassDataTypeInner Nat} {kind : CassValueType}
    (evolves : Evolves inner after) (describes : inner.Describes kind) : after.Describes kind := by
  induction evolves with
  | refl => exact describes
  | tail _ change ih =>
    obtain ⟨_, grows⟩ := change
    exact ih.grows grows

theorem valid_of_final (final : (h.inner d).final = true) : h.valid d := by
  by_contra outside
  have default : h.inner d = .custom "" := by
    rw [inner, List.getD_eq_getElem?_getD, List.getElem?_eq_none (Nat.not_lt.mp outside)]
    rfl
  rw [default] at final
  cases final

theorem Evolves.eq_of_final {inner after : CassDataTypeInner Nat} (evolves : Evolves inner after)
    (final : inner.final = true ∨ after.final = true) : after = inner := by
  induction evolves with
  | refl => rfl
  | tail _ change ih =>
    obtain ⟨_, grows⟩ := change
    obtain ⟨before, after⟩ := grows.not_final
    rcases final with first | last
    · rw [ih (.inl first), first] at before
      cases before
    · rw [after] at last
      cases last

/-- Leaves and vectors stay what they are, and nothing else becomes one. -/
theorem Changes.inner_eq (changes : Changes h h') (valid : h.valid d)
    (final : (h.inner d).final = true ∨ (h'.inner d).final = true) : h'.inner d = h.inner d :=
  (changes.evolves valid).2.eq_of_final final

theorem agrees_of_typecheckEquals {fuel a b : Nat} (accepted : h.typecheckEquals fuel a b = some true) :
    ∃ deeper, (h.inner a).Agrees (fun d e => h.typecheckEquals deeper d e = some true) (h.inner b) := by
  cases fuel with
  | zero => cases accepted
  | succ deeper => exact ⟨deeper, CassDataTypeInner.typecheckWith_iff.mp accepted⟩

end Heap

section Objects
variable {D : Type} {value : Option (CassCqlValue D)} {code : CassError}

def CollectionType.valueType : CollectionType → CassValueType
  | .list => .list
  | .set => .set
  | .map => .map

/-- The kind of a container value. -/
def CassCqlValue.kind : CassCqlValue D → Option CassValueType
  | .scalar _ => none
  | .tuple _ _ => some .tuple
  | .list _ _ => some .list
  | .map _ _ => some .map
  | .set _ _ => some .set
  | .vector _ _ _ => some .vector
  | .userDefinedType _ _ => some .udt

def ApiObject.kind : ApiObject D → Option CassValueType
  | .value _ => none
  | .tuple _ => some .tuple
  | .collection c => some c.collectionType.valueType
  | .userType _ => some .udt
  | .vector _ => some .vector

theorem argumentOf_kind {types : TypeOps D} {objects : List (ApiObject D)} {argument : Argument}
    {v : CassCqlValue D} (is : argumentOf types objects argument = some (.ok (some v))) :
    (∃ s, v = .scalar s) ∨ ∃ object ∈ objects, v.kind = object.kind ∧ v.dataType = object.dataType ∧
      ∀ d e values, v = .vector d e values → object = .vector ⟨d, e, values⟩ := by
  unfold argumentOf at is
  split at is
  · cases is
  · cases is
    exact .inl ⟨_, rfl⟩
  · right
    split at is
    · rename_i t at'
      cases is
      exact ⟨_, List.mem_of_getElem? at', rfl, rfl, by rintro _ _ _ ⟨⟩⟩
    · rename_i c at'
      obtain ⟨w, converted, same⟩ := map_eq_ok.mp (Option.some.inj is)
      cases same
      refine ⟨_, List.mem_of_getElem? at', ?_⟩
      obtain ⟨collectionType, dataType, items⟩ := c
      cases collectionType with
      | list | set =>
        cases converted
        exact ⟨rfl, rfl, by rintro _ _ _ ⟨⟩⟩
      | map =>
        simp only [CassCollection.toCqlValue] at converted
        split at converted
        · cases converted
          exact ⟨rfl, rfl, by rintro _ _ _ ⟨⟩⟩
        · cases converted
    · rename_i u at'
      obtain ⟨w, converted, same⟩ := Option.map_eq_some_iff.mp is
      cases same
      obtain ⟨fields, -, is⟩ := Option.bind_eq_some_iff.mp converted
      cases is
      exact ⟨_, List.mem_of_getElem? at', rfl, rfl, by rintro _ _ _ ⟨⟩⟩
    · rename_i w at'
      cases is
      refine ⟨_, List.mem_of_getElem? at', rfl, rfl, ?_⟩
      rintro d e values ⟨⟩
      rfl
    · cases is

theorem Writes.kind {object after : ApiObject D} (writes : Writes value object code after) :
    after.kind = object.kind := by
  cases writes <;> rfl

theorem Writes.dataType {object after : ApiObject D} (writes : Writes value object code after) :
    after.dataType = object.dataType := by
  cases writes <;> rfl

theorem applySetter_vector {types : TypeOps D} {setter : Setter} {v : CassVector D}
    {after : ApiObject D} (called : applySetter types setter (.vector v) value = some (code, after)) :
    after = .vector v ∨ ∃ index w, value = some w ∧
      w.isTypeCompatible types v.elementType = some true ∧
      after = .vector { v with items := v.items.set index (some w) } := by
  cases setter with
  | vectorSet index =>
    cases value with
    | none =>
      cases called
      exact .inl rfl
    | some w =>
      obtain ⟨⟨code', after'⟩, bound, is⟩ := Option.map_eq_some_iff.mp called
      cases is
      unfold CassVector.bindValue at bound
      split at bound
      · cases bound
        exact .inl rfl
      · obtain ⟨ok, compatible, is⟩ := Option.map_eq_some_iff.mp bound
        cases ok with
        | false =>
          cases is
          exact .inl rfl
        | true =>
          cases is
          exact .inr ⟨index, w, rfl, compatible, rfl⟩
  | _ => cases called

end Objects

section Steps
variable {fuel : Nat} {s t : State}

/-- The data type of a container describes its kind, and a vector has a slot for each of the
dimensions. -/
structure Heap.Matches (h : Heap) (object : ApiObject Nat) : Prop where
  describes : ∀ d kind, object.dataType = some d → object.kind = some kind →
    (h.inner d).Describes kind
  slots : ∀ v, object = .vector v → ∃ dimensions,
    h.inner v.dataType = .vector v.elementType dimensions ∧ v.items.length = dimensions.toNat

theorem Heap.Matches.changes {h h' : Heap} {object : ApiObject Nat} (matched : h.Matches object)
    (refers : ∀ d, object.RefersTo d → h.valid d) (changes : Heap.Changes h h') :
    h'.Matches object where
  describes d kind is kinds :=
    (changes.evolves (refers d (.dataType _ d is))).2.describes (matched.describes d kind is kinds)
  slots := by
    rintro v rfl
    obtain ⟨dimensions, is, length⟩ := matched.slots v rfl
    have kept := changes.inner_eq (refers v.dataType (.dataType _ _ rfl)) (.inl (by rw [is]; rfl))
    exact ⟨dimensions, kept.trans is, length⟩

theorem Heap.Matches.writes {h : Heap} {object after : ApiObject Nat} {value code}
    (matched : h.Matches object) (writes : Writes value object code after) : h.Matches after where
  describes := by
    rw [writes.kind, writes.dataType]
    exact matched.describes
  slots := by
    rintro v rfl
    cases writes with
    | rejected => exact matched.slots v rfl
    | vector w index u is =>
      obtain ⟨dimensions, inner, length⟩ := matched.slots w rfl
      exact ⟨dimensions, inner, by rw [List.length_set, length]⟩

/-- Where a container comes from that there is after a call. -/
inductive Origin (fuel : Nat) (s t : State) : ApiObject Nat → Prop where
  | kept (object) (member : object ∈ s.objects) : Origin fuel s t object
  | created (object) (heap : t.heap = s.heap) (empty : object.values = [])
      (matched : s.heap.Matches object) : Origin fuel s t object
  | set (setter object value code after argument) (heap : t.heap = s.heap)
      (member : object ∈ s.objects)
      (is : argumentOf (s.heap.ops fuel) s.objects argument = some (.ok value))
      (called : applySetter (s.heap.ops fuel) setter object value = some (code, after)) :
      Origin fuel s t after

theorem untyped_matches {h : Heap} {object : ApiObject Nat} (untyped : object.dataType = none) :
    h.Matches object where
  describes d kind is _ := by
    rw [untyped] at is
    cases is
  slots := by
    rintro v rfl
    cases untyped

theorem typed_matches {h : Heap} {object : ApiObject Nat} {d : Nat} {inner : CassDataTypeInner Nat}
    {kind : CassValueType} (typed : object.dataType = some d) (is : h.inner d = inner)
    (kinds : object.kind = some kind) (describes : inner.Describes kind)
    (slots : ∀ v, object = .vector v → ∃ dimensions,
      inner = .vector v.elementType dimensions ∧ v.items.length = dimensions.toNat) :
    h.Matches object where
  describes e kind' same sameKind := by
    cases Option.some.inj (typed.symm.trans same)
    cases Option.some.inj (kinds.symm.trans sameKind)
    rwa [is]
  slots := by
    rintro v rfl
    cases Option.some.inj typed
    rw [is]
    exact slots v rfl

theorem Created.matches {h : Heap} {object : ApiObject Nat} (created : Created h object) :
    h.Matches object := by
  cases created with
  | tuple | collection => exact untyped_matches rfl
  | vectorFrom d typ dimensions valid is =>
    refine typed_matches rfl is rfl ⟨rfl, nofun⟩ ?_
    rintro v ⟨⟩
    exact ⟨dimensions, rfl, List.length_replicate⟩
  | tupleFrom _ _ _ is | listFrom _ _ _ _ is | setFrom _ _ _ _ is | mapFrom _ _ _ _ is
  | userTypeFrom _ _ _ is =>
    exact typed_matches rfl is rfl ⟨rfl, nofun⟩ nofun

/-- Every container was there before the call, or is new and empty, or was written by a setter. -/
theorem step_origin {call : Call} (stepped : step fuel s call = some t) :
    ∀ object ∈ t.objects, Origin fuel s t object := by
  intro other inside
  cases step_call stepped with
  | types => exact .kept other inside
  | created object created =>
    rcases List.mem_append.mp inside with old | last
    · exact .kept other old
    · cases List.mem_singleton.mp last
      exact .created other rfl created.values created.matches
  | set o setter argument object value code after at' is called =>
    rcases List.mem_or_eq_of_mem_set inside with old | rfl
    · exact .kept other old
    · exact .set setter object value code other argument rfl (List.mem_of_getElem? at') is called

/-- No vector is without dimensions. -/
def Heap.NonzeroVectors (h : Heap) : Prop :=
  ∀ d typ dimensions, h.inner d = .vector typ dimensions → dimensions ≠ 0

theorem Heap.NonzeroVectors.alloc {h : Heap} {inner : CassDataTypeInner Nat}
    (nonzero : h.NonzeroVectors)
    (new : ∀ typ dimensions, inner = .vector typ dimensions → dimensions ≠ 0) :
    (h.alloc inner).NonzeroVectors := by
  intro d typ dimensions is
  rcases Heap.alloc_valid.mp (Heap.valid_of_vector is) with old | rfl
  · rw [Heap.inner_alloc old] at is
    exact nonzero d typ dimensions is
  · rw [Heap.inner_alloc_self] at is
    exact new typ dimensions is

theorem Heap.NonzeroVectors.update {h : Heap} {d : Nat} {inner after : CassDataTypeInner Nat}
    {sub : Option Nat} (nonzero : h.NonzeroVectors) (valid : h.valid d)
    (grows : inner.Grows after sub) : (h.update d after).NonzeroVectors := by
  intro e typ dimensions is
  by_cases same : e = d
  · subst same
    rw [Heap.inner_update_self valid] at is
    have final := grows.not_final.2
    rw [is] at final
    cases final
  · rw [Heap.inner_update_ne same] at is
    exact nonzero e typ dimensions is

theorem step_nonzeroVectors {call : Call} (nonzero : s.heap.NonzeroVectors)
    (stepped : step fuel s call = some t) : t.heap.NonzeroVectors := by
  have next := step_heap stepped
  generalize t.heap = after at next ⊢
  cases next with
  | kept => exact nonzero
  | plain _ inner childless noVector =>
    exact nonzero.alloc (fun typ dimensions is => absurd is (noVector typ dimensions))
  | copied d valid => exact nonzero.alloc (fun typ dimensions is => nonzero d typ dimensions is)
  | vector d dimensions valid full positive =>
    apply nonzero.alloc
    rintro typ dimensions' ⟨⟩
    exact positive
  | grown _ d after sub valid grows => exact nonzero.update valid grows
  | grownByLeaf _ d type after valid grows =>
    have fresh : (s.heap.alloc (.value type)).NonzeroVectors := nonzero.alloc nofun
    exact fresh.update (Heap.alloc_valid.mpr (.inl valid)) grows

/-- The containers have data types of their kind. -/
structure State.Kinded (s : State) : Prop extends s.Sound where
  nonzero : s.heap.NonzeroVectors
  matched : ∀ object ∈ s.objects, s.heap.Matches object

theorem step_kinded {call : Call} (kinded : s.Kinded) (stepped : step fuel s call = some t) :
    t.Kinded where
  toSound := step_sound kinded.toSound stepped
  nonzero := step_nonzeroVectors kinded.nonzero stepped
  matched object member := by
    cases step_origin stepped object member with
    | kept _ old =>
      exact (kinded.matched object old).changes (kinded.refers object old)
        (step_changes kinded.closed stepped)
    | created _ heap empty matched => rwa [heap]
    | set setter source value code _ argument heap inside is called =>
      rw [heap]
      exact (kinded.matched source inside).writes (applySetter_writes called)

theorem empty_kinded : State.Kinded {} where
  toSound := empty_sound
  nonzero _ _ _ is := by cases is
  matched _ member := absurd member List.not_mem_nil

theorem State.Kinded.argument (kinded : s.Kinded) {argument : Argument} {v : CassCqlValue Nat}
    (is : argumentOf (s.heap.ops fuel) s.objects argument = some (.ok (some v))) {d : Nat}
    {kind : CassValueType} (carries : v.dataType = some d) (kinds : v.kind = some kind) :
    (s.heap.inner d).Describes kind := by
  rcases argumentOf_kind is with ⟨sc, rfl⟩ | ⟨object, member, sameKind, sameType, -⟩
  · cases carries
  · exact (kinded.matched object member).describes d kind (sameType ▸ carries) (sameKind ▸ kinds)

theorem kind_of_compatible {h : Heap} {depth : Nat} {v : CassCqlValue Nat} {typ : Nat}
    {kind : CassValueType} (kinds : v.kind = some kind)
    (typed : ∀ d, v.dataType = some d → (h.inner d).Describes kind)
    (accepted : v.isTypeCompatible (h.ops depth) typ = some true) :
    (h.inner typ).getValueType = kind := by
  cases carries : v.dataType with
  | some d =>
    rw [isTypeCompatible_of_dataType _ carries] at accepted
    obtain ⟨deeper, agrees⟩ := Heap.agrees_of_typecheckEquals accepted
    exact ((typed d carries).agrees agrees).1
  | none =>
    have named : some ((h.inner typ).getValueType == kind) = some true := by
      cases v with
      | scalar => cases kinds
      | vector | userDefinedType => cases carries
      | tuple dataType | list dataType | map dataType | set dataType =>
        cases carries
        cases kinds
        exact accepted
    exact eq_of_beq (Option.some.inj named)

end Steps

end CppRsDriver.Types
