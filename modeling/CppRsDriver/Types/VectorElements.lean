import CppRsDriver.Types.Changes

/-! The element types of vectors. They are checked once, when the vector type is created;
afterwards they are data types like any other, and may be modified. -/
namespace CppRsDriver.Types

open CppRsDriver.Lib

/-- A kind of type that is described by more than its name. -/
def CassValueType.isContainer : CassValueType → Bool
  | .list | .set | .map | .tuple | .udt | .vector | .custom => true
  | _ => false

/-- The data type says what its parts are, or is a leaf that has none. -/
def CassDataTypeInner.complete {D : Type} : CassDataTypeInner D → Bool
  | .value t => !t.isContainer
  | .custom _ => false
  | .list typ _ | .set typ _ => typ.isSome
  | .map (.keyAndValue _ _) _ => true
  | .map _ _ => false
  | .tuple types => !types.isEmpty
  | .udt u => !u.fieldTypes.isEmpty
  | .vector _ _ => true

theorem CassDataTypeInner.isFullyTypedM_true {D : Type} {sub : D → Option Bool} {inner : CassDataTypeInner D}
    (full : inner.isFullyTypedM sub = some true) :
    ((∃ t, inner = .value t) ∨ inner.complete = true) ∧
      ∀ e ∈ inner.children, sub e = some true := by
  cases inner with
  | value t => exact ⟨.inl ⟨t, rfl⟩, by simp [CassDataTypeInner.children]⟩
  | custom className => cases full
  | list typ frozen | set typ frozen =>
    cases typ with
    | none => cases full
    | some typ =>
      have element : sub typ = some true := full
      exact ⟨.inr rfl, by simpa [CassDataTypeInner.children] using element⟩
  | map typ frozen =>
    cases typ with
    | untyped => cases full
    | key k => cases full
    | keyAndValue k v =>
      have both := bind_check_eq_some_true.mp full
      exact ⟨.inr rfl, by simpa [CassDataTypeInner.children] using both⟩
  | tuple types =>
    simp only [CassDataTypeInner.isFullyTypedM] at full
    split at full
    · cases full
    · rename_i some'
      exact ⟨.inr (by simpa [CassDataTypeInner.complete] using some'), allM_eq_some_true.mp full⟩
  | udt u =>
    simp only [CassDataTypeInner.isFullyTypedM] at full
    split at full
    · cases full
    · rename_i some'
      refine ⟨.inr (by simpa [CassDataTypeInner.complete] using some'), ?_⟩
      have each := allM_eq_some_true.mp full
      intro e member
      obtain ⟨field, inside, rfl⟩ := List.mem_map.mp member
      exact each field inside
  | vector typ dimensions =>
    have element : sub typ = some true := full
    exact ⟨.inr rfl, by simpa [CassDataTypeInner.children] using element⟩

namespace Heap

def Complete (h : Heap) (d : Nat) : Prop := ∀ e, h.Reach d e → (h.inner e).complete = true

/-- The element type of some vector is this data type or refers to it. -/
def UnderVector (h : Heap) (e : Nat) : Prop :=
  ∃ v typ dimensions, h.inner v = .vector typ dimensions ∧ h.Reach typ e

/-- The check of two data types without wildcards: an incomplete type equals nothing. -/
def typecheckStrict (h : Heap) : Nat → Nat → Nat → Option Bool
  | 0, _, _ => none
  | fuel + 1, a, b =>
    if (h.inner a).complete && (h.inner b).complete then
      (h.inner a).typecheckWith (typecheckStrict h fuel) (h.inner b)
    else some false

section Reach
variable {h : Heap}

theorem underVector_closed (h : Heap) : h.Closed h.UnderVector := by
  rintro d ⟨v, typ, dimensions, is, reach⟩ e child
  exact ⟨v, typ, dimensions, is, reach.tail child⟩

theorem complete_under_vectors (part : Nat → Prop) (closed : h.Closed part)
    (complete : ∀ e, part e → (h.inner e).complete = true)
    (elements : ∀ v typ dimensions, h.inner v = .vector typ dimensions → part typ) :
    ∀ e, h.UnderVector e → (h.inner e).complete = true := by
  rintro e ⟨v, typ, dimensions, is, reach⟩
  exact complete e (closed.reach (elements v typ dimensions is) reach)

/-- What the check at the creation of a vector finds out: everything is complete but for
the leaves that name a container. -/
theorem complete_of_isFullyTyped {fuel d : Nat} (full : h.isFullyTyped fuel d = some true)
    (leaves : ∀ e t, h.Reach d e → h.inner e = .value t → t.isContainer = false) :
    h.Complete d := by
  have closed : h.Closed (fun e => ∃ fuel, h.isFullyTyped fuel e = some true) := by
    rintro e ⟨fuel, full⟩ e' child
    cases fuel with
    | zero => cases full
    | succ fuel => exact ⟨fuel, (CassDataTypeInner.isFullyTypedM_true full).2 e' child⟩
  intro e reach
  obtain ⟨fuel, full⟩ := closed.reach ⟨fuel, full⟩ reach
  cases fuel with
  | zero => cases full
  | succ fuel =>
    rcases (CassDataTypeInner.isFullyTypedM_true full).1 with ⟨t, is⟩ | complete
    · rw [is, CassDataTypeInner.complete, leaves e t reach is]
      rfl
    · exact complete

/-- Between data types that are complete all the way down there is nothing to fall back on. -/
theorem typecheckEquals_eq_strict (fuel : Nat) : ∀ a b, h.Complete a → h.Complete b →
    h.typecheckEquals fuel a b = h.typecheckStrict fuel a b := by
  induction fuel with
  | zero => exact fun _ _ _ _ => rfl
  | succ fuel ih =>
    intro a b completeA completeB
    rw [typecheckEquals, typecheckStrict, completeA a .refl, completeB b .refl, Bool.and_self,
      if_pos rfl]
    apply CassDataTypeInner.typecheckWith_congr
    intro d memberA e memberB
    exact ih d e (fun e' reach => completeA e' (.head memberA reach))
      (fun e' reach => completeB e' (.head memberB reach))

end Reach

section Changes
variable {h : Heap} {inner after : CassDataTypeInner Nat} {d e : Nat}

/-- Every vector's element type is complete all the way down. -/
structure VectorsTyped (h : Heap) : Prop where
  closed : h.Closed h.valid
  complete : ∀ e, h.UnderVector e → (h.inner e).complete = true

theorem valid_element (closed : h.Closed h.valid) {typ : Nat} {dimensions : UInt16}
    (is : h.inner d = .vector typ dimensions) : h.valid typ := by
  apply closed d (valid_of_vector is)
  rw [is]
  exact List.mem_singleton_self typ

theorem reach_alloc (closed : h.Closed h.valid) (valid : h.valid d)
    (reach : (h.alloc inner).Reach d e) : h.valid e ∧ h.Reach d e := by
  have kept : (h.alloc inner).Closed (fun e => h.valid e ∧ h.Reach d e) := by
    rintro e ⟨valid, reach⟩ e' child
    rw [inner_alloc valid] at child
    exact ⟨closed e valid e' child, reach.tail child⟩
  exact kept.reach ⟨valid, .refl⟩ reach

theorem underVector_alloc (closed : h.Closed h.valid) (under : (h.alloc inner).UnderVector e) :
    h.valid e ∧ h.UnderVector e ∨
      ∃ typ dimensions, inner = .vector typ dimensions ∧ (h.alloc inner).Reach typ e := by
  obtain ⟨v, typ, dimensions, is, reach⟩ := under
  rcases alloc_valid.mp (valid_of_vector is) with old | rfl
  · rw [inner_alloc old] at is
    obtain ⟨valid, reach⟩ := reach_alloc closed (valid_element closed is) reach
    exact .inl ⟨valid, v, typ, dimensions, is, reach⟩
  · rw [inner_alloc_self] at is
    exact .inr ⟨typ, dimensions, is, reach⟩

theorem VectorsTyped.alloc (inv : h.VectorsTyped) (children : ∀ e ∈ inner.children, h.valid e)
    (element : ∀ typ dimensions, inner = .vector typ dimensions → h.Complete typ) :
    (h.alloc inner).VectorsTyped where
  closed := alloc_closed inv.closed children
  complete := by
    intro e under
    rcases underVector_alloc inv.closed under with ⟨valid, old⟩ | ⟨typ, dimensions, rfl, reach⟩
    · rw [inner_alloc valid]
      exact inv.complete e old
    · have typValid : h.valid typ := children typ (List.mem_singleton_self typ)
      obtain ⟨valid, reach⟩ := reach_alloc inv.closed typValid reach
      rw [inner_alloc valid]
      exact element typ dimensions rfl e reach

/-- What a modification makes of a data type: it is no vector, refers to at most one type
more, and is complete if it was. -/
structure Extends (inner after : CassDataTypeInner Nat) (sub : Option Nat) : Prop where
  children : ∀ e ∈ after.children, e ∈ inner.children ∨ sub = some e
  notVector : ∀ typ dimensions, after ≠ .vector typ dimensions
  complete : inner.complete = true → after.complete = true

theorem VectorsTyped.update (inv : h.VectorsTyped) (valid : h.valid d) {sub : Option Nat}
    (extended : Extends (h.inner d) after sub) (subValid : ∀ e, sub = some e → h.valid e)
    (subComplete : h.UnderVector d → ∀ e, sub = some e → h.Complete e) :
    (h.update d after).VectorsTyped := by
  have children : ∀ e ∈ after.children, h.valid e := by
    intro e member
    rcases extended.children e member with old | new
    · exact inv.closed d valid e old
    · exact subValid e new
  -- what was under a vector, and what the new subtype brings when it gets under one
  let part : Nat → Prop := fun e =>
    h.UnderVector e ∨ h.UnderVector d ∧ ∃ e', sub = some e' ∧ h.Reach e' e
  have under : part d → h.UnderVector d := by
    rintro (under | ⟨under, -⟩) <;> exact under
  have old : h.Closed part := by
    rintro e (under | ⟨under, e', is, reach⟩) e'' child
    · exact .inl (h.underVector_closed e under e'' child)
    · exact .inr ⟨under, e', is, reach.tail child⟩
  refine ⟨update_closed inv.closed children, complete_under_vectors part ?_ ?_ ?_⟩
  · intro e inPart e' child
    by_cases same : e = d
    · subst same
      rw [inner_update_self valid] at child
      rcases extended.children e' child with was | new
      · exact old e inPart e' was
      · exact .inr ⟨under inPart, e', new, .refl⟩
    · rw [inner_update_ne same] at child
      exact old e inPart e' child
  · intro e inPart
    by_cases same : e = d
    · subst same
      rw [inner_update_self valid]
      exact extended.complete (inv.complete e (under inPart))
    · rw [inner_update_ne same]
      rcases inPart with underE | ⟨underD, e', is, reach⟩
      · exact inv.complete e underE
      · exact subComplete underD e' is e reach
  · intro v typ dimensions is
    by_cases same : v = d
    · subst same
      rw [inner_update_self valid] at is
      exact absurd is (extended.notVector typ dimensions)
    · rw [inner_update_ne same] at is
      exact .inl ⟨v, typ, dimensions, is, .refl⟩

theorem Extends.of_grows {sub : Option Nat} (grows : inner.Grows after sub) :
    Extends inner after sub where
  children := grows.children
  notVector := by cases grows <;> rintro typ dimensions ⟨⟩
  complete := by cases grows <;> simp [CassDataTypeInner.complete]

/- The new leaf is created first, and refers to nothing. -/
theorem VectorsTyped.update_by_leaf {type : CassValueType} (inv : h.VectorsTyped) (valid : h.valid d)
    (extended : Extends (h.inner d) after (some h.cells.length))
    (leaf : h.UnderVector d → type.isContainer = false) :
    ((h.alloc (.value type)).update d after).VectorsTyped := by
  have fresh : (h.alloc (.value type)).VectorsTyped :=
    inv.alloc (by simp [CassDataTypeInner.children]) nofun
  have content : (h.alloc (.value type)).inner h.cells.length = .value type := inner_alloc_self _ _
  have alone : (h.alloc (.value type)).Closed (· = h.cells.length) := by
    rintro e rfl e' child
    rw [content] at child
    cases child
  rw [← inner_alloc valid] at extended
  apply fresh.update (alloc_valid.mpr (.inl valid)) extended
  · rintro e ⟨⟩
    exact alloc_valid.mpr (.inr rfl)
  · rintro under e ⟨⟩ e' reach
    rcases underVector_alloc inv.closed under with ⟨-, old⟩ | ⟨typ, dimensions, is, -⟩
    · rw [alone.reach rfl reach, content, CassDataTypeInner.complete, leaf old]
      rfl
    · cases is

end Changes

end Heap

section Steps
variable {fuel : Nat} {s t : State}

/-- The call leaves the element types of vectors complete: what it adds below a vector is
complete, and what it makes a vector of has no leaf that names a container. -/
def KeepsElementsComplete (s : State) : Call → Prop
  | .addSubType d sub | .addSubTypeByName d _ sub => s.heap.UnderVector d → s.heap.Complete sub
  | .addSubValueType d type | .addSubValueTypeByName d _ type =>
    s.heap.UnderVector d → type.isContainer = false
  | .dataTypeNewVector d _ =>
    ∀ e type, s.heap.Reach d e → s.heap.inner e = .value type → type.isContainer = false
  | _ => True

theorem step_vectorsTyped (inv : s.heap.VectorsTyped) {call : Call}
    (keeps : KeepsElementsComplete s call) (stepped : step fuel s call = some t) :
    t.heap.VectorsTyped := by
  have next := step_heap stepped
  generalize t.heap = after at next ⊢
  cases next with
  | kept => exact inv
  | plain _ inner childless noVector =>
    refine inv.alloc ?_ (fun typ dimensions is => absurd is (noVector typ dimensions))
    rw [childless]
    exact fun e member => absurd member List.not_mem_nil
  | copied d valid =>
    apply inv.alloc (inv.closed d valid)
    intro typ dimensions vector e reach
    exact inv.complete e ⟨d, typ, dimensions, vector, reach⟩
  | vector d dimensions valid full nonzero =>
    refine inv.alloc (List.forall_mem_singleton.mpr valid) ?_
    rintro typ dimensions' ⟨⟩
    exact Heap.complete_of_isFullyTyped full keeps
  | grown _ d after sub valid grows subValid adds =>
    refine inv.update valid (.of_grows grows) subValid ?_
    intro under e is
    rcases adds e is with rfl | ⟨name, rfl⟩
    all_goals exact keeps under
  | grownByLeaf _ d type after valid grows adds =>
    refine inv.update_by_leaf valid (.of_grows grows) ?_
    intro under
    rcases adds with rfl | ⟨name, rfl⟩
    all_goals exact keeps under

end Steps

/-- Along calls that leave the element types of vectors complete, they are complete at every
depth, and the check of a vector against any data type is the one without wildcards. -/
theorem vector_elements_complete (fuel : Nat) (calls : List Call) (s : State)
    (keeps : Guarded KeepsElementsComplete (step fuel) {} calls)
    (ran : run (step fuel) {} calls = some s) :
    (∀ v typ dimensions, s.heap.inner v = .vector typ dimensions → s.heap.Complete typ) ∧
      ∀ depth v typ dimensions other, s.heap.inner v = .vector typ dimensions →
        s.heap.typecheckEquals depth v other = s.heap.typecheckStrict depth v other := by
  have preserved : ∀ s call t, Heap.VectorsTyped (State.heap s) → KeepsElementsComplete s call →
      step fuel s call = some t → t.heap.VectorsTyped :=
    fun s call t inv keeps stepped => step_vectorsTyped inv keeps stepped
  have initial : Heap.VectorsTyped (State.heap {}) := by
    refine ⟨fun d valid => absurd valid (Nat.not_lt_zero d), ?_⟩
    rintro e ⟨v, typ, dimensions, is, -⟩
    cases is
  have inv := run_invariant_guarded preserved initial keeps ran
  have elements : ∀ v typ dimensions, s.heap.inner v = .vector typ dimensions →
      s.heap.Complete typ :=
    fun v typ dimensions is e reach => inv.complete e ⟨v, typ, dimensions, is, reach⟩
  refine ⟨elements, ?_⟩
  intro depth v typ dimensions other is
  cases depth with
  | zero => rfl
  | succ depth =>
    rw [Heap.typecheckEquals, Heap.typecheckStrict, is]
    cases content : s.heap.inner other with
    | vector otherTyp otherDimensions =>
      rw [CassDataTypeInner.typecheckWith, CassDataTypeInner.typecheckWith,
        Heap.typecheckEquals_eq_strict depth typ otherTyp (elements v typ dimensions is)
          (elements other otherTyp otherDimensions content)]
      rfl
    | _ => simp [CassDataTypeInner.typecheckWith]

/- A vector of tuples; the tuple gets a second, native subtype when the vector exists. -/
theorem vector_elements_complete_tuple :
    let calls : List Call := [.dataTypeNewTuple, .addSubValueType 0 .int, .dataTypeNewVector 0 3,
      .addSubValueType 0 .text]
    ∃ s, run (step 2) {} calls = some s ∧ s.heap.inner 2 = .vector 0 3 ∧ s.heap.Complete 0 := by
  intro calls
  refine ⟨_, rfl, rfl, (vector_elements_complete 2 calls _ ?_ rfl).1 2 0 3 rfl⟩
  refine ⟨trivial, fun s is => ?_⟩
  cases Option.some.inj is
  refine ⟨fun _ => rfl, fun s is => ?_⟩
  cases Option.some.inj is
  refine ⟨?_, fun s is => ?_⟩
  · intro e type reach is
    match e with
    | 0 => cases is
    | 1 => cases is; rfl
    | e + 2 => cases is
  · cases Option.some.inj is
    exact ⟨fun _ => rfl, fun s is => trivial⟩

/-- A leaf that names a list gets below a vector because the check takes every leaf for
complete, and an untyped list because it is added when the vector exists. -/
theorem vector_elements_incomplete :
    (∃ s, run (step 2) {} [.dataTypeNewTuple, .addSubValueType 0 .list, .dataTypeNewVector 0 3] =
        some s ∧
      s.heap.inner 2 = .vector 0 3 ∧ s.heap.inner 0 = .tuple [1] ∧
      s.heap.inner 1 = .value .list ∧ ¬ s.heap.Complete 0) ∧
    (∃ s, run (step 2) {} [.dataTypeNewTuple, .addSubValueType 0 .int, .dataTypeNewVector 0 3,
        .dataTypeNew .list, .addSubType 0 3] = some s ∧
      s.heap.inner 2 = .vector 0 3 ∧ s.heap.inner 0 = .tuple [1, 3] ∧
      s.heap.inner 3 = .list none false ∧ ¬ s.heap.Complete 0) := by
  refine ⟨⟨_, rfl, rfl, rfl, rfl, ?_⟩, ⟨_, rfl, rfl, rfl, rfl, ?_⟩⟩
  · intro complete
    cases complete 1 (.single (List.mem_singleton_self 1))
  · intro complete
    cases complete 3 (.single (List.mem_cons_of_mem 1 (List.mem_singleton_self 3)))

end CppRsDriver.Types
