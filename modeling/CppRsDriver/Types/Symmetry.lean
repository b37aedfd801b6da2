import CppRsDriver.Types.Compatibility
import CppRsDriver.Types.Termination

/-! The type check with its two sides exchanged. A leaf of the left type may name the kind
of a container of the right type; the other way round the check refuses. -/
namespace CppRsDriver.Types

open CppRsDriver.Lib

namespace CassDataTypeInner
variable {D E : Type}

theorem mem_zip_swap {xs : List D} {ys : List E} {d : D} {e : E} (member : (d, e) ∈ xs.zip ys) :
    (e, d) ∈ ys.zip xs := by
  rw [← List.zip_swap]
  exact List.mem_map_of_mem (f := Prod.swap) member

theorem places_swap {self : CassDataTypeInner D} {other : CassDataTypeInner E} {d : D} {e : E}
    (place : (d, e) ∈ self.places other) : (e, d) ∈ other.places self := by
  unfold places at place
  split at place
  · obtain ⟨pair, member, is⟩ := List.mem_map.mp place
    cases is
    exact List.mem_map_of_mem (f := fun pair => (pair.1.2, pair.2.2)) (mem_zip_swap member)
  · cases List.mem_singleton.mp place
    exact List.mem_singleton_self _
  · cases List.mem_singleton.mp place
    exact List.mem_singleton_self _
  · cases List.mem_singleton.mp place
    exact List.mem_singleton_self _
  · simp only [List.mem_cons, List.not_mem_nil, or_false, Prod.mk.injEq] at place
    rcases place with ⟨rfl, rfl⟩ | ⟨rfl, rfl⟩
    · simp [places]
    · simp [places]
  · exact mem_zip_swap place
  · cases List.mem_singleton.mp place
    exact List.mem_singleton_self _
  · cases place

theorem anyStringEmptyOrBothEqual_comm (s1 s2 : String) :
    anyStringEmptyOrBothEqual s1 s2 = anyStringEmptyOrBothEqual s2 s1 := by
  rw [anyStringEmptyOrBothEqual, anyStringEmptyOrBothEqual, Bool.or_comm (s1 == ""),
    Bool.beq_comm (a := s1) (b := s2)]

/-- A leaf that names the kind of a container. -/
def NamesKind (self : CassDataTypeInner D) (other : CassDataTypeInner E) : Prop :=
  (∃ t, self = .value t ∧ valueTypesEqual t other.getValueType = true) ∧ ∀ t, other ≠ .value t

theorem headsAgree_swap {self : CassDataTypeInner D} {other : CassDataTypeInner E}
    (heads : self.headsAgree other = true) :
    other.headsAgree self = true ∨ self.NamesKind other := by
  unfold headsAgree at heads
  split at heads
  · rename_i t
    cases other with
    | value other => exact .inl ((valueTypesEqual_iff other t).mpr ((valueTypesEqual_iff t other).mp heads).symm)
    | _ => exact .inr ⟨⟨t, rfl, heads⟩, nofun⟩
  · rename_i u other
    simp only [Bool.and_eq_true, List.all_eq_true, beq_iff_eq] at heads
    left
    simp only [headsAgree, Bool.and_eq_true, List.all_eq_true, beq_iff_eq]
    refine ⟨⟨?_, ?_⟩, fun pair member => ?_⟩
    · rw [anyStringEmptyOrBothEqual_comm]
      exact heads.1.1
    · rw [anyStringEmptyOrBothEqual_comm]
      exact heads.1.2
    · exact (heads.2 _ (mem_zip_swap member)).symm
  · exact .inl rfl
  · exact .inl rfl
  · rename_i typ _
    left
    cases typ <;> rfl
  · exact .inl rfl
  · exact .inl rfl
  · exact .inl rfl
  · left
    simp only [headsAgree, Bool.or_eq_true, List.isEmpty_iff, beq_iff_eq] at heads ⊢
    rcases heads with (left | right) | length
    · exact .inl (.inr left)
    · exact .inl (.inl right)
    · exact .inr length.symm
  · left
    exact beq_iff_eq.mpr (beq_iff_eq.mp heads).symm
  · contradiction

theorem headsAgree_of_namesKind {self : CassDataTypeInner D} {other : CassDataTypeInner E}
    (names : self.NamesKind other) : other.headsAgree self = false := by
  obtain ⟨⟨t, rfl, -⟩, container⟩ := names
  cases other with
  | value t => exact absurd rfl (container t)
  | map typ => cases typ <;> rfl
  | _ => rfl

end CassDataTypeInner

namespace Heap

/-- The two data types agree if a leaf may stand for a container of the kind it names, in
either of them. -/
inductive Alike (h : Heap) : Nat → Nat → Prop where
  | intro (a b) (heads : (h.inner a).headsAgree (h.inner b) = true ∨
        (h.inner b).headsAgree (h.inner a) = true)
      (subtypes : ∀ d e, (d, e) ∈ (h.inner a).places (h.inner b) → Alike h d e) : Alike h a b

/-- Somewhere a leaf of the first data type names the kind of the container that the
second has at this place. -/
inductive LeafForContainer (h : Heap) : Nat → Nat → Prop where
  | here (a b) (names : (h.inner a).NamesKind (h.inner b)) : LeafForContainer h a b
  | deeper (a b d e) (place : (d, e) ∈ (h.inner a).places (h.inner b))
      (sub : LeafForContainer h d e) : LeafForContainer h a b

variable {h : Heap} {a b : Nat}

theorem Alike.symm (alike : h.Alike a b) : h.Alike b a := by
  induction alike with
  | intro a b heads _ ih =>
    refine .intro b a heads.symm (fun d e place => ?_)
    exact ih e d (CassDataTypeInner.places_swap place)

theorem typecheckEquals_succ_iff {depth : Nat} : h.typecheckEquals (depth + 1) a b = some true ↔
    (h.inner a).headsAgree (h.inner b) = true ∧
      ∀ d e, (d, e) ∈ (h.inner a).places (h.inner b) → h.typecheckEquals depth d e = some true := by
  rw [typecheckEquals, CassDataTypeInner.typecheckWith_iff, CassDataTypeInner.agrees_iff_places]

theorem alike_of_typecheckEquals {depth : Nat} (accepted : h.typecheckEquals depth a b = some true) :
    h.Alike a b ∧ ¬ h.LeafForContainer b a := by
  induction depth generalizing a b with
  | zero => cases accepted
  | succ depth ih =>
    obtain ⟨heads, subtypes⟩ := typecheckEquals_succ_iff.mp accepted
    constructor
    · exact .intro a b (.inl heads) (fun d e place => (ih (subtypes d e place)).1)
    · intro leaf
      cases leaf with
      | here _ _ names =>
        rw [CassDataTypeInner.headsAgree_of_namesKind names] at heads
        cases heads
      | deeper _ _ d e place sub =>
        exact (ih (subtypes e d (CassDataTypeInner.places_swap place))).2 sub

theorem typecheckEquals_of_alike (alike : h.Alike a b) (noLeaf : ¬ h.LeafForContainer b a) :
    Returns (fun depth => h.typecheckEquals depth a b) true := by
  induction alike with
  | intro a b heads _ ih =>
    have agree : (h.inner a).headsAgree (h.inner b) = true := by
      rcases heads with heads | heads
      · exact heads
      · rcases CassDataTypeInner.headsAgree_swap heads with heads | names
        · exact heads
        · exact absurd (.here b a names) noLeaf
    have each : ∀ pair ∈ (h.inner a).places (h.inner b),
        Returns (fun depth => h.typecheckEquals depth pair.1 pair.2) true := by
      rintro ⟨d, e⟩ place
      exact ih d e place (fun leaf => noLeaf (.deeper b a e d (CassDataTypeInner.places_swap place) leaf))
    obtain ⟨bound, common⟩ := exists_common_bound
      (f := fun depth (pair : Nat × Nat) => h.typecheckEquals depth pair.1 pair.2) each
    refine ⟨bound + 1, fun depth enough => ?_⟩
    cases depth with
    | zero => omega
    | succ depth =>
      exact typecheckEquals_succ_iff.mpr ⟨agree, fun d e place => common depth (by omega) (d, e) place⟩

/-- The check accepts what is alike as long as no leaf of the right type would have to
stand for a container of the left one. -/
theorem returns_true_iff : Returns (fun depth => h.typecheckEquals depth a b) true ↔
    h.Alike a b ∧ ¬ h.LeafForContainer b a := by
  constructor
  · rintro ⟨bound, accepted⟩
    exact alike_of_typecheckEquals (accepted bound (Nat.le_refl bound))
  · rintro ⟨alike, noLeaf⟩
    exact typecheckEquals_of_alike alike noLeaf

end Heap

/-- Two data types made by calls, without cycles and custom types, are checked alike in
both directions exactly if, where they agree at all, both or none of them have a leaf
that stands for a container of the other. -/
theorem typecheck_symmetric_iff (fuel : Nat) (calls : List Call) (s : State)
    (ran : run (step fuel) {} calls = some s) (a b : Nat) (validA : s.heap.valid a)
    (validB : s.heap.valid b) (acyclicA : s.heap.ReachesNoCycle a) (acyclicB : s.heap.ReachesNoCycle b)
    (knownA : s.heap.ReachesNoCustom a) (knownB : s.heap.ReachesNoCustom b) :
    ∃ ab ba, Returns (fun depth => s.heap.typecheckEquals depth a b) ab ∧
      Returns (fun depth => s.heap.typecheckEquals depth b a) ba ∧
      (ab = ba ↔ (s.heap.Alike a b →
        (s.heap.LeafForContainer a b ↔ s.heap.LeafForContainer b a))) := by
  have closed := (run_changes (s := {}) Heap.empty_closed ran).closed Heap.empty_closed
  obtain ⟨ab, forth⟩ := Heap.typecheckEquals_returns closed validA validB knownA (.inl acyclicA)
  obtain ⟨ba, back⟩ := Heap.typecheckEquals_returns closed validB validA knownB (.inl acyclicB)
  refine ⟨ab, ba, forth, back, ?_⟩
  have accepts : ab = true ↔ s.heap.Alike a b ∧ ¬ s.heap.LeafForContainer b a := by
    rw [← Heap.returns_true_iff]
    exact ⟨fun is => is ▸ forth, fun returns => forth.unique returns⟩
  have acceptsBack : ba = true ↔ s.heap.Alike a b ∧ ¬ s.heap.LeafForContainer a b := by
    have symm : s.heap.Alike a b ↔ s.heap.Alike b a := ⟨Heap.Alike.symm, Heap.Alike.symm⟩
    rw [symm, ← Heap.returns_true_iff]
    exact ⟨fun is => is ▸ back, fun returns => back.unique returns⟩
  rw [Bool.eq_iff_iff, accepts, acceptsBack]
  by_cases alike : s.heap.Alike a b
  · simp only [alike, true_and, forall_const]
    rw [not_iff_not]
    exact iff_comm
  · simp only [alike, false_and, false_implies]

/- The two names of the CQL type `text`. -/
theorem typecheck_symmetric_iff_text :
    let calls : List Call := [.dataTypeNewTuple, .addSubValueType 0 .text, .dataTypeNewTuple,
      .addSubValueType 2 .varchar]
    ∃ s, run (step 0) {} calls = some s ∧
      ∃ ab ba, Returns (fun depth => s.heap.typecheckEquals depth 0 2) ab ∧
        Returns (fun depth => s.heap.typecheckEquals depth 2 0) ba ∧
        (ab = ba ↔ (s.heap.Alike 0 2 →
          (s.heap.LeafForContainer 0 2 ↔ s.heap.LeafForContainer 2 0))) := by
  intro calls
  let heap : Heap := ⟨[.tuple [1], .value .text, .tuple [3], .value .varchar]⟩
  have acyclic : ∀ d, heap.ReachesNoCycle d := Heap.reachesNoCycle_of_forward (by decide)
  have known : ∀ d < 4, heap.ReachesNoCustom d :=
    fun d valid => Heap.reachesNoCustom_of_kinds (by decide) (by decide) valid
  exact ⟨⟨heap, []⟩, rfl, typecheck_symmetric_iff 0 calls ⟨heap, []⟩ rfl 0 2 (by decide : 0 < 4)
    (by decide : 2 < 4) (acyclic 0) (acyclic 2) (known 0 (by decide)) (known 2 (by decide))⟩

/-- A tuple with a leaf that names a list, and a tuple with a list. -/
theorem typecheck_not_symmetric :
    ∃ s, run (step 0) {} [.dataTypeNewTuple, .addSubValueType 0 .list, .dataTypeNewTuple,
        .dataTypeNew .list, .addSubType 2 3] = some s ∧
      s.heap.inner 0 = .tuple [1] ∧ s.heap.inner 1 = .value .list ∧
      s.heap.inner 2 = .tuple [3] ∧ s.heap.inner 3 = .list none false ∧
      s.heap.typecheckEquals 2 0 2 = some true ∧ s.heap.typecheckEquals 2 2 0 = some false :=
  ⟨_, rfl, rfl, rfl, rfl, rfl, rfl, rfl⟩

end CppRsDriver.Types
