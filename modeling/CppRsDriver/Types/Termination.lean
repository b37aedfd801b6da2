import Mathlib.Data.Set.Finite.Lattice
import CppRsDriver.Lib.Recursion
import CppRsDriver.Types.Changes

/-! When the recursive checks of data types return. A data type may be made a subtype of
itself, directly or through others, and a custom type has no check. -/
namespace CppRsDriver.Types

open CppRsDriver.Lib Relation

namespace Heap

def usesVariableLengthEncodingInVector (sizes : NativeType → Option Nat) (h : Heap) :
    Nat → Nat → Option Bool
  | 0, _ => none
  | depth + 1, d =>
    (h.inner d).usesVariableLengthM sizes (usesVariableLengthEncodingInVector sizes h depth)

def ReachesNoCycle (h : Heap) (d : Nat) : Prop :=
  ∀ e, h.Reach d e → ¬ TransGen (fun d e => e ∈ (h.inner d).children) e e

def ReachesNoCustom (h : Heap) (d : Nat) : Prop :=
  ∀ e, h.Reach d e → ∀ className, h.inner e ≠ .custom className

/-- A vector refers to a data type that was there before it. -/
def VectorsBackward (h : Heap) : Prop :=
  ∀ d typ dimensions, h.inner d = .vector typ dimensions → typ < d

variable {h h' : Heap} {a b d : Nat}

theorem reach_finite (closed : h.Closed h.valid) (valid : h.valid d) :
    {e | h.Reach d e}.Finite := by
  apply (Set.finite_lt_nat h.cells.length).subset
  intro e reach
  exact closed.reach valid reach

theorem ReachesNoCycle.acc (acyclic : h.ReachesNoCycle d) (closed : h.Closed h.valid)
    (valid : h.valid d) : Acc (fun e d => e ∈ (h.inner d).children) d :=
  acc_of_acyclic (reach_finite closed valid) acyclic

theorem ReachesNoCustom.child (known : h.ReachesNoCustom d) {e : Nat}
    (child : e ∈ (h.inner d).children) : h.ReachesNoCustom e :=
  fun e' reach => known e' (.head child reach)

/- Two conditions that can be evaluated: every reference leads to a later data type, and
no data type is custom. -/
theorem reachesNoCycle_of_forward
    (forward : ∀ d < h.cells.length, ∀ e ∈ (h.inner d).children, d < e ∧ e < h.cells.length)
    (d : Nat) : h.ReachesNoCycle d := by
  intro e _
  apply no_cycle_of_rank (fun d => h.cells.length - d)
  intro d e child
  by_cases valid : d < h.cells.length
  · have later := forward d valid e child
    omega
  · have default : h.inner d = .custom "" := by
      simp only [Heap.inner, List.getD_eq_getElem?_getD, List.getElem?_eq_none (Nat.not_lt.mp valid),
        Option.getD_none]
    rw [default] at child
    cases child

theorem reachesNoCustom_of_kinds
    (forward : ∀ d < h.cells.length, ∀ e ∈ (h.inner d).children, d < e ∧ e < h.cells.length)
    (kinds : ∀ d < h.cells.length, (h.inner d).getValueType ≠ .custom) (valid : h.valid d) :
    h.ReachesNoCustom d := by
  have closed : h.Closed h.valid := fun d valid e child => (forward d valid e child).2
  intro e reach className custom
  apply kinds e (closed.reach valid reach)
  rw [custom, CassDataTypeInner.getValueType]

section Returns

theorem isFullyTyped_returns (closed : h.Closed h.valid) (valid : h.valid d)
    (acyclic : h.ReachesNoCycle d) : ∃ full, Returns (fun depth => h.isFullyTyped depth d) full := by
  apply returns_of_acc (fun sub d => (h.inner d).isFullyTypedM sub) (fun d => (h.inner d).children)
    (fun _ => True)
  · exact fun _ _ => rfl
  · exact fun _ _ _ _ => trivial
  · exact fun d _ full => ⟨_, fun sub same => CassDataTypeInner.isFullyTypedM_eq sub full _ same⟩
  · exact acyclic.acc closed valid
  · trivial

/- The check goes down in both types at once, so it is enough that one of them ends. -/
theorem typecheckEquals_returns (closed : h.Closed h.valid) (validA : h.valid a) (validB : h.valid b)
    (known : h.ReachesNoCustom a) (acyclic : h.ReachesNoCycle a ∨ h.ReachesNoCycle b) :
    ∃ equal, Returns (fun depth => h.typecheckEquals depth a b) equal := by
  let pairs : Nat × Nat → List (Nat × Nat) := fun pair =>
    (h.inner pair.1).children.product (h.inner pair.2).children
  have acc : Acc (fun e d => e ∈ pairs d) (a, b) := by
    rcases acyclic with first | second
    · have below := InvImage.accessible (f := Prod.fst) (a := (a, b)) (first.acc closed validA)
      exact Subrelation.accessible (fun member => (List.pair_mem_product.mp member).1) below
    · have below := InvImage.accessible (f := Prod.snd) (a := (a, b)) (second.acc closed validB)
      exact Subrelation.accessible (fun member => (List.pair_mem_product.mp member).2) below
  apply returns_of_acc (N := Nat × Nat) (f := fun depth pair => h.typecheckEquals depth pair.1 pair.2)
    (fun sub pair => (h.inner pair.1).typecheckWith (fun d e => sub (d, e)) (h.inner pair.2)) pairs
    (fun pair => h.ReachesNoCustom pair.1)
    _ _ _ acc known
  · exact fun _ _ => rfl
  · exact fun pair known e member => known.child (List.pair_mem_product.mp member).1
  · intro pair known equal
    obtain ⟨x, is⟩ := CassDataTypeInner.typecheckWith_returns (fun d e => some (equal (d, e)))
      (h.inner pair.2) (known pair.1 .refl) (fun _ _ _ _ => ⟨_, rfl⟩)
    refine ⟨x, fun sub same => ?_⟩
    rw [← is]
    apply CassDataTypeInner.typecheckWith_congr
    exact fun d memberD e memberE => same (d, e) (List.pair_mem_product.mpr ⟨memberD, memberE⟩)

/-- The element type of a vector is older, so this check never goes round in circles. -/
theorem usesVariableLength_returns (sizes : NativeType → Option Nat) (backward : h.VectorsBackward)
    (d : Nat) :
    ∃ result, ∀ depth, d < depth → h.usesVariableLengthEncodingInVector sizes depth d = some result := by
  induction d using Nat.strong_induction_on with
  | h d ih =>
    have below : ∀ e, ∃ result, e < d → ∀ depth, e < depth →
        h.usesVariableLengthEncodingInVector sizes depth e = some result := by
      intro e
      by_cases less : e < d
      · obtain ⟨result, is⟩ := ih e less
        exact ⟨result, fun _ => is⟩
      · exact ⟨false, fun contrary => absurd contrary less⟩
    choose result returns using below
    refine ⟨(h.inner d).usesVariableLengthWith sizes result, fun depth deeper => ?_⟩
    cases depth with
    | zero => omega
    | succ depth =>
      apply CassDataTypeInner.usesVariableLengthM_eq
      intro typ dimensions is
      have less := backward d typ dimensions is
      exact returns typ less depth (by omega)

end Returns

section Vectors

theorem Change.vectorsBackward (change : h.Change h') (backward : h.VectorsBackward) :
    h'.VectorsBackward := by
  intro d typ dimensions is
  cases change with
  | alloc inner children =>
    rcases alloc_valid.mp (valid_of_vector is) with old | rfl
    · rw [inner_alloc old] at is
      exact backward d typ dimensions is
    · rw [inner_alloc_self] at is
      subst is
      exact children typ (List.mem_singleton_self typ)
  | update e after sub valid grows subValid =>
    by_cases same : d = e
    · subst same
      rw [inner_update_self valid] at is
      generalize h.inner d = inner at grows
      subst is
      -- no modification makes a vector
      cases grows
    · rw [inner_update_ne same] at is
      exact backward d typ dimensions is

theorem Changes.vectorsBackward (changes : Changes h h') (backward : h.VectorsBackward) :
    h'.VectorsBackward := by
  induction changes with
  | refl => exact backward
  | tail _ change ih => exact change.vectorsBackward ih

theorem empty_vectorsBackward : VectorsBackward {} := by
  intro d typ dimensions is
  cases is

end Vectors

end Heap

/-- On every heap that calls can make, the check for the encoding in a vector returns; the
other two return where no cycle is met, and the type check if the left type does not
contain a custom type. -/
theorem recursive_checks_return (sizes : NativeType → Option Nat) (fuel : Nat) (calls : List Call)
    (s : State) (ran : run (step fuel) {} calls = some s) :
    (∀ d, s.heap.valid d →
      ∃ result, Returns (fun depth => s.heap.usesVariableLengthEncodingInVector sizes depth d) result) ∧
    (∀ d, s.heap.valid d → s.heap.ReachesNoCycle d →
      ∃ full, Returns (fun depth => s.heap.isFullyTyped depth d) full) ∧
    ∀ a b, s.heap.valid a → s.heap.valid b → s.heap.ReachesNoCustom a →
      s.heap.ReachesNoCycle a ∨ s.heap.ReachesNoCycle b →
      ∃ equal, Returns (fun depth => s.heap.typecheckEquals depth a b) equal := by
  have changes := run_changes (s := {}) Heap.empty_closed ran
  have closed := changes.closed Heap.empty_closed
  refine ⟨?_, ?_, ?_⟩
  · intro d _
    have backward := changes.vectorsBackward Heap.empty_vectorsBackward
    obtain ⟨result, is⟩ := Heap.usesVariableLength_returns sizes backward d
    exact ⟨result, d + 1, is⟩
  · exact fun d valid acyclic => Heap.isFullyTyped_returns closed valid acyclic
  · exact fun a b validA validB known acyclic =>
      Heap.typecheckEquals_returns closed validA validB known acyclic

/- A tuple of one integer, checked against itself. -/
theorem recursive_checks_return_tuple :
    ∃ s, run (step 0) {} [.dataTypeNew .tuple, .addSubValueType 0 .int] = some s ∧
      (∃ full, Returns (fun depth => s.heap.isFullyTyped depth 0) full) ∧
      ∃ equal, Returns (fun depth => s.heap.typecheckEquals depth 0 0) equal := by
  refine ⟨⟨⟨[.tuple [1], .value .int]⟩, []⟩, rfl, ?_⟩
  have acyclic : Heap.ReachesNoCycle ⟨[.tuple [1], .value .int]⟩ 0 :=
    Heap.reachesNoCycle_of_forward (by decide) 0
  have known : Heap.ReachesNoCustom ⟨[.tuple [1], .value .int]⟩ 0 :=
    Heap.reachesNoCustom_of_kinds (by decide) (by decide) (by decide : 0 < 2)
  have checks := recursive_checks_return (fun _ => none) 0
    [.dataTypeNew .tuple, .addSubValueType 0 .int] ⟨⟨[.tuple [1], .value .int]⟩, []⟩ rfl
  exact ⟨checks.2.1 0 (by decide : 0 < 2) acyclic,
    checks.2.2 0 0 (by decide : 0 < 2) (by decide : 0 < 2) known (.inl acyclic)⟩

/-- A list type made its own element type: neither check returns at any depth. A custom
type is not compared at all. -/
theorem cyclic_list_never_returns :
    (∃ s, run (step 0) {} [.dataTypeNew .list, .addSubType 0 0] = some s ∧
      (∀ depth, s.heap.isFullyTyped depth 0 = none) ∧
      ∀ depth, s.heap.typecheckEquals depth 0 0 = none) ∧
    ∃ s, run (step 0) {} [.dataTypeNew .custom] = some s ∧
      ∀ depth, s.heap.typecheckEquals depth 0 0 = none := by
  refine ⟨⟨⟨⟨[.list (some 0) false]⟩, []⟩, rfl, ?_, ?_⟩, ⟨⟨⟨[.custom ""]⟩, []⟩, rfl, ?_⟩⟩
  · intro depth
    induction depth with
    | zero => rfl
    | succ depth ih => exact ih
  · intro depth
    induction depth with
    | zero => rfl
    | succ depth ih => exact ih
  · intro depth
    cases depth <;> rfl

end CppRsDriver.Types
