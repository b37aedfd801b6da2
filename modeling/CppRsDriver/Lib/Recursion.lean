import Mathlib.Data.Fintype.Order
import Mathlib.Data.Set.Finite.Basic
import Mathlib.Logic.Relation
import Mathlib.Tactic.Choose

/-! Functions that recurse over a graph, with a bound on the depth in place of a proof
that they return. They return at every node from which no cycle is reached. -/
namespace CppRsDriver.Lib

open Relation

variable {N R : Type}

/-- From some depth on the function gives this result. -/
def Returns (f : Nat → Option R) (result : R) : Prop :=
  ∃ bound, ∀ depth, bound ≤ depth → f depth = some result

theorem Returns.unique {f : Nat → Option R} {x y : R} (first : Returns f x) (second : Returns f y) :
    x = y := by
  obtain ⟨bound, is⟩ := first
  obtain ⟨other, is'⟩ := second
  have same := (is (max bound other) (Nat.le_max_left _ _)).symm.trans
    (is' (max bound other) (Nat.le_max_right _ _))
  exact Option.some.inj same

theorem returns_of_forall {f : Nat → Option R} {x : R} (always : ∀ depth, f depth = some x) :
    Returns f x := ⟨0, fun depth _ => always depth⟩

theorem Returns.bind {Q : Type} {f : Nat → Option R} {g : Nat → R → Option Q} {x : R} {y : Q}
    (first : Returns f x) (next : Returns (fun depth => g depth x) y) :
    Returns (fun depth => (f depth).bind (g depth)) y := by
  obtain ⟨bound, is⟩ := first
  obtain ⟨other, is'⟩ := next
  refine ⟨max bound other, fun depth enough => ?_⟩
  have here := is depth (by omega)
  have there := is' depth (by omega)
  simp only [here, Option.bind_some, there]

theorem Returns.map {Q : Type} {f : Nat → Option R} {x : R} (returns : Returns f x) (g : R → Q) :
    Returns (fun depth => (f depth).map g) (g x) := by
  obtain ⟨bound, is⟩ := returns
  exact ⟨bound, fun depth enough => by simp only [is depth enough, Option.map_some]⟩

/-- Finitely many functions that all return do so from a common depth on. -/
theorem exists_common_bound {f : Nat → N → Option R} {result : N → R} {nodes : List N}
    (each : ∀ e ∈ nodes, Returns (fun depth => f depth e) (result e)) :
    ∃ bound, ∀ depth, bound ≤ depth → ∀ e ∈ nodes, f depth e = some (result e) := by
  induction nodes with
  | nil => exact ⟨0, fun _ _ e member => absurd member List.not_mem_nil⟩
  | cons e nodes ih =>
    rw [List.forall_mem_cons] at each
    obtain ⟨bound, here⟩ := each.1
    obtain ⟨others, there⟩ := ih each.2
    refine ⟨max bound others, fun depth enough => ?_⟩
    rw [List.forall_mem_cons]
    constructor
    · exact here depth (by omega)
    · exact there depth (by omega)

section Recursion
variable [Nonempty R] {f : Nat → N → Option R} (body : (N → Option R) → N → Option R)
  (edges : N → List N) (part : N → Prop)

/-- A function that returns wherever its recursive calls do returns at every node of a
closed part that is well-founded. -/
theorem returns_of_acc (unfold' : ∀ depth d, f (depth + 1) d = body (f depth) d)
    (closed : ∀ d, part d → ∀ e ∈ edges d, part e)
    (total : ∀ d, part d → ∀ result : N → R, ∃ x, ∀ sub : N → Option R,
      (∀ e ∈ edges d, sub e = some (result e)) → body sub d = some x)
    {d : N} (acc : Acc (fun e d => e ∈ edges d) d) (inPart : part d) :
    ∃ x, Returns (fun depth => f depth d) x := by
  induction acc with
  | intro d _ ih =>
    have below : ∀ e ∈ edges d, ∃ x, Returns (fun depth => f depth e) x :=
      fun e member => ih e member (closed d inPart e member)
    choose! result returns using below
    obtain ⟨bound, common⟩ := exists_common_bound returns
    obtain ⟨x, is⟩ := total d inPart result
    refine ⟨x, bound + 1, fun depth enough => ?_⟩
    cases depth with
    | zero => omega
    | succ depth =>
      show f (depth + 1) d = some x
      rw [unfold', is (f depth) (common depth (by omega))]

end Recursion

theorem no_cycle_of_rank {edge : N → N → Prop} (rank : N → Nat)
    (drops : ∀ d e, edge d e → rank e < rank d) (d : N) : ¬ TransGen edge d d := by
  have below : ∀ e, TransGen edge d e → rank e < rank d := by
    intro e path
    induction path with
    | single first => exact drops _ _ first
    | tail _ last ih => exact (drops _ _ last).trans ih
  intro cycle
  exact Nat.lt_irrefl _ (below d cycle)

theorem acc_of_acyclic {edge : N → N → Prop} {d : N} (finite : {e | ReflTransGen edge d e}.Finite)
    (acyclic : ∀ e, ReflTransGen edge d e → ¬ TransGen edge e e) :
    Acc (fun e d => edge d e) d := by
  let Node := {e // ReflTransGen edge d e}
  let before : Node → Node → Prop := fun x y => TransGen edge y.1 x.1
  have finiteNodes : Finite Node := finite
  have trans : IsTrans Node before := ⟨fun x y z xy yz => yz.trans xy⟩
  have irrefl : Std.Irrefl before := ⟨fun x cycle => acyclic x.1 x.2 cycle⟩
  have founded : WellFounded before := Finite.wellFounded_of_trans_of_irrefl before
  have each : ∀ x : Node, Acc (fun e d => edge d e) x.1 := by
    intro x
    induction x using founded.induction with
    | h x ih =>
      constructor
      intro e child
      exact ih ⟨e, x.2.tail child⟩ (.single child)
  exact each ⟨d, .refl⟩

end CppRsDriver.Lib
