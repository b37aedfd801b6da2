import CppRsDriver.Lib.Runs
import Mathlib.Algebra.BigOperators.Group.Finset.Basic
import Mathlib.Algebra.Module.NatInt
import Mathlib.Algebra.Order.BigOperators.Group.Finset

/-! A potential that every step of a run lowers, up to what the step is allowed to give
back, bounds the length of the run. -/
namespace CppRsDriver.Lib

variable {S A : Type}

theorem run_potential {step : S → A → Option S} {inv : S → Prop} {potential : S → Nat}
    {refund : A → Nat} (keeps : ∀ s a t, inv s → step s a = some t → inv t)
    (lowers : ∀ s a t, inv s → step s a = some t → potential t + 1 ≤ potential s + refund a)
    {s t : S} (initial : inv s) {as : List A} (ran : run step s as = some t) :
    as.length + potential t ≤ potential s + (as.map refund).sum := by
  induction as generalizing s with
  | nil =>
    cases Option.some.inj ran
    simp
  | cons a rest ih =>
    obtain ⟨next, hn, ht⟩ := run_cons_some.mp ran
    have first := lowers s a next initial hn
    have later := ih (keeps s a next initial hn) ht
    simp only [List.length_cons, List.map_cons, List.sum_cons]
    omega

/-- Steps of a kind that lowers the potential can be taken until none is left. -/
theorem run_to_rest {step : S → A → Option S} {inv : S → Prop} {potential : S → Nat}
    (kind : A → Prop) (keeps : ∀ s a t, inv s → step s a = some t → inv t)
    (lowers : ∀ s a t, inv s → kind a → step s a = some t → potential t < potential s)
    (s : S) (initial : inv s) :
    ∃ as t, (∀ a ∈ as, kind a) ∧ run step s as = some t ∧ ∀ a, kind a → step t a = none := by
  induction bound : potential s using Nat.strong_induction_on generalizing s with
  | _ n ih =>
    by_cases rest : ∀ a, kind a → step s a = none
    · exact ⟨[], s, by simp, rfl, rest⟩
    · push Not at rest
      obtain ⟨a, is, enabled⟩ := rest
      obtain ⟨next, stepped⟩ := Option.ne_none_iff_exists'.mp enabled
      have lower := lowers s a next initial is stepped
      obtain ⟨as, t, kinds, ran, final⟩ :=
        ih (potential next) (bound ▸ lower) next (keeps s a next initial stepped) rfl
      refine ⟨a :: as, t, ?_, run_cons_some.mpr ⟨next, stepped, ran⟩, final⟩
      exact List.forall_mem_cons.mpr ⟨is, kinds⟩

theorem sum_map_set {α : Type} {xs : List α} {x y : α} {i : Nat} (f : α → Nat)
    (found : xs[i]? = some x) :
    ((xs.set i y).map f).sum + f x = (xs.map f).sum + f y := by
  induction xs generalizing i with
  | nil => simp at found
  | cons z xs ih =>
    cases i with
    | zero =>
      cases Option.some.inj found
      simp
      omega
    | succ i =>
      have rest := ih (i := i) found
      simp only [List.set_cons_succ, List.map_cons, List.sum_cons]
      omega

section Agents
variable {T : Type} [Fintype T] [DecidableEq T]

/-- The agents' shares add up to a potential; only one of them can gain, or has to pay. -/
theorem sum_share_le {share share' : T → Nat} (t : T) {paid gained : Nat}
    (own : share' t + paid ≤ share t + gained) (others : ∀ u, u ≠ t → share' u ≤ share u) :
    ∑ u, share' u + paid ≤ ∑ u, share u + gained := by
  have rest : ∑ u ∈ Finset.univ.erase t, share' u ≤ ∑ u ∈ Finset.univ.erase t, share u :=
    Finset.sum_le_sum (fun u mem => others u (Finset.ne_of_mem_erase mem))
  rw [← Finset.add_sum_erase _ share' (Finset.mem_univ t),
    ← Finset.add_sum_erase _ share (Finset.mem_univ t)]
  omega

omit [DecidableEq T] in
theorem sum_share_le_card {share share' : T → Nat} {gained : Nat}
    (each : ∀ u, share' u ≤ share u + gained) :
    ∑ u, share' u ≤ ∑ u, share u + gained * Fintype.card T := by
  have bound := Finset.sum_le_sum (fun u (_ : u ∈ Finset.univ) => each u)
  rw [Finset.sum_add_distrib, Finset.sum_const, Finset.card_univ, smul_eq_mul] at bound
  rw [Nat.mul_comm]
  exact bound

end Agents

end CppRsDriver.Lib
