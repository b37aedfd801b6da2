import Mathlib.Data.List.Induction

/-! A state read through registers, where every action is about one register. What a register
holds after a run of actions depends on the actions about it and on no others. -/
namespace CppRsDriver.Lib

variable {S A K : Type} {V : K → Type}

/-- An action leaves all other registers alone, and what it makes of its own one does not depend
on them. -/
structure Confined (read : S → (k : K) → V k) (apply : S → A → S) (concerns : A → K) : Prop where
  frame : ∀ s a k, k ≠ concerns a → read (apply s a) k = read s k
  own : ∀ s t a, read s (concerns a) = read t (concerns a) →
    read (apply s a) (concerns a) = read (apply t a) (concerns a)

namespace Confined
variable {read : S → (k : K) → V k} {apply : S → A → S} {concerns : A → K}

theorem read_congr (confined : Confined read apply concerns) {s t : S} {k : K} (a : A)
    (same : read s k = read t k) : read (apply s a) k = read (apply t a) k := by
  by_cases here : k = concerns a
  · subst here
    exact confined.own s t a same
  · rw [confined.frame s a k here, confined.frame t a k here, same]

/-- What holds of every register is kept if every action keeps it of its own one. -/
theorem invariant (confined : Confined read apply concerns) {inv : (k : K) → V k → Prop}
    (keeps : ∀ s a, inv (concerns a) (read s (concerns a)) →
      inv (concerns a) (read (apply s a) (concerns a)))
    {s : S} (initial : ∀ k, inv k (read s k)) (as : List A) (k : K) :
    inv k (read (as.foldl apply s) k) := by
  induction as generalizing s with
  | nil => exact initial k
  | cons a as ih =>
    refine ih (fun other => ?_)
    by_cases here : other = concerns a
    · subst here
      exact keeps s a (initial _)
    · rw [confined.frame s a other here]
      exact initial other

variable [DecidableEq K]

theorem read_foldl (confined : Confined read apply concerns) {s t : S} {k : K} (as : List A)
    (same : read s k = read t k) :
    read (as.foldl apply s) k = read ((as.filter (fun a => concerns a = k)).foldl apply t) k := by
  induction as generalizing s t with
  | nil => exact same
  | cons a as ih =>
    by_cases here : concerns a = k
    · simp only [List.foldl_cons, here, decide_true, List.filter_cons_of_pos]
      exact ih (confined.read_congr a same)
    · simp only [List.foldl_cons, here, decide_false, Bool.false_eq_true, not_false_eq_true,
        List.filter_cons_of_neg]
      exact ih ((confined.frame s a k (Ne.symm here)).trans same)

/-- The order of actions about different registers does not matter. -/
theorem foldl_eq (confined : Confined read apply concerns)
    (determined : ∀ s t, (∀ k, read s k = read t k) → s = t) (s : S) {as bs : List A}
    (alike : ∀ k, as.filter (fun a => concerns a = k) = bs.filter (fun b => concerns b = k)) :
    as.foldl apply s = bs.foldl apply s := by
  apply determined
  intro k
  rw [confined.read_foldl as rfl, alike k]
  exact (confined.read_foldl bs rfl).symm

end Confined

/-- A register that actions overwrite or leave alone holds what was written last. -/
theorem foldl_last {W : Type} (get : S → W) {apply : S → A → S} {wrote : A → Option W}
    (writes : ∀ s a, get (apply s a) = (wrote a).getD (get s)) (s : S) (as : List A) :
    get (as.foldl apply s) = (as.filterMap wrote).getLast?.getD (get s) := by
  induction as using List.reverseRecOn with
  | nil => rfl
  | append_singleton as a ih =>
    rw [List.foldl_append, List.filterMap_append]
    cases is : wrote a with
    | none => simp [writes, is, ih]
    | some w => simp [writes, is]

end CppRsDriver.Lib
