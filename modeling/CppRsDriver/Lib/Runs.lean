import Mathlib.Data.List.Induction
import Mathlib.Logic.Function.Basic

/-! Runs of a labelled transition system. A step that is not enabled gives no
state, so a run is any sequence of enabled steps; nothing bounds its length. -/
namespace CppRsDriver.Lib

variable {S A : Type}

def run (step : S → A → Option S) (s : S) : List A → Option S
  | [] => some s
  | a :: rest => (step s a).bind (fun next => run step next rest)

theorem run_cons_some {step : S → A → Option S} {s t : S} {a : A} {rest : List A} :
    run step s (a :: rest) = some t ↔ ∃ next, step s a = some next ∧ run step next rest = some t := by
  simp only [run, Option.bind_eq_some_iff]

theorem run_append (step : S → A → Option S) (s : S) (as bs : List A) :
    run step s (as ++ bs) = (run step s as).bind (fun t => run step t bs) := by
  induction as generalizing s with
  | nil => rfl
  | cons a rest ih =>
    simp only [List.cons_append, run, ih, Option.bind_assoc]

/-- What holds at the start and is kept by every step holds at the end of every run. -/
theorem run_invariant {step : S → A → Option S} {inv : S → Prop}
    (keeps : ∀ s a t, inv s → step s a = some t → inv t)
    {s t : S} (initial : inv s) {as : List A} (ran : run step s as = some t) : inv t := by
  induction as generalizing s with
  | nil => exact Option.some.inj ran ▸ initial
  | cons a rest ih =>
    obtain ⟨next, hn, ht⟩ := run_cons_some.mp ran
    exact ih (keeps s a next initial hn) ht

/-- Some step of a run was of a kind. -/
def Happened (step : S → A → Option S) (start : S) (done : List A) (kind : S → A → S → Prop) :
    Prop :=
  ∃ before a after s t, done = before ++ a :: after ∧ run step start before = some s ∧
    step s a = some t ∧ kind s a t

theorem Happened.now {step : S → A → Option S} {start s t : S} {done : List A} {a : A}
    {kind : S → A → S → Prop} (ran : run step start done = some s) (stepped : step s a = some t)
    (is : kind s a t) : Happened step start (done ++ [a]) kind :=
  ⟨done, a, [], s, t, rfl, ran, stepped, is⟩

theorem Happened.later {step : S → A → Option S} {start : S} {done : List A}
    {kind : S → A → S → Prop} (happened : Happened step start done kind) (a : A) :
    Happened step start (done ++ [a]) kind := by
  obtain ⟨before, b, after, s, t, rfl, rest⟩ := happened
  exact ⟨before, b, after ++ [a], s, t, by rw [List.append_assoc, List.cons_append], rest⟩

/-- An invariant of a state and the steps that led to it. -/
theorem run_history {step : S → A → Option S} {start : S} (inv : List A → S → Prop)
    (initial : inv [] start)
    (keeps : ∀ done s a t, run step start done = some s → inv done s → step s a = some t →
      inv (done ++ [a]) t)
    {as : List A} {t : S} (ran : run step start as = some t) : inv as t := by
  induction as using List.reverseRecOn generalizing t with
  | nil => exact Option.some.inj ran ▸ initial
  | append_singleton done a ih =>
    rw [run_append] at ran
    obtain ⟨s, before, last⟩ := Option.bind_eq_some_iff.mp ran
    obtain ⟨next, stepped, is⟩ := run_cons_some.mp last
    cases Option.some.inj is
    exact keeps done s a _ before (ih before) stepped

/-- Every step of a run is taken in a state that allows it. -/
def Guarded (guard : S → A → Prop) (step : S → A → Option S) : S → List A → Prop
  | _, [] => True
  | s, a :: rest => guard s a ∧ ∀ next, step s a = some next → Guarded guard step next rest

instance decidableGuarded {guard : S → A → Prop} {step : S → A → Option S}
    [∀ s a, Decidable (guard s a)] : (s : S) → (as : List A) → Decidable (Guarded guard step s as)
  | _, [] => isTrue trivial
  | s, a :: rest =>
    have (next : S) : Decidable (Guarded guard step next rest) := decidableGuarded next rest
    inferInstanceAs (Decidable (guard s a ∧ ∀ next ∈ step s a, Guarded guard step next rest))

theorem guarded_of_invariant {step : S → A → Option S} {guard : S → A → Prop} {inv : S → Prop}
    (keeps : ∀ s a t, inv s → step s a = some t → inv t) (allows : ∀ s a, inv s → guard s a)
    {s : S} (initial : inv s) (as : List A) : Guarded guard step s as := by
  induction as generalizing s with
  | nil => trivial
  | cons a rest ih => exact ⟨allows s a initial, fun next hn => ih (keeps s a next initial hn)⟩

theorem run_invariant_guarded {step : S → A → Option S} {guard : S → A → Prop} {inv : S → Prop}
    (keeps : ∀ s a t, inv s → guard s a → step s a = some t → inv t)
    {s t : S} (initial : inv s) {as : List A} (guarded : Guarded guard step s as)
    (ran : run step s as = some t) : inv t := by
  induction as generalizing s with
  | nil => exact Option.some.inj ran ▸ initial
  | cons a rest ih =>
    obtain ⟨next, hn, ht⟩ := run_cons_some.mp ran
    exact ih (keeps s a next initial guarded.1 hn) (guarded.2 next hn) ht

/-- Where every allowed step can be taken and keeps the invariant, a run made of allowed
steps goes through to its end. -/
theorem run_total_guarded {step : S → A → Option S} {guard : S → A → Prop} {inv : S → Prop}
    (total : ∀ s a, inv s → guard s a → ∃ t, step s a = some t ∧ inv t)
    {s : S} (initial : inv s) {as : List A} (guarded : Guarded guard step s as) :
    ∃ t, run step s as = some t ∧ inv t := by
  induction as generalizing s with
  | nil => exact ⟨s, rfl, initial⟩
  | cons a rest ih =>
    obtain ⟨next, hn, kept⟩ := total s a initial guarded.1
    obtain ⟨t, ht, final⟩ := ih kept (guarded.2 next hn)
    exact ⟨t, run_cons_some.mpr ⟨next, hn, ht⟩, final⟩

/-- Steps matched through a view by the steps of a second system keep that
system's invariants; the matching may rest on an invariant of the first one. -/
theorem run_refines {V : Type} {step : S → A → Option S} {inv : S → Prop} {view : S → V}
    {Next : V → V → Prop} {valid : V → Prop}
    (keeps : ∀ s a t, inv s → step s a = some t → inv t)
    (matched : ∀ s a t, inv s → step s a = some t → Next (view s) (view t))
    (preserves : ∀ v w, valid v → Next v w → valid w)
    {s t : S} (initial : inv s) (start : valid (view s)) {as : List A}
    (ran : run step s as = some t) : inv t ∧ valid (view t) := by
  have both : ∀ s a t, inv s ∧ valid (view s) → step s a = some t → inv t ∧ valid (view t) :=
    fun s a t h stepped =>
      ⟨keeps s a t h.1 stepped, preserves _ _ h.2 (matched s a t h.1 stepped)⟩
  exact run_invariant both ⟨initial, start⟩ ran

end CppRsDriver.Lib
