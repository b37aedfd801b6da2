import Mathlib.Logic.Function.Basic

/-! A cell that takes one registration and runs it once after it is resolved.
The registrant and the resolver race; whichever comes second runs it. -/
namespace CppRsDriver.Lib

variable {T : Type}

inductive Standing where
  | outside
  | rejected
  | obliged
  | settled
  deriving DecidableEq, Repr

/-- `order` lists the registrants as they came, `duty` is what the resolver has
still to run, and an obliged registrant runs its own. -/
structure OneShot (T : Type) where
  order : List T
  invoked : List T
  resolved : Bool
  duty : Option T
  standing : T → Standing

inductive OneShot.Next [DecidableEq T] : OneShot T → OneShot T → Prop where
  | stutter (c) : Next c c
  | reject (c t) (outside : c.standing t = .outside) (taken : c.order ≠ []) :
      Next c { c with
        order := c.order ++ [t], standing := Function.update c.standing t .rejected }
  | accept (c t) (outside : c.standing t = .outside) (free : c.order = []) :
      Next c { c with
        order := c.order ++ [t]
        standing := Function.update c.standing t (if c.resolved then .obliged else .settled) }
  | resolve (c) (unresolved : c.resolved = false) :
      Next c { c with resolved := true, duty := c.order.head? }
  | discharge (c t) (due : c.duty = some t) :
      Next c { c with invoked := t :: c.invoked, duty := none }
  | fulfil (c t) (obliged : c.standing t = .obliged) :
      Next c { c with
        invoked := t :: c.invoked, standing := Function.update c.standing t .settled }

/-- Who still has to run the first registration. -/
inductive OneShot.Owed (c : OneShot T) (t : T) : Prop where
  | later (unresolved : c.resolved = false) (duty : c.duty = none) (invoked : c.invoked = [])
      (standing : c.standing t = .settled)
  | byResolver (resolved : c.resolved = true) (duty : c.duty = some t) (invoked : c.invoked = [])
      (standing : c.standing t = .settled)
  | byRegistrant (resolved : c.resolved = true) (duty : c.duty = none) (invoked : c.invoked = [])
      (standing : c.standing t = .obliged)
  | done (resolved : c.resolved = true) (duty : c.duty = none) (invoked : c.invoked = [t])
      (standing : c.standing t = .settled)

structure OneShot.Valid (c : OneShot T) : Prop where
  untaken : c.order = [] → c.invoked = [] ∧ c.duty = none
  first : ∀ t, c.order.head? = some t → c.Owed t
  accepted : ∀ t, c.standing t = .obliged ∨ c.standing t = .settled → c.order.head? = some t
  rejected : ∀ t, c.standing t = .rejected → t ∈ c.order

namespace OneShot

theorem Owed.standing_accepted {c : OneShot T} {t : T} (owed : c.Owed t) :
    c.standing t = .obliged ∨ c.standing t = .settled := by
  cases owed with
  | byRegistrant _ _ _ standing => exact .inl standing
  | later _ _ _ standing => exact .inr standing
  | byResolver _ _ _ standing => exact .inr standing
  | done _ _ _ standing => exact .inr standing

theorem Valid.head_of_duty {c : OneShot T} (valid : c.Valid) {t : T} (due : c.duty = some t) :
    c.order.head? = some t := by
  cases order : c.order with
  | nil => rw [(valid.untaken order).2] at due; contradiction
  | cons u rest =>
    have owed := valid.first u (by rw [order]; rfl)
    cases owed with
    | byResolver _ duty _ _ => exact duty.symm.trans due
    | later _ duty _ _ => rw [duty] at due; contradiction
    | byRegistrant _ duty _ _ => rw [duty] at due; contradiction
    | done _ duty _ _ => rw [duty] at due; contradiction

theorem Valid.of_invoked {c : OneShot T} (valid : c.Valid) {t : T} (ran : t ∈ c.invoked) :
    c.order.head? = some t ∧ c.resolved = true := by
  cases order : c.order with
  | nil => rw [(valid.untaken order).1] at ran; contradiction
  | cons u rest =>
    have owed := valid.first u (by rw [order]; rfl)
    cases owed with
    | done resolved _ invoked _ =>
      rw [invoked, List.mem_singleton] at ran
      exact ⟨ran ▸ rfl, resolved⟩
    | later _ _ invoked _ => rw [invoked] at ran; contradiction
    | byResolver _ _ invoked _ => rw [invoked] at ran; contradiction
    | byRegistrant _ _ invoked _ => rw [invoked] at ran; contradiction

/-- A rejected registrant is not the first one, so its registration is never run. -/
theorem Valid.rejected_not_first {c : OneShot T} (valid : c.Valid) {t : T}
    (rejected : c.standing t = .rejected) : c.order.head? ≠ some t := by
  intro head
  rcases (valid.first t head).standing_accepted with standing | standing <;>
    rw [rejected] at standing <;> contradiction

theorem Owed.congr {c c' : OneShot T} {t : T} (owed : c.Owed t)
    (resolved : c'.resolved = c.resolved) (duty : c'.duty = c.duty)
    (invoked : c'.invoked = c.invoked) (standing : c'.standing t = c.standing t) : c'.Owed t := by
  cases owed with
  | later r d i s => exact .later (resolved.trans r) (duty.trans d) (invoked.trans i) (standing.trans s)
  | byResolver r d i s =>
    exact .byResolver (resolved.trans r) (duty.trans d) (invoked.trans i) (standing.trans s)
  | byRegistrant r d i s =>
    exact .byRegistrant (resolved.trans r) (duty.trans d) (invoked.trans i) (standing.trans s)
  | done r d i s => exact .done (resolved.trans r) (duty.trans d) (invoked.trans i) (standing.trans s)

theorem resolve_valid {c : OneShot T} (valid : c.Valid) (unresolved : c.resolved = false) :
    Valid { c with resolved := true, duty := c.order.head? } := by
  refine ⟨fun empty => ⟨(valid.untaken empty).1, by rw [empty]; rfl⟩, ?_,
    valid.accepted, valid.rejected⟩
  intro u first
  cases valid.first u first with
  | later _ _ invoked standing => exact .byResolver rfl first invoked standing
  | byResolver resolved _ _ _ => rw [unresolved] at resolved; contradiction
  | byRegistrant resolved _ _ _ => rw [unresolved] at resolved; contradiction
  | done resolved _ _ _ => rw [unresolved] at resolved; contradiction

theorem discharge_valid {c : OneShot T} (valid : c.Valid) {t : T} (due : c.duty = some t) :
    Valid { c with invoked := t :: c.invoked, duty := none } := by
  have head := valid.head_of_duty due
  refine ⟨fun empty => ?_, ?_, valid.accepted, valid.rejected⟩
  · rw [show c.order = [] from empty] at head; contradiction
  · intro u first
    cases Option.some.inj (head.symm.trans first)
    cases valid.first t head with
    | byResolver resolved _ invoked standing =>
      exact .done resolved rfl (by rw [invoked]) standing
    | later _ duty _ _ => rw [duty] at due; contradiction
    | byRegistrant _ duty _ _ => rw [duty] at due; contradiction
    | done _ duty _ _ => rw [duty] at due; contradiction

section Steps
variable [DecidableEq T]

theorem reject_valid {c : OneShot T} (valid : c.Valid) {t : T}
    (outside : c.standing t = .outside) (taken : c.order ≠ []) :
    Valid { c with
      order := c.order ++ [t], standing := Function.update c.standing t .rejected } := by
  have head : (c.order ++ [t]).head? = c.order.head? := by
    rw [List.head?_append, Option.or_of_isSome (List.isSome_head?.mpr taken)]
  refine ⟨fun empty => ?_, ?_, ?_, ?_⟩
  · simp at empty
  · intro u first
    have owed := valid.first u (head.symm.trans first)
    -- the first registrant is accepted, so it is not the one turned away here
    have ne : u ≠ t := by
      rintro rfl
      rcases owed.standing_accepted with h | h <;> rw [outside] at h <;> contradiction
    have same : Function.update c.standing t .rejected u = c.standing u :=
      Function.update_of_ne ne _ _
    exact owed.congr rfl rfl rfl same
  · intro u accepted
    by_cases eq : u = t
    · subst eq; simp at accepted
    · simp only [Function.update_of_ne eq] at accepted
      exact head.trans (valid.accepted u accepted)
  · intro u rejected
    by_cases eq : u = t
    · subst eq; simp
    · simp only [Function.update_of_ne eq] at rejected
      exact List.mem_append_left _ (valid.rejected u rejected)

theorem accept_valid {c : OneShot T} (valid : c.Valid) {t : T} (free : c.order = []) :
    Valid { c with
      order := c.order ++ [t]
      standing := Function.update c.standing t (if c.resolved then .obliged else .settled) } := by
  obtain ⟨invoked, duty⟩ := valid.untaken free
  refine ⟨fun empty => ?_, ?_, ?_, ?_⟩
  · simp at empty
  · intro u first
    have eq : u = t := by simpa [free, eq_comm] using first
    subst eq
    cases resolved : c.resolved with
    | false => exact .later rfl duty invoked (by simp)
    | true => exact .byRegistrant rfl duty invoked (by simp)
  · intro u accepted
    by_cases eq : u = t
    · simp [free, eq]
    · simp only [Function.update_of_ne eq] at accepted
      have head := valid.accepted u accepted
      rw [free] at head
      contradiction
  · intro u rejected
    by_cases eq : u = t
    · subst eq; simp
    · simp only [Function.update_of_ne eq] at rejected
      exact List.mem_append_left _ (valid.rejected u rejected)

theorem fulfil_valid {c : OneShot T} (valid : c.Valid) {t : T} (obliged : c.standing t = .obliged) :
    Valid { c with
      invoked := t :: c.invoked, standing := Function.update c.standing t .settled } := by
  have head := valid.accepted t (.inl obliged)
  refine ⟨fun empty => ?_, ?_, ?_, ?_⟩
  · rw [show c.order = [] from empty] at head; contradiction
  · intro u first
    cases Option.some.inj (head.symm.trans first)
    cases valid.first t head with
    | byRegistrant resolved duty invoked _ =>
      exact .done resolved duty (by rw [invoked]) (Function.update_self _ _ _)
    | later _ _ _ standing => rw [obliged] at standing; contradiction
    | byResolver _ _ _ standing => rw [obliged] at standing; contradiction
    | done _ _ _ standing => rw [obliged] at standing; contradiction
  · intro u accepted
    by_cases eq : u = t
    · exact eq ▸ head
    · simp only [Function.update_of_ne eq] at accepted
      exact valid.accepted u accepted
  · intro u rejected
    by_cases eq : u = t
    · subst eq; simp at rejected
    · simp only [Function.update_of_ne eq] at rejected
      exact valid.rejected u rejected

theorem Next.valid {c c' : OneShot T} (next : c.Next c') (valid : c.Valid) : c'.Valid := by
  cases next with
  | stutter => exact valid
  | reject t outside taken => exact reject_valid valid outside taken
  | accept t _ free => exact accept_valid valid free
  | resolve unresolved => exact resolve_valid valid unresolved
  | discharge t due => exact discharge_valid valid due
  | fulfil t obliged => exact fulfil_valid valid obliged

end Steps

end OneShot

end CppRsDriver.Lib
