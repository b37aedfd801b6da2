import Mathlib.Logic.Function.Basic

/-! One unit of work handed over among agents. An agent that finds the token gone
sleeps until it is notified; the holder waits for the work to be done or gives the
token back and wakes one sleeper. Doing the work ends with a notice to all. -/
namespace CppRsDriver.Lib

variable {A : Type}

inductive Role where
  | outside
  | examining
  | holding
  | asleep
  | joined
  deriving DecidableEq, Repr

structure Handoff (A : Type) where
  free : Bool
  resolved : Bool
  notified : Bool
  role : A → Role

def Role.rouse (role : Role) : Role := if role = .asleep then .examining else role

section Steps
variable [DecidableEq A]

def Handoff.assign (h : Handoff A) (a : A) (role : Role) : Handoff A :=
  { h with role := Function.update h.role a role }

/-- An examiner leaves the free token alone only when the work is done. -/
inductive Handoff.Next : Handoff A → Handoff A → Prop where
  | stutter (h) : Next h h
  | enter (h a) (was : h.role a = .outside) : Next h (h.assign a .examining)
  | leave (h a) (was : h.role a = .examining) (idle : h.resolved = true ∨ h.free = false) :
      Next h (h.assign a .outside)
  | take (h a) (was : h.role a = .examining) (free : h.free = true) :
      Next h ({ h with free := false }.assign a .holding)
  | sleep (h a) (was : h.role a = .examining) (unresolved : h.resolved = false)
      (taken : h.free = false) : Next h (h.assign a .asleep)
  | wake (h a) (was : h.role a = .asleep) : Next h (h.assign a .examining)
  | giveBack (h a) (was : h.role a = .holding) (alone : ∀ b, h.role b ≠ .asleep) :
      Next h ({ h with free := true }.assign a .outside)
  | handOver (h a b) (was : h.role a = .holding) (sleeper : h.role b = .asleep) :
      Next h (({ h with free := true }.assign b .examining).assign a .outside)
  | join (h a) (was : h.role a = .holding) (resolved : h.resolved = true) :
      Next h (h.assign a .joined)
  | retire (h a) (was : h.role a = .joined) : Next h (h.assign a .outside)
  | resolve (h) (unresolved : h.resolved = false) : Next h { h with resolved := true }
  | notifyAll (h) (resolved : h.resolved = true) :
      Next h { h with notified := true, role := fun a => (h.role a).rouse }

end Steps

structure Handoff.Valid (h : Handoff A) : Prop where
  single : ∀ a b, h.role a = .holding → h.role b = .holding → a = b
  kept : ∀ a, h.role a = .holding → h.free = false
  present : h.resolved = false → h.free = true ∨ ∃ a, h.role a = .holding
  covered : h.resolved = false → h.free = true → (∃ a, h.role a = .asleep) →
    ∃ b, h.role b = .examining
  noticed : ∀ a, h.role a = .asleep → h.resolved = true → h.notified = false
  early : h.notified = true → h.resolved = true
  joined : ∀ a, h.role a = .joined → h.resolved = true

namespace Handoff

theorem Valid.none_holding {h : Handoff A} (valid : h.Valid) (free : h.free = true) (a : A) :
    h.role a ≠ .holding := by
  intro holding
  rw [valid.kept a holding] at free
  contradiction

theorem notifyAll_valid {h : Handoff A} (valid : h.Valid) (resolved : h.resolved = true) :
    Valid { h with notified := true, role := fun a => (h.role a).rouse } := by
  have holding : ∀ a, (h.role a).rouse = .holding → h.role a = .holding := by grind [Role.rouse]
  have joined : ∀ a, (h.role a).rouse = .joined → h.role a = .joined := by grind [Role.rouse]
  have awake : ∀ a, (h.role a).rouse ≠ .asleep := by grind [Role.rouse]
  exact {
    single := fun a b ha hb => valid.single a b (holding a ha) (holding b hb)
    kept := fun a ha => valid.kept a (holding a ha)
    present := fun unresolved => by rw [resolved] at unresolved; contradiction
    covered := fun unresolved => by rw [resolved] at unresolved; contradiction
    noticed := fun a asleep => absurd asleep (awake a)
    early := fun _ => resolved
    joined := fun _ _ => resolved }

theorem resolve_valid {h : Handoff A} (valid : h.Valid) (unresolved : h.resolved = false) :
    Valid { h with resolved := true } where
  single := valid.single
  kept := valid.kept
  present := fun eq => by contradiction
  covered := fun eq => by contradiction
  noticed := fun _ _ _ => by
    by_contra notified
    have resolved := valid.early (eq_true_of_ne_false notified)
    rw [unresolved] at resolved
    contradiction
  early := fun _ => rfl
  joined := fun _ _ => rfl

section Steps
variable [DecidableEq A]

theorem role_assign (h : Handoff A) (a b : A) (role : Role) :
    (h.assign a role).role b = if b = a then role else h.role b := by
  simp only [assign, Function.update_apply]

@[simp] theorem role_assign_self (h : Handoff A) (a : A) (role : Role) :
    (h.assign a role).role a = role := by
  rw [role_assign, if_pos rfl]

@[simp] theorem role_assign_ne (h : Handoff A) {a b : A} (ne : b ≠ a) (role : Role) :
    (h.assign a role).role b = h.role b := by
  rw [role_assign, if_neg ne]

theorem Next.same {h : Handoff A} {a : A} {role : Role} (same : h.role a = role) :
    h.Next (h.assign a role) := by
  have unchanged : h.assign a role = h := by
    rw [assign, ← same, Function.update_eq_self]
  rw [unchanged]
  exact .stutter h

/-- An agent that examines a free token while the work is undone goes on until it
takes the token or somebody else does. -/
theorem Next.examiner {h h' : Handoff A} (next : h.Next h') (unresolved : h.resolved = false)
    (free : h.free = true) {a : A} (was : h.role a = .examining) :
    h'.role a = .examining ∨ h'.role a = .holding := by
  cases next <;> grind [role_assign, Role.rouse]

theorem assign_valid {h : Handoff A} (valid : h.Valid) (a : A) (role : Role)
    (holds : role ≠ .holding)
    (releases : h.role a = .holding → h.resolved = true)
    (examines : h.role a = .examining → h.resolved = true ∨ h.free = false)
    (sleeps : role = .asleep → h.resolved = false ∧ h.free = false)
    (joins : role = .joined → h.resolved = true) : (h.assign a role).Valid where
  single := by grind [role_assign, valid.single]
  kept := by grind [role_assign, valid.kept, assign]
  present := by
    intro unresolved
    rcases valid.present unresolved with free | ⟨b, holding⟩
    · exact .inl free
    · refine .inr ⟨b, ?_⟩
      have ne : b ≠ a := by
        rintro rfl
        exact absurd (releases holding) (by rw [show h.resolved = false from unresolved]; decide)
      rw [role_assign_ne h ne, holding]
  covered := by
    rintro unresolved free ⟨b, asleep⟩
    have was : h.role b = .asleep := by grind [role_assign, assign]
    obtain ⟨c, examining⟩ := valid.covered unresolved free ⟨b, was⟩
    refine ⟨c, ?_⟩
    have ne : c ≠ a := by grind [assign]
    rw [role_assign_ne h ne, examining]
  noticed := by grind [role_assign, valid.noticed, assign]
  early := valid.early
  joined := by grind [role_assign, valid.joined, assign]

theorem take_valid {h : Handoff A} (valid : h.Valid) {a : A} (free : h.free = true) :
    ({ h with free := false }.assign a .holding).Valid where
  single := by grind [role_assign, valid.none_holding free]
  kept := fun _ _ => rfl
  present := fun _ => .inr ⟨a, role_assign_self _ _ _⟩
  covered := fun _ gone => by contradiction
  noticed := by grind [role_assign, valid.noticed, assign]
  early := valid.early
  joined := by grind [role_assign, valid.joined, assign]

/-- Giving the token back is sound when nobody sleeps, or one sleeper is woken. -/
theorem giveBack_valid {h : Handoff A} (valid : h.Valid) {a : A} (was : h.role a = .holding)
    (alone : ∀ b, h.role b ≠ .asleep) :
    ({ h with free := true }.assign a .outside).Valid where
  single := by grind [role_assign, valid.single]
  kept := by grind [role_assign, valid.single]
  present := fun _ => .inl rfl
  covered := by grind [role_assign]
  noticed := by grind [role_assign]
  early := valid.early
  joined := by grind [role_assign, valid.joined, assign]

theorem handOver_valid {h : Handoff A} (valid : h.Valid) {a b : A} (was : h.role a = .holding)
    (sleeper : h.role b = .asleep) :
    (({ h with free := true }.assign b .examining).assign a .outside).Valid where
  single := by grind [role_assign, valid.single]
  kept := by grind [role_assign, valid.single]
  present := fun _ => .inl rfl
  covered := by
    intro _ _ _
    have ne : b ≠ a := by
      rintro rfl
      rw [was] at sleeper
      contradiction
    exact ⟨b, by rw [role_assign_ne _ ne, role_assign_self]⟩
  noticed := by grind [role_assign, valid.noticed, assign]
  early := valid.early
  joined := by grind [role_assign, valid.joined, assign]

theorem Next.valid {h h' : Handoff A} (next : h.Next h') (valid : h.Valid) : h'.Valid := by
  cases next with
  | stutter => exact valid
  | enter a was => apply assign_valid valid a .examining <;> simp [was]
  | leave a was idle => apply assign_valid valid a .outside <;> simp [was, idle]
  | take a was free => exact take_valid valid free
  | sleep a was unresolved taken =>
    apply assign_valid valid a .asleep <;> simp [was, unresolved, taken]
  | wake a was => apply assign_valid valid a .examining <;> simp [was]
  | giveBack a was alone => exact giveBack_valid valid was alone
  | handOver a b was sleeper => exact handOver_valid valid was sleeper
  | join a was resolved => apply assign_valid valid a .joined <;> simp [was, resolved]
  | retire a was => apply assign_valid valid a .outside <;> simp [was]
  | resolve unresolved => exact resolve_valid valid unresolved
  | notifyAll resolved => exact notifyAll_valid valid resolved

end Steps

end Handoff

end CppRsDriver.Lib
