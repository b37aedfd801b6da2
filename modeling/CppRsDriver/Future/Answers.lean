import CppRsDriver.Future.Waiters
import CppRsDriver.Result.Payload
import CppRsDriver.Session.ExecProfile
import CppRsDriver.Session.Lifecycle

/-! What the calls on a future answer. Each getter waits for the result and reads it off; the
result is set once, so all of them, on whatever threads, speak of the same value. -/
namespace CppRsDriver.Future

open CppRsDriver.Lib CppRsDriver.Errors CppRsDriver.Result CppRsDriver.Session

section Getters

/-- `ε` are the decoder's errors, `P` the prepared statements. -/
inductive CassResultValue (ε P : Type) where
  | empty
  | queryResult (result : CassResult ε)
  | queryError (err : CassErrorResult)
  | prepared (prepared : P)

abbrev CassFutureError := CassError × String

abbrev CassFutureResult (ε P : Type) := Except CassFutureError (CassResultValue ε P)

variable {ε P : Type}

def cassFutureErrorCode : CassFutureResult ε P → CassError
  | .ok (.queryError err) => err.toCassError
  | .error (err, _) => err
  | _ => .ok

def cassFutureGetResult : CassFutureResult ε P → Option (CassResult ε)
  | .ok (.queryResult result) => some result
  | _ => none

end Getters

variable {T R : Type}

/-- The value a call has come back with, or is about to. -/
def CallPc.answer : CallPc R → Option R
  | .exiting (.value r) | .returned (.value r) => some r
  | _ => none

/-- The value the task has computed and not yet stored. -/
def ResolverPc.pending : ResolverPc T R → Option R
  | .ready r | .locked r => some r
  | _ => none

theorem wake_answer (pc : CallPc R) : pc.wake.answer = pc.answer := by
  cases pc <;> rfl

theorem Enter.answer_eq {pc pc' : CallPc R} (enter : Enter pc pc') : pc'.answer = none := by
  cases enter <;> rfl

theorem Leave.answer_eq {s : State T R} {pc pc' : CallPc R} (leave : Leave s pc pc') :
    pc'.answer = pc.answer := by
  cases leave with
  | exit outcome => cases outcome <;> rfl
  | _ => rfl

theorem QuietMove.answer_set {futureKind : FutureKind R} {kind : CallKind} {s : State T R}
    {pc pc' : CallPc R} (move : QuietMove futureKind kind s pc pc') {r : R}
    (answer : pc'.answer = some r) : s.result = some r := by
  cases move with
  | ready r' _ set | found r' set | unwrap r' set => rw [set]; exact answer
  | _ => contradiction

section Steps
variable [DecidableEq T] {futureKind : FutureKind R} {kind : T → CallKind} {s s' : State T R}

theorem goto_answered {result : Option R} (t : T) {pc : CallPc R}
    (answered : ∀ u r, (s.pc u).answer = some r → result = some r)
    (own : ∀ r, pc.answer = some r → result = some r) (u : T) (r : R)
    (answer : ((s.goto t pc).pc u).answer = some r) : result = some r := by
  rw [goto_pc] at answer
  split at answer
  · exact own r answer
  · exact answered u r answer

theorem Transition.answered (transition : Transition futureKind kind s s')
    (answered : ∀ t r, (s.pc t).answer = some r → s.result = some r) (t : T) (r : R)
    (answer : (s'.pc t).answer = some r) : s'.result = some r := by
  have unanswered : ∀ {pc : CallPc R}, pc.answer = none → ∀ r, pc.answer = some r →
      s.result = some r := by
    intro pc none' r some'
    rw [none'] at some'
    contradiction
  cases transition with
  | setResult r' was unset =>
    have early := answered t r answer
    rw [unset] at early
    contradiction
  | notifyAll was => exact answered t r (wake_answer (s.pc t) ▸ answer)
  | quiet u pc move =>
    exact goto_answered u answered (fun r answer => move.answer_set answer) t r answer
  | callLock u pc free enter =>
    exact goto_answered u answered (unanswered enter.answer_eq) t r answer
  | callUnlock u pc leave =>
    exact goto_answered u answered (fun r own => answered u r (leave.answer_eq ▸ own)) t r answer
  | swapFirst u | swapLater u | store u | reject u | callInvoke u | take u | putBack u =>
    exact goto_answered u answered (unanswered rfl) t r answer
  | putBackNotify u v was sleeper =>
    have asleep : (CallPc.waking : CallPc R).answer = none := rfl
    have woken := goto_answered (s := { s with joinHandle := true }) v answered (unanswered asleep)
    exact goto_answered u woken (unanswered rfl) t r answer
  | _ => exact answered t r answer

variable [Fintype T]

theorem step_awaiting {event : Event T R} (stepped : step futureKind kind s event = some s')
    (awaiting : s.resolver = .awaiting) :
    s'.resolver = .awaiting ∨ ∃ r, event = .futureReady r ∧ s' = { s with resolver := .ready r } := by
  cases event with
  | futureReady r =>
    simp only [step, awaiting] at stepped
    exact .inr ⟨r, rfl, (Option.some.inj stepped).symm⟩
  | creator =>
    left
    simp only [step, creatorStep] at stepped
    split at stepped
    · obtain ⟨_, rfl⟩ := lockFor_map stepped
      exact awaiting
    · cases Option.some.inj stepped; exact awaiting
    · cases Option.some.inj stepped; exact awaiting
    · contradiction
  | resolver =>
    simp only [step, resolverStep, awaiting] at stepped
    contradiction
  | call t => exact .inl ((callStep_frame stepped).resolver.trans awaiting)
  | deadline t | invalidDeadline t | spurious t =>
    left
    simp only [step] at stepped
    split at stepped
    · cases Option.some.inj stepped; exact awaiting
    · contradiction
  | timeout t => exact .inl ((timeoutStep_frame stepped).resolver.trans awaiting)
  | putBack t woken =>
    left
    simp only [step, putBackStep] at stepped
    split at stepped
    · split at stepped
      · cases Option.some.inj stepped; exact awaiting
      · contradiction
    · split at stepped
      · cases Option.some.inj stepped; exact awaiting
      · contradiction
    · contradiction

theorem step_pending {event : Event T R} (stepped : step futureKind kind s event = some s') {r : R}
    (pending : s'.resolver.pending = some r) :
    s.resolver.pending = some r ∨ event = .futureReady r := by
  by_cases awaiting : s.resolver = .awaiting
  · rcases step_awaiting stepped awaiting with still | ⟨r', is, rfl⟩
    · rw [still] at pending
      contradiction
    · cases Option.some.inj pending
      exact .inr is
  · left
    cases step_transition stepped with
    | futureReady r' was => exact absurd was awaiting
    | resolverLock r' was free => rw [was]; exact pending
    | resolverUnlock callback was => cases callback <;> contradiction
    | setResult | setTwice | readCallback | resolverInvoke | notifyAll => contradiction
    | _ => exact pending

/-- Where the values in a run come from. -/
structure Agreed (futureKind : FutureKind R) (done : List (Event T R)) (s : State T R) : Prop where
  pending : ∀ r, s.resolver.pending = some r → .futureReady r ∈ done
  source : ∀ r, s.result = some r → futureKind = .immediate r ∨ .futureReady r ∈ done
  answered : ∀ t r, (s.pc t).answer = some r → s.result = some r

theorem Agreed.step {done : List (Event T R)} (agreed : Agreed futureKind done s)
    {event : Event T R} (stepped : Future.step futureKind kind s event = some s') :
    Agreed futureKind (done ++ [event]) s' := by
  have transition := step_transition stepped
  refine ⟨?_, ?_, transition.answered agreed.answered⟩
  · intro r pending
    rcases step_pending stepped pending with before | rfl
    · exact List.mem_append_left _ (agreed.pending r before)
    · exact List.mem_append_right _ (List.mem_singleton_self _)
  · intro r is
    have before : s.result = some r ∨ s.resolver.pending = some r := by
      cases transition with
      | setResult r' was unset => exact .inr (by rw [was]; exact is)
      | _ => exact .inl is
    rcases before with set | pending
    · exact (agreed.source r set).imp_right (List.mem_append_left _)
    · exact .inr (List.mem_append_left _ (agreed.pending r pending))

end Steps

end CppRsDriver.Future
