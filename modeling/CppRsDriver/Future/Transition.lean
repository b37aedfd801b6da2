import CppRsDriver.Future.Model

/-! What one step of the future can do, said once: every enabled step is one of
the transitions below. Calls move without an effect on the shared state, take the
lock, give it up, or change what the lock protects. -/
namespace CppRsDriver.Future

variable {T R : Type}

section Moves

/-- Moves of a call that leave lock and shared state alone. -/
inductive QuietMove (futureKind : FutureKind R) (kind : CallKind) (s : State T R) :
    CallPc R → CallPc R → Prop where
  | nullCallback (published : s.creator = .published) (null : kind = .setCallback true) :
      QuietMove futureKind kind s .notStarted (.cbReturned .libBadParams)
  | startCallback (published : s.creator = .published) (given : kind = .setCallback false)
      (resolvable : futureKind = .resolvable) :
      QuietMove futureKind kind s .notStarted .cbLocking
  | startSwap (published : s.creator = .published) (given : kind = .setCallback false) (res : R)
      (immediate : futureKind = .immediate res) :
      QuietMove futureKind kind s .notStarted .cbSwapping
  | startWait (published : s.creator = .published) :
      QuietMove futureKind kind s .notStarted .locking
  | ready (r : R) (published : s.creator = .published) (set : s.result = some r) :
      QuietMove futureKind kind s .notStarted (.returned (.value r))
  | decide : QuietMove futureKind kind s .cbStored (.cbLeaving s.result.isSome)
  | deadline : QuietMove futureKind kind s .computing .looking
  | invalidDeadline : QuietMove futureKind kind s .computing (.exiting .invalidDuration)
  | found (r : R) (set : s.result = some r) :
      QuietMove futureKind kind s .looking (.exiting (.value r))
  | unset (unset : s.result = none) : QuietMove futureKind kind s .looking .taking
  | missing (gone : s.joinHandle = false) : QuietMove futureKind kind s .taking .testing
  | joined (finished : s.resolver = .finished) :
      QuietMove futureKind kind s .blocked .unwrapping
  | joinError (failed : s.resolver = .panicked) : QuietMove futureKind kind s .blocked .panicked
  | unwrap (r : R) (set : s.result = some r) :
      QuietMove futureKind kind s .unwrapping (.returned (.value r))
  | unwrapNone (unset : s.result = none) : QuietMove futureKind kind s .unwrapping .panicked
  | timedOut (timed : kind = .waitTimed) : QuietMove futureKind kind s .blocked .timedOut
  | retest (changed : s.result.isSome = true ∨ s.joinHandle = true) :
      QuietMove futureKind kind s .testing .looking
  | expire (unset : s.result = none) (gone : s.joinHandle = false) :
      QuietMove futureKind kind s .testing (.exiting .timeoutError)
  | wake : QuietMove futureKind kind s .asleep .waking

inductive Enter : CallPc R → CallPc R → Prop where
  | check : Enter .cbLocking .cbChecking
  | compute : Enter .locking .computing
  | look : Enter .locking .looking
  | putBack : Enter .timedOut .puttingBack
  | test : Enter .waking .testing

inductive Leave (s : State T R) : CallPc R → CallPc R → Prop where
  | reject : Leave s .cbRejecting (.cbReturned .libCallbackAlreadySet)
  | invoke : Leave s (.cbLeaving true) .cbInvoking
  | store : Leave s (.cbLeaving false) (.cbReturned .ok)
  | block : Leave s .dropping .blocked
  | sleep (unset : s.result = none) (gone : s.joinHandle = false) : Leave s .testing .asleep
  | exit (outcome : WaitOutcome R) : Leave s (.exiting outcome) (.returned outcome)

end Moves

theorem isAsleep_iff (pc : CallPc R) : pc.isAsleep = true ↔ pc = .asleep := by
  cases pc <;> simp [CallPc.isAsleep]

theorem lockFor_some {s s' : State T R} {agent : Agent T} (locked : lockFor s agent = some s') :
    s.owner = none ∧ s' = { s with owner := some agent } := by
  unfold lockFor at locked
  split at locked
  · rename_i free
    exact ⟨Option.isNone_iff_eq_none.mp free, (Option.some.inj locked).symm⟩
  · contradiction

theorem lockFor_map {s s' : State T R} {agent : Agent T} {f : State T R → State T R}
    (locked : (lockFor s agent).map f = some s') :
    s.owner = none ∧ s' = f { s with owner := some agent } := by
  obtain ⟨s₁, h₁, h₂⟩ := Option.map_eq_some_iff.mp locked
  obtain ⟨free, rfl⟩ := lockFor_some h₁
  exact ⟨free, h₂.symm⟩

/- The test of `wait_while` and `wait_timeout_while`. -/
theorem condition_iff {s : State T R} : (s.result.isNone && !s.joinHandle) = true ↔
    s.result = none ∧ s.joinHandle = false := by
  simp

variable [DecidableEq T]

inductive Transition (futureKind : FutureKind R) (kind : T → CallKind) :
    State T R → State T R → Prop where
  | futureReady (s r) (was : s.resolver = .awaiting) :
      Transition futureKind kind s { s with resolver := .ready r }
  | creatorLock (s) (was : s.creator = .spawned) (free : s.owner = none) :
      Transition futureKind kind s { s with owner := some .creator, creator := .storing }
  | creatorStore (s) (was : s.creator = .storing) :
      Transition futureKind kind s { s with joinHandle := true, creator := .leaving }
  | creatorUnlock (s) (was : s.creator = .leaving) :
      Transition futureKind kind s { s with owner := none, creator := .published }
  | resolverLock (s r) (was : s.resolver = .ready r) (free : s.owner = none) :
      Transition futureKind kind s { s with owner := some .resolver, resolver := .locked r }
  | setResult (s r) (was : s.resolver = .locked r) (unset : s.result = none) :
      Transition futureKind kind s { s with result := some r, resolver := .resultSet }
  | setTwice (s r) (was : s.resolver = .locked r) (set : s.result.isSome = true) :
      Transition futureKind kind s { s with resolver := .panicked }
  | readCallback (s) (was : s.resolver = .resultSet) :
      Transition futureKind kind s { s with resolver := .leaving s.callback }
  | resolverUnlock (s callback) (was : s.resolver = .leaving callback) :
      Transition futureKind kind s
        { s with owner := none, resolver := callback.elim .notifying .invoking }
  | resolverInvoke (s callback) (was : s.resolver = .invoking callback) :
      Transition futureKind kind s
        { s with invoked := callback :: s.invoked, resolver := .notifying }
  | notifyAll (s) (was : s.resolver = .notifying) :
      Transition futureKind kind s { s with pc := fun t => (s.pc t).wake, resolver := .finished }
  | quiet (s t pc) (move : QuietMove futureKind (kind t) s (s.pc t) pc) :
      Transition futureKind kind s (s.goto t pc)
  | callLock (s t pc) (free : s.owner = none) (enter : Enter (s.pc t) pc) :
      Transition futureKind kind s ({ s with owner := some (.call t) }.goto t pc)
  | callUnlock (s t pc) (leave : Leave s (s.pc t) pc) :
      Transition futureKind kind s ({ s with owner := none }.goto t pc)
  | swapFirst (s t) (was : s.pc t = .cbSwapping) (free : s.callbackSet = false) :
      Transition futureKind kind s
        ({ s with callbackSet := true, order := s.order ++ [t] }.goto t .cbInvoking)
  | swapLater (s t) (was : s.pc t = .cbSwapping) (taken : s.callbackSet = true) :
      Transition futureKind kind s
        ({ s with callbackSet := true, order := s.order ++ [t] }.goto t
          (.cbReturned .libCallbackAlreadySet))
  | store (s t) (was : s.pc t = .cbChecking) (free : s.callback = none) :
      Transition futureKind kind s
        ({ s with order := s.order ++ [t], callback := some t }.goto t .cbStored)
  | reject (s t) (was : s.pc t = .cbChecking) (taken : s.callback.isSome = true) :
      Transition futureKind kind s ({ s with order := s.order ++ [t] }.goto t .cbRejecting)
  | callInvoke (s t) (was : s.pc t = .cbInvoking) :
      Transition futureKind kind s
        ({ s with invoked := t :: s.invoked }.goto t (.cbReturned .ok))
  | take (s t) (was : s.pc t = .taking) (present : s.joinHandle = true) :
      Transition futureKind kind s ({ s with joinHandle := false }.goto t .dropping)
  | putBack (s t) (was : s.pc t = .puttingBack) (alone : ∀ u, s.pc u ≠ .asleep) :
      Transition futureKind kind s ({ s with joinHandle := true }.goto t (.exiting .timeoutError))
  | putBackNotify (s t u) (was : s.pc t = .puttingBack) (sleeper : s.pc u = .asleep) :
      Transition futureKind kind s
        (({ s with joinHandle := true }.goto u .waking).goto t (.exiting .timeoutError))

section Inversion
variable {futureKind : FutureKind R} {kind : T → CallKind} {s s' : State T R}

theorem creatorStep_transition (stepped : creatorStep s = some s') :
    Transition futureKind kind s s' := by
  unfold creatorStep at stepped
  split at stepped
  · rename_i was
    obtain ⟨free, rfl⟩ := lockFor_map stepped
    exact .creatorLock s was free
  · cases Option.some.inj stepped; exact .creatorStore s ‹_›
  · cases Option.some.inj stepped; exact .creatorUnlock s ‹_›
  · contradiction

theorem resolverStep_transition (stepped : resolverStep s = some s') :
    Transition futureKind kind s s' := by
  unfold resolverStep at stepped
  split at stepped
  · contradiction
  · rename_i was
    obtain ⟨free, rfl⟩ := lockFor_map stepped
    exact .resolverLock s _ was free
  · rename_i was
    split at stepped
    · cases Option.some.inj stepped; exact .setResult s _ was ‹_›
    · rename_i set
      cases Option.some.inj stepped; exact .setTwice s _ was (by rw [set]; rfl)
  · cases Option.some.inj stepped; exact .readCallback s ‹_›
  · cases Option.some.inj stepped; exact .resolverUnlock s (some _) ‹_›
  · cases Option.some.inj stepped; exact .resolverUnlock s none ‹_›
  · cases Option.some.inj stepped; exact .resolverInvoke s _ ‹_›
  · cases Option.some.inj stepped; exact .notifyAll s ‹_›
  · contradiction
  · contradiction

theorem startCall_transition {t : T} (was : s.pc t = .notStarted)
    (stepped : startCall futureKind (kind t) s t = some s') : Transition futureKind kind s s' := by
  unfold startCall at stepped
  split at stepped
  · rename_i published
    split at stepped
    · rename_i null
      cases Option.some.inj stepped
      exact .quiet s t _ (was ▸ .nullCallback published null)
    · rename_i given
      cases Option.some.inj stepped
      exact .quiet s t _ (was ▸ .startCallback published given rfl)
    · rename_i given
      cases Option.some.inj stepped
      exact .quiet s t _ (was ▸ .startSwap published given _ rfl)
    · split at stepped
      · rename_i set
        cases Option.some.inj stepped
        exact .quiet s t _ (was ▸ .ready _ published set)
      · cases Option.some.inj stepped
        exact .quiet s t _ (was ▸ .startWait published)
  · contradiction

theorem callStep_transition {t : T} (stepped : callStep futureKind (kind t) s t = some s') :
    Transition futureKind kind s s' := by
  unfold callStep at stepped
  cases was : s.pc t <;> simp only [was, reduceCtorEq] at stepped
  case notStarted => exact startCall_transition was stepped
  case cbSwapping =>
    split at stepped <;> cases Option.some.inj stepped
    · exact .swapLater s t was ‹_›
    · exact .swapFirst s t was (eq_false_of_ne_true ‹_›)
  case cbLocking =>
    obtain ⟨free, rfl⟩ := lockFor_map stepped
    exact .callLock s t _ free (was ▸ .check)
  case cbChecking =>
    split at stepped <;> cases Option.some.inj stepped
    · exact .reject s t was ‹_›
    · exact .store s t was (by simpa using ‹¬ s.callback.isSome = true›)
  case cbRejecting => cases Option.some.inj stepped; exact .callUnlock s t _ (was ▸ .reject)
  case cbStored => cases Option.some.inj stepped; exact .quiet s t _ (was ▸ .decide)
  case cbLeaving shouldInvokeCallback =>
    cases shouldInvokeCallback <;> cases Option.some.inj stepped
    · exact .callUnlock s t _ (was ▸ .store)
    · exact .callUnlock s t _ (was ▸ .invoke)
  case cbInvoking => cases Option.some.inj stepped; exact .callInvoke s t was
  case locking =>
    obtain ⟨free, rfl⟩ := lockFor_map stepped
    split
    · exact .callLock s t _ free (was ▸ .compute)
    · exact .callLock s t _ free (was ▸ .look)
  case looking =>
    split at stepped <;> cases Option.some.inj stepped
    · exact .quiet s t _ (was ▸ .found _ ‹_›)
    · exact .quiet s t _ (was ▸ .unset ‹_›)
  case taking =>
    split at stepped <;> cases Option.some.inj stepped
    · exact .take s t was ‹_›
    · exact .quiet s t _ (was ▸ .missing (eq_false_of_ne_true ‹_›))
  case dropping => cases Option.some.inj stepped; exact .callUnlock s t _ (was ▸ .block)
  case blocked =>
    split at stepped
    · cases Option.some.inj stepped; exact .quiet s t _ (was ▸ .joined ‹_›)
    · cases Option.some.inj stepped; exact .quiet s t _ (was ▸ .joinError ‹_›)
    · contradiction
  case unwrapping =>
    split at stepped <;> cases Option.some.inj stepped
    · exact .quiet s t _ (was ▸ .unwrap _ ‹_›)
    · exact .quiet s t _ (was ▸ .unwrapNone ‹_›)
  case timedOut =>
    obtain ⟨free, rfl⟩ := lockFor_map stepped
    exact .callLock s t _ free (was ▸ .putBack)
  case testing =>
    split at stepped <;> cases Option.some.inj stepped
    · obtain ⟨unset, gone⟩ := condition_iff.mp ‹_›
      exact .callUnlock s t _ (was ▸ .sleep unset gone)
    · refine .quiet s t _ (was ▸ .retest ?_)
      have failed := mt condition_iff.mpr ‹_›
      grind
  case waking =>
    obtain ⟨free, rfl⟩ := lockFor_map stepped
    exact .callLock s t _ free (was ▸ .test)
  case exiting => cases Option.some.inj stepped; exact .callUnlock s t _ (was ▸ .exit _)

theorem timeoutStep_transition {t : T} (stepped : timeoutStep (kind t) s t = some s') :
    Transition futureKind kind s s' := by
  unfold timeoutStep at stepped
  split at stepped
  · rename_i timed
    cases was : s.pc t <;> simp only [was, reduceCtorEq] at stepped
    case blocked => cases Option.some.inj stepped; exact .quiet s t _ (was ▸ .timedOut timed)
    case asleep => cases Option.some.inj stepped; exact .quiet s t _ (was ▸ .wake)
    case testing =>
      split at stepped
      · obtain ⟨unset, gone⟩ := condition_iff.mp ‹_›
        cases Option.some.inj stepped
        exact .quiet s t _ (was ▸ .expire unset gone)
      · contradiction
  · contradiction

theorem putBackStep_transition [Fintype T] {t : T} {woken : Option T}
    (stepped : putBackStep s t woken = some s') : Transition futureKind kind s s' := by
  unfold putBackStep at stepped
  split at stepped
  · rename_i u was
    split at stepped
    · rename_i sleeper
      cases Option.some.inj stepped
      exact .putBackNotify s t u was ((isAsleep_iff _).mp sleeper)
    · contradiction
  · rename_i was
    split at stepped
    · rename_i alone
      cases Option.some.inj stepped
      refine .putBack s t was (fun u asleep => ?_)
      have awake := alone u
      rw [asleep] at awake
      contradiction
    · contradiction
  · contradiction

theorem step_transition [Fintype T] {event : Event T R}
    (stepped : step futureKind kind s event = some s') : Transition futureKind kind s s' := by
  cases event with
  | futureReady r =>
    simp only [step] at stepped
    split at stepped
    · cases Option.some.inj stepped; exact .futureReady s r ‹_›
    · contradiction
  | creator => exact creatorStep_transition stepped
  | resolver => exact resolverStep_transition stepped
  | call t => exact callStep_transition stepped
  | deadline t =>
    simp only [step] at stepped
    split at stepped
    · rename_i was
      cases Option.some.inj stepped; exact .quiet s t _ (was ▸ .deadline)
    · contradiction
  | invalidDeadline t =>
    simp only [step] at stepped
    split at stepped
    · rename_i was
      cases Option.some.inj stepped; exact .quiet s t _ (was ▸ .invalidDeadline)
    · contradiction
  | timeout t => exact timeoutStep_transition stepped
  | spurious t =>
    simp only [step] at stepped
    split at stepped
    · rename_i was
      cases Option.some.inj stepped; exact .quiet s t _ (was ▸ .wake)
    · contradiction
  | putBack t woken => exact putBackStep_transition stepped

/-- A step of a call is its own: the other agents stay where they are. -/
structure CallFrame (t : T) (s s' : State T R) : Prop where
  creator : s'.creator = s.creator
  resolver : s'.resolver = s.resolver
  others : ∀ u, u ≠ t → s'.pc u = s.pc u

theorem goto_frame {s₁ : State T R} (t : T) (pc : CallPc R) (creator : s₁.creator = s.creator)
    (resolver : s₁.resolver = s.resolver) (unmoved : s₁.pc = s.pc) :
    CallFrame t s (s₁.goto t pc) :=
  ⟨creator, resolver, fun u ne => by rw [goto_pc, if_neg ne, unmoved]⟩

theorem startCall_frame {call : CallKind} {t : T}
    (stepped : startCall futureKind call s t = some s') : CallFrame t s s' := by
  unfold startCall at stepped
  split at stepped
  · split at stepped
    · cases Option.some.inj stepped; exact goto_frame t _ rfl rfl rfl
    · cases Option.some.inj stepped; exact goto_frame t _ rfl rfl rfl
    · cases Option.some.inj stepped; exact goto_frame t _ rfl rfl rfl
    · split at stepped <;> cases Option.some.inj stepped <;> exact goto_frame t _ rfl rfl rfl
  · contradiction

theorem callStep_frame {call : CallKind} {t : T}
    (stepped : callStep futureKind call s t = some s') : CallFrame t s s' := by
  unfold callStep at stepped
  cases was : s.pc t <;> simp only [was, reduceCtorEq] at stepped
  case notStarted => exact startCall_frame stepped
  case cbLocking | locking | timedOut | waking =>
    obtain ⟨_, rfl⟩ := lockFor_map stepped
    exact goto_frame t _ rfl rfl rfl
  case cbLeaving shouldInvokeCallback =>
    cases shouldInvokeCallback <;> cases Option.some.inj stepped <;> exact goto_frame t _ rfl rfl rfl
  case cbSwapping | cbChecking | looking | taking | unwrapping | testing =>
    split at stepped <;> cases Option.some.inj stepped <;> exact goto_frame t _ rfl rfl rfl
  case blocked =>
    split at stepped
    · cases Option.some.inj stepped; exact goto_frame t _ rfl rfl rfl
    · cases Option.some.inj stepped; exact goto_frame t _ rfl rfl rfl
    · contradiction
  all_goals
    cases Option.some.inj stepped
    exact goto_frame t _ rfl rfl rfl

theorem timeoutStep_frame {call : CallKind} {t : T} (stepped : timeoutStep call s t = some s') :
    CallFrame t s s' := by
  unfold timeoutStep at stepped
  split at stepped
  · cases was : s.pc t <;> simp only [was, reduceCtorEq] at stepped
    case testing =>
      split at stepped
      · cases Option.some.inj stepped; exact goto_frame t _ rfl rfl rfl
      · contradiction
    all_goals
      cases Option.some.inj stepped
      exact goto_frame t _ rfl rfl rfl
  · contradiction

end Inversion

end CppRsDriver.Future
