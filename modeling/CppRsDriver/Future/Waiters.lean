import CppRsDriver.Future.Lock
import CppRsDriver.Lib.Handoff
import CppRsDriver.Lib.Runs

/-! Waiting on a future hands one join handle over among the waiting calls. The
thread that creates the future holds the handle first; `waking` is a sleeper that
has been notified, or woke up by itself, and has yet to take the lock. -/
namespace CppRsDriver.Future

open CppRsDriver.Lib

variable {T R : Type}

def CreatorPc.role : CreatorPc → Role
  | .spawned | .storing => .holding
  | _ => .outside

def CallPc.role : CallPc R → Role
  | .looking | .taking | .testing | .waking => .examining
  | .dropping | .blocked | .timedOut | .puttingBack => .holding
  | .asleep => .asleep
  | .unwrapping => .joined
  | _ => .outside

def State.role (s : State T R) : Agent T → Role
  | .creator => s.creator.role
  | .resolver => .outside
  | .call t => (s.pc t).role

def ResolverPc.notified : ResolverPc T R → Bool
  | .finished => true
  | _ => false

/-- The `notify_all` of the task is still to come. -/
def ResolverPc.willNotify : ResolverPc T R → Bool
  | .resultSet | .leaving _ | .invoking _ | .notifying => true
  | _ => false

def State.handoff (s : State T R) : Handoff (Agent T) where
  free := s.joinHandle
  resolved := s.result.isSome
  notified := s.resolver.notified
  role := s.role

theorem wake_role (pc : CallPc R) : pc.wake.role = pc.role.rouse := by
  cases pc <;> rfl

theorem wake_roles (s : State T R) :
    State.role { s with pc := fun t => (s.pc t).wake, resolver := .finished } =
      fun a => (s.role a).rouse := by
  funext a
  cases a with
  | creator => cases position : s.creator <;> simp only [State.role, position] <;> rfl
  | resolver => rfl
  | call t => exact wake_role (s.pc t)

theorem willNotify_of_resolved {resolver : ResolverPc T R} (resolved : resolver.resolved = true)
    (running : resolver ≠ .panicked) (pending : resolver.notified = false) :
    resolver.willNotify = true := by
  cases resolver with
  | awaiting | ready | locked => contradiction
  | panicked => contradiction
  | finished => contradiction
  | _ => rfl

theorem CallPc.role_asleep {pc : CallPc R} (asleep : pc.role = .asleep) : pc = .asleep := by
  cases pc <;> first | rfl | contradiction

theorem CreatorPc.role_awake (creator : CreatorPc) : creator.role ≠ .asleep := by
  cases creator <;> decide

theorem role_examining {s : State T R} {a : Agent T} (examining : s.role a = .examining) :
    ∃ t, (s.pc t).role = .examining := by
  cases a with
  | creator => cases position : s.creator <;> rw [State.role, position] at examining <;> contradiction
  | resolver => contradiction
  | call t => exact ⟨t, examining⟩

/- Once a call has started, the creating thread has parted with the handle. -/
theorem Sound.role_holding {s : State T R} (sound : Sound s) {t : T} (started : s.pc t ≠ .notStarted)
    {a : Agent T} (holding : s.role a = .holding) : ∃ u, (s.pc u).role = .holding := by
  cases a with
  | creator =>
    have hidden : s.creator ≠ .published := by
      intro published
      rw [State.role, published] at holding
      contradiction
    exact absurd (sound.unshared hidden t) started
  | resolver => contradiction
  | call u => exact ⟨u, holding⟩

theorem wake_unpanicked {pc : CallPc R} (unpanicked : pc ≠ .panicked) : pc.wake ≠ .panicked := by
  cases pc <;> first | contradiction | exact fun eq => by contradiction

theorem Enter.unpanicked {pc pc' : CallPc R} (enter : Enter pc pc') : pc' ≠ .panicked := by
  cases enter <;> exact fun eq => by contradiction

theorem Leave.unpanicked {s : State T R} {pc pc' : CallPc R} (leave : Leave s pc pc') :
    pc' ≠ .panicked := by
  cases leave <;> exact fun eq => by contradiction

/-- Awaiting the handle ends with the result set, so `unwrap` has something to return. -/
theorem QuietMove.unpanicked {futureKind : FutureKind R} {call : CallKind} {s : State T R} {t : T}
    {pc pc' : CallPc R} (move : QuietMove futureKind call s pc pc') (sound : Sound s)
    (valid : s.handoff.Valid) (was : s.pc t = pc) : pc' ≠ .panicked := by
  cases move with
  | joinError failed => exact absurd failed sound.running
  | unwrapNone unset =>
    have set : s.result.isSome = true := valid.joined (.call t) (congrArg CallPc.role was)
    rw [unset] at set
    contradiction
  | _ => exact fun eq => by contradiction

theorem none_asleep {s : State T R} (alone : ∀ t, s.pc t ≠ .asleep) (a : Agent T) :
    s.role a ≠ .asleep := by
  cases a with
  | creator => exact s.creator.role_awake
  | resolver => exact fun eq => by contradiction
  | call t => exact fun asleep => alone t (CallPc.role_asleep asleep)

theorem initial_handoff_valid (futureKind : FutureKind R) :
    (initial futureKind : State T R).handoff.Valid := by
  cases futureKind with
  | resolvable =>
    -- the creating thread is the only one there, with the handle in its hands
    have only : ∀ a, (newFromFuture : State T R).role a = .holding → a = .creator := by
      intro a holding; cases a <;> first | rfl | contradiction
    have others : ∀ a, (newFromFuture : State T R).role a = .holding ∨
        (newFromFuture : State T R).role a = .outside := by
      intro a; cases a <;> simp [State.role, newFromFuture, CreatorPc.role, CallPc.role]
    exact {
      single := fun a b ha hb => (only a ha).trans (only b hb).symm
      kept := fun _ _ => rfl
      present := fun _ => .inr ⟨.creator, rfl⟩
      covered := fun _ free => by contradiction
      noticed := fun _ _ set => by contradiction
      early := fun notified => by contradiction
      joined := fun a joined => by
        rcases others a with role | role <;> cases role.symm.trans joined }
  | immediate res =>
    have outside : ∀ a, (newReady res : State T R).role a = .outside := by
      intro a; cases a <;> rfl
    exact {
      single := fun a _ ha _ => by cases (outside a).symm.trans ha
      kept := fun _ _ => rfl
      present := fun unresolved => by contradiction
      covered := fun unresolved => by contradiction
      noticed := fun a asleep => by cases (outside a).symm.trans asleep
      early := fun _ => rfl
      joined := fun _ _ => rfl }

theorem handoff_congr {s s' : State T R} (handle : s'.joinHandle = s.joinHandle)
    (result : s'.result = s.result) (notified : s'.resolver.notified = s.resolver.notified)
    (creator : s'.creator.role = s.creator.role) (pc : s'.pc = s.pc) : s'.handoff = s.handoff := by
  have role : s'.role = s.role := by
    funext a
    cases a with
    | creator => exact creator
    | resolver => rfl
    | call t => exact congrArg CallPc.role (congrFun pc t)
  simp only [State.handoff, handle, result, notified, role]

variable [DecidableEq T]

theorem handoff_creator (s : State T R) (creator : CreatorPc) (free : Bool) :
    State.handoff { s with joinHandle := free, creator := creator } =
      Handoff.assign { s.handoff with free := free } .creator creator.role := by
  simp only [State.handoff, Handoff.assign, Handoff.mk.injEq, true_and]
  funext a
  cases a <;> simp [State.role]

theorem handoff_goto (s : State T R) (t : T) (pc : CallPc R) :
    (s.goto t pc).handoff = s.handoff.assign (.call t) pc.role := by
  simp only [State.handoff, Handoff.assign, Handoff.mk.injEq]
  refine ⟨rfl, rfl, rfl, ?_⟩
  funext a
  cases a with
  | creator => rfl
  | resolver => rfl
  | call u =>
    by_cases eq : u = t
    · subst eq; simp [State.role]
    · simp [State.role, eq]

section Runs
variable {futureKind : FutureKind R} {kind : T → CallKind} {s s' : State T R}

theorem QuietMove.handoff_next {call : CallKind} {t : T} {pc pc' : CallPc R}
    (move : QuietMove futureKind call s pc pc') (sound : Sound s) (was : s.pc t = pc) :
    s.handoff.Next (s.handoff.assign (.call t) pc'.role) := by
  have role : s.handoff.role (.call t) = pc.role := congrArg CallPc.role was
  cases move with
  | deadline => exact .enter _ _ role
  | found r set => exact .leave _ _ role (.inl (by simp [State.handoff, set]))
  | joined finished =>
    exact .join _ _ role (by rw [State.handoff, sound.result, finished]; rfl)
  | joinError failed => exact absurd failed sound.running
  | unwrap r set => exact .retire _ _ role
  | unwrapNone unset => exact .retire _ _ role
  | expire unset gone => exact .leave _ _ role (.inr gone)
  | wake => exact .wake _ _ role
  | _ => exact .same role

theorem Enter.handoff_next {t : T} {pc pc' : CallPc R} (enter : Enter pc pc')
    (was : s.pc t = pc) : s.handoff.Next (s.handoff.assign (.call t) pc'.role) := by
  have role : s.handoff.role (.call t) = pc.role := congrArg CallPc.role was
  cases enter with
  | look => exact .enter _ _ role
  | _ => exact .same role

theorem Leave.handoff_next {t : T} {pc pc' : CallPc R} (leave : Leave s pc pc')
    (was : s.pc t = pc) : s.handoff.Next (s.handoff.assign (.call t) pc'.role) := by
  have role : s.handoff.role (.call t) = pc.role := congrArg CallPc.role was
  cases leave with
  | sleep unset gone => exact .sleep _ _ role (by simp [State.handoff, unset]) gone
  | _ => exact .same role

theorem goto_handoff_same {t : T} {pc : CallPc R} (same : (s.pc t).role = pc.role) :
    s.handoff.Next (s.goto t pc).handoff :=
  handoff_goto s t pc ▸ Handoff.Next.same same

/-- Every step of the future is a step of the hand-over or leaves it alone. -/
theorem Transition.handoff_next (transition : Transition futureKind kind s s') (sound : Sound s) :
    s.handoff.Next s'.handoff := by
  have stutter : ∀ {h : Handoff (Agent T)}, h = s.handoff → s.handoff.Next h :=
    fun eq => eq ▸ .stutter _
  have elsewhere : ∀ {resolver}, s.resolver = resolver → resolver.notified = false →
      false = s.resolver.notified := fun was pending => was ▸ pending.symm
  cases transition with
  | futureReady r was => exact stutter (handoff_congr rfl rfl (elsewhere was rfl) rfl rfl)
  | creatorLock was free => exact stutter (handoff_congr rfl rfl rfl (by rw [was]; rfl) rfl)
  | creatorStore was =>
    have holding : s.handoff.role .creator = .holding := by
      simp only [State.handoff, State.role, was, CreatorPc.role]
    have alone : ∀ a, s.handoff.role a ≠ .asleep := none_asleep (fun t asleep => by
      rw [sound.unshared (by rw [was]; decide) t] at asleep
      contradiction)
    exact handoff_creator s .leaving true ▸ .giveBack s.handoff .creator holding alone
  | creatorUnlock was => exact stutter (handoff_congr rfl rfl rfl (by rw [was]; rfl) rfl)
  | resolverLock r was free => exact stutter (handoff_congr rfl rfl (elsewhere was rfl) rfl rfl)
  | setResult r was unset =>
    have eq : State.handoff { s with result := some r, resolver := .resultSet } =
        { s.handoff with resolved := true } := by
      simp only [State.handoff, was]
      rfl
    exact eq ▸ .resolve s.handoff (by simp [State.handoff, unset])
  | setTwice r was set => exact stutter (handoff_congr rfl rfl (elsewhere was rfl) rfl rfl)
  | readCallback was => exact stutter (handoff_congr rfl rfl (elsewhere was rfl) rfl rfl)
  | resolverUnlock callback was =>
    refine stutter (handoff_congr rfl rfl ?_ rfl rfl)
    cases callback <;> exact elsewhere was rfl
  | resolverInvoke callback was => exact stutter (handoff_congr rfl rfl (elsewhere was rfl) rfl rfl)
  | notifyAll was =>
    have eq : State.handoff { s with pc := fun t => (s.pc t).wake, resolver := .finished } =
        { s.handoff with notified := true, role := fun a => (s.handoff.role a).rouse } := by
      simp only [State.handoff, Handoff.mk.injEq, true_and]
      exact ⟨rfl, wake_roles s⟩
    exact eq ▸ .notifyAll s.handoff (by rw [State.handoff, sound.result, was]; rfl)
  | quiet t pc move => exact handoff_goto s t pc ▸ move.handoff_next sound rfl
  | callLock t pc free enter => exact handoff_goto _ t pc ▸ enter.handoff_next rfl
  | callUnlock t pc leave => exact handoff_goto _ t pc ▸ leave.handoff_next rfl
  | swapFirst t was free => exact goto_handoff_same (by rw [was]; rfl)
  | swapLater t was taken => exact goto_handoff_same (by rw [was]; rfl)
  | store t was free => exact goto_handoff_same (by rw [was]; rfl)
  | reject t was taken => exact goto_handoff_same (by rw [was]; rfl)
  | callInvoke t was => exact goto_handoff_same (by rw [was]; rfl)
  | take t was present =>
    have role : s.handoff.role (.call t) = .examining := congrArg CallPc.role was
    exact handoff_goto _ t _ ▸ .take s.handoff (.call t) role present
  | putBack t was alone =>
    have role : s.handoff.role (.call t) = .holding := congrArg CallPc.role was
    have awake : ∀ a, s.handoff.role a ≠ .asleep := none_asleep alone
    exact handoff_goto _ t _ ▸ .giveBack s.handoff (.call t) role awake
  | putBackNotify t u was sleeper =>
    have role : s.handoff.role (.call t) = .holding := congrArg CallPc.role was
    have asleep : s.handoff.role (.call u) = .asleep := congrArg CallPc.role sleeper
    rw [handoff_goto, handoff_goto]
    exact .handOver s.handoff (.call t) (.call u) role asleep

theorem Transition.unpanicked (transition : Transition futureKind kind s s') (sound : Sound s)
    (valid : s.handoff.Valid) (unpanicked : ∀ t, s.pc t ≠ .panicked) (t : T) :
    s'.pc t ≠ .panicked := by
  have goto (s : State T R) (t : T) (pc : CallPc R) (unpanicked : ∀ t, s.pc t ≠ .panicked)
      (moved : pc ≠ .panicked) : ∀ u, (s.goto t pc).pc u ≠ .panicked :=
    goto_all s t pc (P := fun _ pc => pc ≠ .panicked) unpanicked moved
  cases transition with
  | notifyAll was => exact wake_unpanicked (unpanicked t)
  | quiet u pc move => exact goto s u pc unpanicked (move.unpanicked sound valid rfl) t
  | callLock u pc free enter => exact goto _ u pc unpanicked enter.unpanicked t
  | callUnlock u pc leave => exact goto _ u pc unpanicked leave.unpanicked t
  | putBackNotify u v was sleeper =>
    have woken := goto { s with joinHandle := true } v .waking unpanicked (by simp)
    exact goto _ u _ woken (by simp) t
  | swapFirst u was | swapLater u was | store u was | reject u was | callInvoke u was
  | take u was | putBack u was => exact goto _ u _ unpanicked (by simp) t
  | _ => exact unpanicked t

variable [Fintype T]

theorem run_handoff_valid {events : List (Event T R)}
    (ran : run (step futureKind kind) (initial futureKind) events = some s) :
    Sound s ∧ s.handoff.Valid ∧ ∀ t, s.pc t ≠ .panicked := by
  have keeps : ∀ (s : State T R) event s',
      Sound s ∧ s.handoff.Valid ∧ (∀ t, s.pc t ≠ .panicked) →
      step futureKind kind s event = some s' →
      Sound s' ∧ s'.handoff.Valid ∧ ∀ t, s'.pc t ≠ .panicked := by
    rintro s event s' ⟨sound, valid, unpanicked⟩ stepped
    have transition := step_transition stepped
    exact ⟨transition.sound sound, (transition.handoff_next sound).valid valid,
      transition.unpanicked sound valid unpanicked⟩
  have start : ∀ t, (initial futureKind : State T R).pc t ≠ .panicked := by
    intro t; cases futureKind <;> exact fun eq => by contradiction
  exact run_invariant keeps ⟨initial_sound futureKind, initial_handoff_valid futureKind, start⟩ ran

/-- No waiter on a future is stranded, for any interleaving, timeouts and spurious
wakeups. At most one agent has the handle; a sleeper on an unset result is covered
by a holder, or by a thread that examines the returned handle and goes on until it
is taken; a sleeper on a set result is covered by a `notify_all` still to come; and
the result is there whenever the handle has been awaited. -/
theorem no_waiter_stranded (futureKind : FutureKind R) (kind : T → CallKind)
    (events : List (Event T R)) (s : State T R)
    (ran : run (step futureKind kind) (initial futureKind) events = some s) :
    (∀ a b, s.role a = .holding → s.role b = .holding → a = b ∧ s.joinHandle = false) ∧
    (∀ t, s.pc t = .asleep → s.result = none →
      (∃ u, (s.pc u).role = .holding) ∨
      (s.joinHandle = true ∧ ∃ u, (s.pc u).role = .examining)) ∧
    (∀ t event s', step futureKind kind s event = some s' → s.result = none →
      s.joinHandle = true → (s.pc t).role = .examining →
      (s'.pc t).role = .examining ∨ (s'.pc t).role = .holding) ∧
    (∀ t, s.pc t = .asleep → s.result.isSome = true → s.resolver.willNotify = true) ∧
    (∀ t, s.pc t = .unwrapping → s.result.isSome = true) ∧
    (∀ t, s.pc t ≠ .panicked) := by
  obtain ⟨sound, valid, unpanicked⟩ := run_handoff_valid ran
  refine ⟨?_, ?_, ?_, ?_, ?_, unpanicked⟩
  · exact fun a b ha hb => ⟨valid.single a b ha hb, valid.kept a ha⟩
  · intro t asleep unset
    have unresolved : s.handoff.resolved = false := by simp [State.handoff, unset]
    rcases valid.present unresolved with free | ⟨a, holding⟩
    · obtain ⟨b, examining⟩ := valid.covered unresolved free ⟨.call t, congrArg CallPc.role asleep⟩
      exact .inr ⟨free, role_examining examining⟩
    · exact .inl (sound.role_holding (by rw [asleep]; simp) holding)
  · intro t event s' stepped unset free examining
    have unresolved : s.handoff.resolved = false := by simp [State.handoff, unset]
    have next := (step_transition stepped).handoff_next sound
    exact next.examiner (a := .call t) unresolved free examining
  · intro t asleep set
    have pending := valid.noticed (.call t) (congrArg CallPc.role asleep) set
    exact willNotify_of_resolved (sound.result ▸ set) sound.running pending
  · exact fun t was => valid.joined (.call t) (congrArg CallPc.role was)

end Runs

/- Two timed calls and one without a timeout; the first holds the handle when its
deadline passes and wakes the last, while the second sleeps on. -/
def handOverKind : Fin 3 → CallKind
  | 2 => .wait
  | _ => .waitTimed

def handOverRun : List (Event (Fin 3) Nat) :=
  [.creator, .creator, .creator,
   .call 0, .call 0, .deadline 0, .call 0, .call 0, .call 0,
   .call 1, .call 1, .deadline 1, .call 1, .call 1, .call 1,
   .call 2, .call 2, .call 2, .call 2, .call 2,
   .timeout 0, .call 0, .putBack 0 (some 2)]

theorem no_waiter_stranded_handOver :
    ∃ s, run (step .resolvable handOverKind) (initial .resolvable) handOverRun = some s ∧
      s.pc 1 = .asleep ∧ s.joinHandle = true ∧
      ((∃ u, (s.pc u).role = .holding) ∨
        (s.joinHandle = true ∧ ∃ u, (s.pc u).role = .examining)) :=
  ⟨_, rfl, rfl, rfl,
    (no_waiter_stranded .resolvable handOverKind handOverRun _ rfl).2.1 1 rfl rfl⟩

end CppRsDriver.Future
