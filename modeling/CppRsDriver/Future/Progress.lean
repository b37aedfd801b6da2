import CppRsDriver.Future.Waiters
import CppRsDriver.Lib.Potential

/-! Every call on a future comes to an end. A step brings its agent closer to the end of
its way, except that a sleeper may be woken; `notify_one` and `notify_all` wake sleepers at
the cost of the agent that calls them, and only wakeups out of the blue and timeouts are
free. Where nothing but these is left to happen, no call is under way. -/
namespace CppRsDriver.Future

open CppRsDriver.Lib

variable {T R : Type}

section Ranks

def CreatorPc.rank : CreatorPc → Nat
  | .spawned => 3
  | .storing => 2
  | .leaving => 1
  | .published => 0

/- `notify_all` may wake each of the calls. -/
def ResolverPc.rank (calls : Nat) : ResolverPc T R → Nat
  | .awaiting => 7 + 2 * calls
  | .ready _ => 6 + 2 * calls
  | .locked _ => 5 + 2 * calls
  | .resultSet => 4 + 2 * calls
  | .leaving _ => 3 + 2 * calls
  | .invoking _ => 2 + 2 * calls
  | .notifying => 1 + 2 * calls
  | .finished | .panicked => 0

/-- The steps a call has yet to make at most. A thread that finds the result or the handle
under the lock will not go to sleep again. -/
def CallPc.rank (resolved free : Bool) : CallPc R → Nat
  | .notStarted => 15
  | .locking => 14
  | .computing => 13
  | .looking => if resolved || free then 9 else 12
  | .taking => if free then 8 else 11
  | .waking => 11
  | .testing => 10
  | .asleep => 9
  | .dropping => 7
  | .blocked => 6
  | .timedOut => 5
  -- waking one sleeper is paid for here
  | .puttingBack => 4
  | .cbLocking => 5
  | .cbChecking => 4
  | .cbStored => 3
  | .cbLeaving _ | .cbSwapping => 2
  | .cbRejecting | .cbInvoking | .unwrapping | .exiting _ => 1
  | .cbReturned _ | .returned _ | .panicked => 0

def CallPc.isReturned : CallPc R → Bool
  | .cbReturned _ | .returned _ => true
  | _ => false

def State.share (s : State T R) (t : T) : Nat := (s.pc t).rank s.result.isSome s.joinHandle

def State.potential [Fintype T] (s : State T R) : Nat :=
  s.creator.rank + s.resolver.rank (Fintype.card T) + ∑ t, s.share t

/-- Wakeups that no agent has caused, and deadlines. -/
def Event.isWakeup : Event T R → Bool
  | .timeout _ | .spurious _ => true
  | _ => false

theorem CallPc.rank_le (pc : CallPc R) (resolved free : Bool) : pc.rank resolved free ≤ 15 := by
  cases pc <;> simp only [CallPc.rank] <;> first | omega | (split <;> omega)

theorem CallPc.rank_mono (pc : CallPc R) {resolved free resolved' free' : Bool}
    (result : resolved = true → resolved' = true) (handle : free = true → free' = true) :
    pc.rank resolved' free' ≤ pc.rank resolved free := by
  cases pc <;> cases resolved <;> cases free <;> cases resolved' <;> cases free' <;>
    simp_all [CallPc.rank]

/- A thread outside the lock reads neither the result nor the handle. -/
theorem CallPc.rank_outside {pc : CallPc R} (outside : pc.holdsLock = false)
    (resolved free resolved' free' : Bool) :
    pc.rank resolved' free' = pc.rank resolved free := by
  cases pc <;> first | rfl | contradiction

theorem wake_rank_le (pc : CallPc R) (resolved free : Bool) :
    pc.wake.rank resolved free ≤ pc.rank resolved free + 2 := by
  cases pc <;> simp [CallPc.wake, CallPc.isAsleep, CallPc.rank]

theorem Enter.rank_lt {pc pc' : CallPc R} (enter : Enter pc pc') (resolved free : Bool) :
    pc'.rank resolved free + 1 ≤ pc.rank resolved free := by
  cases enter <;> cases resolved <;> cases free <;> simp [CallPc.rank]

theorem Leave.rank_lt {s : State T R} {pc pc' : CallPc R} (leave : Leave s pc pc')
    (resolved free : Bool) : pc'.rank resolved free + 1 ≤ pc.rank resolved free := by
  cases leave <;> simp [CallPc.rank]

theorem QuietMove.rank_lt {futureKind : FutureKind R} {kind : CallKind} {s : State T R}
    {pc pc' : CallPc R} (move : QuietMove futureKind kind s pc pc')
    (awake : ¬ (pc = .asleep ∧ pc' = .waking)) :
    pc'.rank s.result.isSome s.joinHandle + 1 ≤ pc.rank s.result.isSome s.joinHandle := by
  cases move with
  | wake => exact absurd ⟨rfl, rfl⟩ awake
  | retest changed => rcases changed with set | present <;> simp [CallPc.rank, *]
  | unset unset => cases handle : s.joinHandle <;> simp [CallPc.rank, unset]
  | missing gone => simp [CallPc.rank, gone]
  | found r set => simp [CallPc.rank, set]
  | deadline => cases s.result.isSome <;> cases s.joinHandle <;> simp [CallPc.rank]
  | _ => simp [CallPc.rank]

end Ranks

section Shares
variable {s : State T R}

theorem free_share (s : State T R) (u : T) :
    State.share { s with joinHandle := true } u ≤ s.share u :=
  CallPc.rank_mono (s.pc u) id (fun _ => rfl)

theorem potential_lt [Fintype T] {s' : State T R} (each : ∀ u, s'.share u ≤ s.share u)
    (ranks : s'.creator.rank + s'.resolver.rank (Fintype.card T) + 1 ≤
      s.creator.rank + s.resolver.rank (Fintype.card T)) :
    s'.potential + 1 ≤ s.potential := by
  have shares := Finset.sum_le_sum (fun u (_ : u ∈ Finset.univ) => each u)
  simp only [State.potential]
  omega

theorem notifyAll_potential [Fintype T] (was : s.resolver = .notifying) :
    State.potential { s with pc := fun t => (s.pc t).wake, resolver := .finished } + 1 ≤
      s.potential := by
  have each : ∀ u, State.share { s with pc := fun t => (s.pc t).wake, resolver := .finished } u ≤
      s.share u + 2 := fun u => wake_rank_le (s.pc u) _ _
  have shares := sum_share_le_card each
  simp only [State.potential, was, ResolverPc.rank]
  omega

variable [DecidableEq T]

theorem goto_share (s : State T R) (t : T) (pc : CallPc R) :
    (s.goto t pc).share t = pc.rank s.result.isSome s.joinHandle := by
  rw [State.share, goto_pc, if_pos rfl]; rfl

theorem goto_share_ne (s : State T R) {t u : T} (pc : CallPc R) (ne : u ≠ t) :
    (s.goto t pc).share u = s.share u := by
  rw [State.share, goto_pc, if_neg ne]; rfl

omit [DecidableEq T] in
/- Nobody else is at the handle while a call takes it. -/
theorem take_share (sound : Sound s) {t u : T} (was : s.pc t = .taking) (ne : u ≠ t) :
    State.share { s with joinHandle := false } u = s.share u := by
  have held : s.inside (.call t) = true := by simp only [State.inside, was, CallPc.holdsLock]
  have outside : (s.pc u).holdsLock = false := by
    by_contra inside
    have same := sound.alone (eq_true_of_ne_false inside : s.inside (.call u) = true) held
    exact ne (Agent.call.inj same)
  exact CallPc.rank_outside outside _ _ _ _

end Shares

section Steps
variable [Fintype T] [DecidableEq T] {futureKind : FutureKind R} {kind : T → CallKind}
  {s s' : State T R}

theorem potential_le (t : T) (paid gained : Nat) (creator : s'.creator = s.creator)
    (resolver : s'.resolver = s.resolver) (own : s'.share t + paid ≤ s.share t + gained)
    (others : ∀ u, u ≠ t → s'.share u ≤ s.share u) :
    s'.potential + paid ≤ s.potential + gained := by
  have shares := sum_share_le t own others
  simp only [State.potential, creator, resolver]
  omega

theorem goto_potential (s : State T R) (t : T) (pc : CallPc R) (paid gained : Nat)
    (own : pc.rank s.result.isSome s.joinHandle + paid ≤ s.share t + gained) :
    (s.goto t pc).potential + paid ≤ s.potential + gained :=
  potential_le t paid gained rfl rfl (by rw [goto_share]; exact own)
    (fun _ ne => le_of_eq (goto_share_ne s pc ne))

theorem wake_potential (t : T) (asleep : s.pc t = .asleep) :
    (s.goto t .waking).potential ≤ s.potential + 2 :=
  goto_potential s t .waking 0 2 (by rw [State.share, asleep]; exact le_rfl)

omit [DecidableEq T] in
theorem free_potential (s : State T R) : State.potential { s with joinHandle := true } ≤ s.potential := by
  have shares := Finset.sum_le_sum (fun u (_ : u ∈ Finset.univ) => free_share s u)
  simp only [State.potential]
  omega

theorem putBackNotify_potential {t u : T} (was : s.pc t = .puttingBack)
    (sleeper : s.pc u = .asleep) :
    (({ s with joinHandle := true }.goto u .waking).goto t (.exiting .timeoutError)).potential + 1 ≤
      s.potential := by
  have ne : t ≠ u := by
    rintro rfl
    rw [was] at sleeper
    contradiction
  have freed := free_potential s
  have woken := wake_potential (s := { s with joinHandle := true }) u sleeper
  have left := goto_potential ({ s with joinHandle := true }.goto u .waking) t
    (.exiting .timeoutError) 3 0 (by rw [goto_share_ne _ _ ne, State.share, was]; exact le_rfl)
  omega

/-- Every step but the wakeup of one sleeper lowers the potential. -/
theorem Transition.potential_lt (transition : Transition futureKind kind s s') (sound : Sound s)
    (awake : ∀ t, s.pc t = .asleep → s' ≠ s.goto t .waking) : s'.potential + 1 ≤ s.potential := by
  have unmoved : ∀ u, s.share u ≤ s.share u := fun _ => le_rfl
  cases transition with
  | futureReady r was | resolverLock r was | setTwice r was | readCallback was
  | resolverInvoke callback was =>
    refine Future.potential_lt unmoved ?_
    simp only [was, ResolverPc.rank]
    omega
  | resolverUnlock callback was =>
    refine Future.potential_lt unmoved ?_
    cases callback <;> simp only [was, ResolverPc.rank, Option.elim] <;> omega
  | setResult r was unset =>
    refine Future.potential_lt (fun u => CallPc.rank_mono (s.pc u) (fun _ => rfl) id) ?_
    simp only [was, ResolverPc.rank]
    omega
  | creatorLock was | creatorUnlock was =>
    refine Future.potential_lt unmoved ?_
    simp only [was, CreatorPc.rank]
    omega
  | creatorStore was =>
    refine Future.potential_lt (free_share s) ?_
    simp only [was, CreatorPc.rank]
    omega
  | notifyAll was => exact notifyAll_potential was
  | quiet t pc move =>
    refine goto_potential s t pc 1 0 (move.rank_lt ?_)
    rintro ⟨asleep, waking⟩
    exact awake t asleep (by rw [waking])
  | callLock t pc free enter =>
    exact goto_potential { s with owner := some (.call t) } t pc 1 0 (enter.rank_lt _ _)
  | callUnlock t pc leave =>
    exact goto_potential { s with owner := none } t pc 1 0 (leave.rank_lt _ _)
  | take t was present =>
    refine potential_le t 1 0 rfl rfl ?_ (fun u ne => ?_)
    · rw [goto_share, State.share, was]
      simp [CallPc.rank, present]
    · rw [goto_share_ne _ _ ne, take_share sound was ne]
  | putBack t was alone =>
    have freed := free_potential s
    have left := goto_potential { s with joinHandle := true } t (.exiting .timeoutError) 1 0
      (by rw [State.share, was]; simp [CallPc.rank])
    omega
  | putBackNotify t u was sleeper => exact putBackNotify_potential was sleeper
  | swapFirst t was | swapLater t was | store t was | reject t was | callInvoke t was =>
    refine potential_le t 1 0 rfl rfl ?_ (fun u ne => le_of_eq (goto_share_ne _ _ ne))
    rw [goto_share, State.share, was]
    simp [CallPc.rank]

omit [Fintype T] [DecidableEq T] in
theorem creatorStep_moves (stepped : creatorStep s = some s') : s'.creator ≠ s.creator := by
  unfold creatorStep at stepped
  split at stepped
  · rename_i was
    obtain ⟨_, rfl⟩ := lockFor_map stepped
    rw [was]
    exact fun eq => by contradiction
  · rename_i was; cases Option.some.inj stepped; rw [was]; exact fun eq => by contradiction
  · rename_i was; cases Option.some.inj stepped; rw [was]; exact fun eq => by contradiction
  · contradiction

omit [Fintype T] [DecidableEq T] in
theorem resolverStep_moves (stepped : resolverStep s = some s') : s'.resolver ≠ s.resolver := by
  unfold resolverStep at stepped
  cases was : s.resolver <;> simp only [was, reduceCtorEq] at stepped
  case ready r =>
    obtain ⟨_, rfl⟩ := lockFor_map stepped
    exact fun eq => by contradiction
  case locked r =>
    split at stepped <;> cases Option.some.inj stepped <;> exact fun eq => by contradiction
  case leaving callback =>
    cases callback <;> cases Option.some.inj stepped <;> exact fun eq => by contradiction
  all_goals
    cases Option.some.inj stepped
    exact fun eq => by contradiction

theorem putBackStep_moves {t : T} {woken : Option T} (stepped : putBackStep s t woken = some s') :
    s.pc t = .puttingBack ∧ s'.pc t = .exiting .timeoutError := by
  unfold putBackStep at stepped
  split at stepped
  · rename_i was
    split at stepped
    · cases Option.some.inj stepped
      exact ⟨was, by rw [goto_pc, if_pos rfl]⟩
    · contradiction
  · rename_i was
    split at stepped
    · cases Option.some.inj stepped
      exact ⟨was, by rw [goto_pc, if_pos rfl]⟩
    · contradiction
  · contradiction

theorem woken_by_wakeup {event : Event T R} (stepped : step futureKind kind s event = some s') {t : T}
    (asleep : s.pc t = .asleep) (woken : s' = s.goto t .waking) : event.isWakeup = true := by
  have moved : s'.pc t ≠ s.pc t := by
    rw [woken, goto_pc, if_pos rfl, asleep]
    exact fun eq => by contradiction
  have creator : s'.creator = s.creator := by rw [woken]; rfl
  have resolver : s'.resolver = s.resolver := by rw [woken]; rfl
  have others : ∀ u, s.pc u ≠ .asleep → s'.pc u = s.pc u := by
    intro u awake
    have ne : u ≠ t := fun eq => awake (eq ▸ asleep)
    rw [woken, goto_pc, if_neg ne]
  cases event with
  | timeout u => rfl
  | spurious u => rfl
  | futureReady r =>
    simp only [step] at stepped
    split at stepped
    · rename_i was
      cases Option.some.inj stepped
      rw [was] at resolver
      contradiction
    · contradiction
  | creator => exact absurd creator (creatorStep_moves stepped)
  | resolver => exact absurd resolver (resolverStep_moves stepped)
  | call u =>
    by_cases eq : t = u
    · subst eq
      simp only [step, callStep, asleep] at stepped
      contradiction
    · exact absurd ((callStep_frame stepped).others t eq) moved
  | deadline u | invalidDeadline u =>
    simp only [step] at stepped
    split at stepped
    · rename_i was
      cases Option.some.inj stepped
      have kept := others u (by rw [was]; exact fun eq => by contradiction)
      rw [goto_pc, if_pos rfl, was] at kept
      contradiction
    · contradiction
  | putBack u notified =>
    obtain ⟨was, left⟩ := putBackStep_moves stepped
    have kept := others u (by rw [was]; exact fun eq => by contradiction)
    rw [was, left] at kept
    contradiction

def Event.refund (event : Event T R) : Nat := if event.isWakeup then 3 else 0

theorem step_potential {event : Event T R} (sound : Sound s)
    (stepped : step futureKind kind s event = some s') :
    s'.potential + 1 ≤ s.potential + event.refund := by
  by_cases woken : ∃ t, s.pc t = .asleep ∧ s' = s.goto t .waking
  · obtain ⟨t, asleep, eq⟩ := woken
    have bound := wake_potential t asleep
    rw [Event.refund, if_pos (woken_by_wakeup stepped asleep eq), eq]
    omega
  · have lower := (step_transition stepped).potential_lt sound
      (fun t asleep eq => woken ⟨t, asleep, eq⟩)
    omega

omit [DecidableEq T] in
theorem initial_potential (futureKind : FutureKind R) :
    (initial futureKind : State T R).potential ≤ 10 + 17 * Fintype.card T := by
  have shares := Finset.sum_le_sum (fun t (_ : t ∈ Finset.univ) =>
    CallPc.rank_le ((initial futureKind : State T R).pc t)
      (initial futureKind : State T R).result.isSome (initial futureKind : State T R).joinHandle)
  rw [Finset.sum_const, Finset.card_univ, smul_eq_mul] at shares
  have ranks : (initial futureKind : State T R).creator.rank +
      (initial futureKind : State T R).resolver.rank (Fintype.card T) ≤
        10 + 2 * Fintype.card T := by
    cases futureKind <;> simp only [initial, newFromFuture, newReady, CreatorPc.rank,
      ResolverPc.rank] <;> omega
  simp only [State.potential, State.share]
  omega

omit [Fintype T] [DecidableEq T] in
theorem refunds_sum (events : List (Event T R)) :
    (events.map Event.refund).sum = 3 * events.countP Event.isWakeup := by
  induction events with
  | nil => rfl
  | cons event rest ih =>
    rw [List.map_cons, List.sum_cons, ih, List.countP_cons, Event.refund]
    split <;> omega

end Steps

section Quiescence
variable [Fintype T] [DecidableEq T] {futureKind : FutureKind R} {kind : T → CallKind}
  {s : State T R}

/-- Nothing can happen any more, wakeups and deadlines apart. -/
def Quiescent (futureKind : FutureKind R) (kind : T → CallKind) (s : State T R) : Prop :=
  ∀ event, event.isWakeup = false → step futureKind kind s event = none

theorem Quiescent.call (quiescent : Quiescent futureKind kind s) (t : T) :
    callStep futureKind (kind t) s t = none :=
  quiescent (.call t) rfl

/- A sleeper is there to be notified, or there is none. -/
theorem Quiescent.not_puttingBack (quiescent : Quiescent futureKind kind s) (t : T) :
    s.pc t ≠ .puttingBack := by
  intro was
  by_cases sleeper : ∃ u, (s.pc u).isAsleep = true
  · obtain ⟨u, asleep⟩ := sleeper
    have stuck := quiescent (.putBack t (some u)) rfl
    simp only [step, putBackStep, was, asleep, if_true] at stuck
    contradiction
  · have awake : ∀ u, (s.pc u).isAsleep = false := by
      intro u
      exact eq_false_of_ne_true (fun asleep => sleeper ⟨u, asleep⟩)
    have stuck := quiescent (.putBack t none) rfl
    simp only [step, putBackStep, was, if_pos awake] at stuck
    contradiction

theorem Quiescent.not_computing (quiescent : Quiescent futureKind kind s) (t : T) :
    s.pc t ≠ .computing := by
  intro was
  have stuck := quiescent (.deadline t) rfl
  simp only [step, was] at stuck
  contradiction

theorem Quiescent.unlocked (quiescent : Quiescent futureKind kind s) (sound : Sound s) :
    s.owner = none := by
  cases held : s.owner with
  | none => rfl
  | some a =>
    have inside : s.inside a = true := (sound.exclusive a).mpr held
    cases a with
    | creator =>
      have stuck : creatorStep s = none := quiescent .creator rfl
      cases was : s.creator <;> simp_all [State.inside, CreatorPc.holdsLock, creatorStep]
    | resolver =>
      have stuck : resolverStep s = none := quiescent .resolver rfl
      have running := sound.running
      cases was : s.resolver with
      | locked r => cases set : s.result <;> simp_all [resolverStep]
      | leaving callback => cases callback <;> simp_all [resolverStep]
      | _ => simp_all [State.inside, ResolverPc.holdsLock, resolverStep]
    | call t =>
      have stuck := quiescent.call t
      have held := quiescent.not_puttingBack t
      have computed := quiescent.not_computing t
      cases was : s.pc t with
      | cbLeaving shouldInvokeCallback => cases shouldInvokeCallback <;> simp_all [callStep]
      | cbChecking => cases stored : s.callback <;> simp_all [callStep]
      | looking => cases set : s.result <;> simp_all [callStep]
      | taking => cases handle : s.joinHandle <;> simp_all [callStep]
      | testing => cases set : s.result <;> cases handle : s.joinHandle <;> simp_all [callStep]
      | _ => simp_all [State.inside, CallPc.holdsLock, callStep]

theorem Quiescent.published (quiescent : Quiescent futureKind kind s) (sound : Sound s) :
    s.creator = .published := by
  have free := quiescent.unlocked sound
  have stuck : creatorStep s = none := quiescent .creator rfl
  cases was : s.creator <;> simp_all [creatorStep, lockFor]

theorem Quiescent.finished (quiescent : Quiescent futureKind kind s) (sound : Sound s)
    (resolving : s.resolver ≠ .awaiting) : s.resolver = .finished := by
  have free := quiescent.unlocked sound
  have stuck : resolverStep s = none := quiescent .resolver rfl
  have running := sound.running
  cases was : s.resolver with
  | locked r => cases set : s.result <;> simp_all [resolverStep]
  | leaving callback => cases callback <;> simp_all [resolverStep]
  | _ => simp_all [resolverStep, lockFor]

omit [Fintype T] in
theorem startCall_enabled {call : CallKind} {t : T} (published : s.creator = .published) :
    startCall futureKind call s t ≠ none := by
  simp only [startCall, published, if_true]
  cases call with
  | setCallback null => cases null <;> cases futureKind <;> exact Option.some_ne_none _
  | wait | waitTimed => cases s.result <;> exact Option.some_ne_none _

/-- At rest, every call on a future that is being resolved has returned. -/
theorem Quiescent.returned (quiescent : Quiescent futureKind kind s) (sound : Sound s)
    (valid : s.handoff.Valid) (unpanicked : ∀ t, s.pc t ≠ .panicked)
    (resolving : s.resolver ≠ .awaiting) (t : T) : (s.pc t).isReturned = true := by
  have free := quiescent.unlocked sound
  have finished := quiescent.finished sound resolving
  have published := quiescent.published sound
  have stuck := quiescent.call t
  cases was : s.pc t with
  | cbReturned | returned => rfl
  | panicked => exact absurd was (unpanicked t)
  | asleep =>
    -- the task has notified everybody
    have set : s.result.isSome = true := by rw [sound.result, finished]; rfl
    have pending : s.resolver.notified = false :=
      valid.noticed (.call t) (congrArg CallPc.role was) set
    rw [finished] at pending
    contradiction
  | notStarted => simp only [callStep, was, startCall_enabled published] at stuck
  | cbSwapping | unwrapping =>
    simp only [callStep, was] at stuck
    split at stuck <;> contradiction
  | _ =>
    have outside : (s.pc t).holdsLock ≠ true := fun inside => by
      have held := (sound.exclusive (.call t)).mp inside
      rw [free] at held
      contradiction
    simp_all [callStep, lockFor, CallPc.holdsLock]

omit [Fintype T] in
theorem Transition.resolving {s' : State T R} (transition : Transition futureKind kind s s')
    (resolving : s.resolver ≠ .awaiting) : s'.resolver ≠ .awaiting := by
  cases transition with
  | resolverUnlock callback was => cases callback <;> exact fun eq => by contradiction
  | futureReady r was => exact fun eq => by contradiction
  | _ => first | exact resolving | exact fun eq => by contradiction

/- Without wakeups the potential sinks, so a run comes to rest. -/
theorem run_to_end (futureKind : FutureKind R) (kind : T → CallKind) {events : List (Event T R)}
    (ran : run (step futureKind kind) (initial futureKind) events = some s)
    (resolving : s.resolver ≠ .awaiting) :
    ∃ more final, (∀ event ∈ more, event.isWakeup = false) ∧
      run (step futureKind kind) s more = some final ∧ ∀ t, (final.pc t).isReturned = true := by
  have keeps : ∀ (s : State T R) event s', Sound s → step futureKind kind s event = some s' →
      Sound s' := fun s event s' sound stepped => (step_transition stepped).sound sound
  obtain ⟨more, final, kinds, went, rest⟩ :=
    run_to_rest (fun event => event.isWakeup = false) keeps
      (fun s event s' sound still stepped => by
        have lower := step_potential sound stepped
        rw [Event.refund, still] at lower
        exact lower) s (run_handoff_valid ran).1
  refine ⟨more, final, kinds, went, ?_⟩
  have whole : run (step futureKind kind) (initial futureKind) (events ++ more) = some final := by
    rw [run_append, ran]
    exact went
  obtain ⟨sound, valid, unpanicked⟩ := run_handoff_valid whole
  have goes : ∀ (s : State T R) event s', s.resolver ≠ .awaiting →
      step futureKind kind s event = some s' → s'.resolver ≠ .awaiting :=
    fun s event s' resolving stepped => (step_transition stepped).resolving resolving
  exact Quiescent.returned rest sound valid unpanicked (run_invariant goes resolving went)

/-- Every call on a future returns, for any interleaving with the task, with other calls,
timeouts and spurious wakeups. A run is as long as a number that only the wakeups can add
to; once the task has its result, the calls can all be brought to their end, and they have
all come to it wherever nothing but a wakeup can happen. Before that, whatever result the task
comes to, they can be brought to their end after it. -/
theorem every_call_returns (futureKind : FutureKind R) (kind : T → CallKind)
    (events : List (Event T R)) (s : State T R)
    (ran : run (step futureKind kind) (initial futureKind) events = some s) :
    events.length ≤ 10 + 17 * Fintype.card T + 3 * events.countP Event.isWakeup ∧
    (s.resolver ≠ .awaiting →
      (Quiescent futureKind kind s → ∀ t, (s.pc t).isReturned = true) ∧
      ∃ more final, (∀ event ∈ more, event.isWakeup = false) ∧
        run (step futureKind kind) s more = some final ∧ ∀ t, (final.pc t).isReturned = true) ∧
    (s.resolver = .awaiting → ∀ r, ∃ more final, (∀ event ∈ more, event.isWakeup = false) ∧
      run (step futureKind kind) s (.futureReady r :: more) = some final ∧
        ∀ t, (final.pc t).isReturned = true) := by
  refine ⟨?_, fun resolving => ⟨fun quiescent => ?_, run_to_end futureKind kind ran resolving⟩,
    fun awaiting r => ?_⟩
  · have bound := run_potential
      (fun s event s' sound stepped => (step_transition stepped).sound sound)
      (fun s event s' sound stepped => step_potential sound stepped) (initial_sound futureKind) ran
    have start := initial_potential (T := T) futureKind
    rw [refunds_sum] at bound
    omega
  · obtain ⟨sound, valid, unpanicked⟩ := run_handoff_valid ran
    exact quiescent.returned sound valid unpanicked resolving
  · have ready : step futureKind kind s (.futureReady r) = some { s with resolver := .ready r } := by
      simp only [step, awaiting]
    have further : run (step futureKind kind) (initial futureKind) (events ++ [.futureReady r]) =
        some { s with resolver := .ready r } := by
      rw [run_append, ran]
      exact run_cons_some.mpr ⟨_, ready, rfl⟩
    obtain ⟨more, final, kinds, went, returned⟩ :=
      run_to_end futureKind kind further (fun eq => by contradiction)
    exact ⟨more, final, kinds, run_cons_some.mpr ⟨_, ready, went⟩, returned⟩

/- The task has its result while one call sleeps, one has just been woken and one has timed
out. -/
theorem every_call_returns_handOver :
    ∃ s, run (step .resolvable handOverKind) (initial .resolvable)
        (handOverRun ++ [.futureReady 7]) = some s ∧
      s.pc 1 = .asleep ∧ ∃ more final, run (step .resolvable handOverKind) s more = some final ∧
        ∀ t, (final.pc t).isReturned = true := by
  have seen : (run (step .resolvable handOverKind) (initial .resolvable)
      (handOverRun ++ [.futureReady 7])).map (fun s => (s.pc 1, s.resolver)) =
        some (.asleep, .ready 7) := by decide
  obtain ⟨s, ran, is⟩ := Option.map_eq_some_iff.mp seen
  obtain ⟨asleep, ready⟩ := Prod.mk.inj is
  have resolving : s.resolver ≠ .awaiting := by rw [ready]; exact fun eq => by contradiction
  obtain ⟨more, final, _, went, returned⟩ :=
    ((every_call_returns .resolvable handOverKind (handOverRun ++ [.futureReady 7]) s ran).2.1
      resolving).2
  exact ⟨s, ran, asleep, more, final, went, returned⟩

end Quiescence

end CppRsDriver.Future
