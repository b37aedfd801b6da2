import CppRsDriver.Future.Transition
import CppRsDriver.Lib.Mutex

/-! The mutex of the future, and the result it protects while it is being set. -/
namespace CppRsDriver.Future

open CppRsDriver.Lib

variable {T R : Type}

def CreatorPc.holdsLock : CreatorPc → Bool
  | .storing | .leaving => true
  | _ => false

-- a task that panics under the lock never gives it up
def ResolverPc.holdsLock : ResolverPc T R → Bool
  | .locked _ | .resultSet | .leaving _ | .panicked => true
  | _ => false

def CallPc.holdsLock : CallPc R → Bool
  | .cbChecking | .cbRejecting | .cbStored | .cbLeaving _ => true
  | .computing | .looking | .taking | .dropping | .puttingBack | .testing | .exiting _ => true
  | _ => false

def State.inside (s : State T R) : Agent T → Bool
  | .creator => s.creator.holdsLock
  | .resolver => s.resolver.holdsLock
  | .call t => (s.pc t).holdsLock

theorem inside_congr {s s' : State T R} (creator : s'.creator.holdsLock = s.creator.holdsLock)
    (resolver : s'.resolver.holdsLock = s.resolver.holdsLock)
    (pc : ∀ t, (s'.pc t).holdsLock = (s.pc t).holdsLock) (a : Agent T) :
    s'.inside a = s.inside a := by
  cases a with
  | creator => exact creator
  | resolver => exact resolver
  | call t => exact pc t

theorem inside_creator_ne {s s' : State T R} (resolver : s'.resolver = s.resolver)
    (pc : s'.pc = s.pc) (a : Agent T) (ne : a ≠ .creator) : s'.inside a = s.inside a := by
  cases a with
  | creator => contradiction
  | resolver => exact congrArg ResolverPc.holdsLock resolver
  | call t => exact congrArg CallPc.holdsLock (congrFun pc t)

theorem inside_resolver_ne {s s' : State T R} (creator : s'.creator = s.creator)
    (pc : s'.pc = s.pc) (a : Agent T) (ne : a ≠ .resolver) : s'.inside a = s.inside a := by
  cases a with
  | creator => exact congrArg CreatorPc.holdsLock creator
  | resolver => contradiction
  | call t => exact congrArg CallPc.holdsLock (congrFun pc t)

theorem QuietMove.holdsLock_eq {futureKind : FutureKind R} {kind : CallKind} {s : State T R}
    {pc pc' : CallPc R} (move : QuietMove futureKind kind s pc pc') :
    pc'.holdsLock = pc.holdsLock := by
  cases move <;> rfl

theorem Enter.holdsLock_eq {pc pc' : CallPc R} (enter : Enter pc pc') : pc'.holdsLock = true := by
  cases enter <;> rfl

theorem Leave.holdsLock_eq {s : State T R} {pc pc' : CallPc R} (leave : Leave s pc pc') :
    pc.holdsLock = true ∧ pc'.holdsLock = false := by
  cases leave <;> exact ⟨rfl, rfl⟩

theorem wake_holdsLock (pc : CallPc R) : pc.wake.holdsLock = pc.holdsLock := by
  cases pc <;> rfl

/-- The task has set the result. -/
def ResolverPc.resolved : ResolverPc T R → Bool
  | .awaiting | .ready _ | .locked _ => false
  | _ => true

/-- What holds at every point of a run, whatever the calls are. -/
structure Sound (s : State T R) : Prop where
  exclusive : Exclusive s.owner s.inside
  result : s.result.isSome = s.resolver.resolved
  running : s.resolver ≠ .panicked
  unshared : s.creator ≠ .published → ∀ t, s.pc t = .notStarted

theorem Sound.alone {s : State T R} (sound : Sound s) {a b : Agent T} (ina : s.inside a = true)
    (inb : s.inside b = true) : a = b :=
  sound.exclusive.unique ina inb

theorem initial_sound (futureKind : FutureKind R) : Sound (initial futureKind : State T R) := by
  cases futureKind with
  | resolvable =>
    exact ⟨.free (fun a => by cases a <;> rfl), rfl, by simp [initial, newFromFuture],
      fun _ _ => rfl⟩
  | immediate res =>
    exact ⟨.free (fun a => by cases a <;> rfl), rfl, by simp [initial, newReady], fun _ _ => rfl⟩

variable [DecidableEq T]

theorem inside_goto (s : State T R) (t : T) (pc : CallPc R) :
    (s.goto t pc).inside (.call t) = pc.holdsLock := by
  simp only [State.inside, goto_pc, if_true]

theorem inside_goto_ne (s : State T R) (t : T) (pc : CallPc R) (a : Agent T)
    (ne : a ≠ .call t) : (s.goto t pc).inside a = s.inside a := by
  cases a with
  | creator => rfl
  | resolver => rfl
  | call u =>
    have other : u ≠ t := fun eq => ne (congrArg Agent.call eq)
    simp only [State.inside, goto_pc, if_neg other]

theorem inside_goto_same {s : State T R} {t : T} {pc : CallPc R}
    (same : pc.holdsLock = (s.pc t).holdsLock) (a : Agent T) :
    (s.goto t pc).inside a = s.inside a := by
  by_cases eq : a = .call t
  · rw [eq, inside_goto, same]; rfl
  · exact inside_goto_ne s t pc a eq

theorem goto_keep (s : State T R) (t : T) (pc : CallPc R)
    (same : pc.holdsLock = (s.pc t).holdsLock) :
    LockMove s.owner (s.goto t pc).owner s.inside (s.goto t pc).inside :=
  .keep rfl (inside_goto_same same)

section Runs
variable {futureKind : FutureKind R} {kind : T → CallKind} {s s' : State T R}

theorem Transition.lockMove (transition : Transition futureKind kind s s') :
    LockMove s.owner s'.owner s.inside s'.inside := by
  have unmoved : ∀ t, (s.pc t).holdsLock = (s.pc t).holdsLock := fun _ => rfl
  cases transition with
  | futureReady r was => exact .keep rfl (inside_congr rfl (by rw [was]; rfl) unmoved)
  | creatorLock was free => exact .acquire .creator free rfl rfl (inside_creator_ne rfl rfl)
  | creatorStore was => exact .keep rfl (inside_congr (by rw [was]; rfl) rfl unmoved)
  | creatorUnlock was =>
    have held : s.inside .creator = true := by simp only [State.inside, was, CreatorPc.holdsLock]
    exact .release .creator held rfl rfl (inside_creator_ne rfl rfl)
  | resolverLock r was free => exact .acquire .resolver free rfl rfl (inside_resolver_ne rfl rfl)
  | setResult r was unset => exact .keep rfl (inside_congr rfl (by rw [was]; rfl) unmoved)
  | setTwice r was set => exact .keep rfl (inside_congr rfl (by rw [was]; rfl) unmoved)
  | readCallback was => exact .keep rfl (inside_congr rfl (by rw [was]; rfl) unmoved)
  | resolverUnlock callback was =>
    have held : s.inside .resolver = true := by simp only [State.inside, was, ResolverPc.holdsLock]
    exact .release .resolver held rfl (by cases callback <;> rfl) (inside_resolver_ne rfl rfl)
  | resolverInvoke callback was => exact .keep rfl (inside_congr rfl (by rw [was]; rfl) unmoved)
  | notifyAll was =>
    exact .keep rfl (inside_congr rfl (by rw [was]; rfl) (fun t => wake_holdsLock (s.pc t)))
  | quiet t pc move => exact goto_keep s t pc move.holdsLock_eq
  | callLock t pc free enter =>
    exact .acquire (.call t) free rfl ((inside_goto _ t pc).trans enter.holdsLock_eq)
      (inside_goto_ne _ t pc)
  | callUnlock t pc leave =>
    exact .release (.call t) leave.holdsLock_eq.1 rfl
      ((inside_goto _ t pc).trans leave.holdsLock_eq.2) (inside_goto_ne _ t pc)
  | swapFirst t was free => exact goto_keep _ t _ (by rw [was]; rfl)
  | swapLater t was taken => exact goto_keep _ t _ (by rw [was]; rfl)
  | store t was free => exact goto_keep _ t _ (by rw [was]; rfl)
  | reject t was taken => exact goto_keep _ t _ (by rw [was]; rfl)
  | callInvoke t was => exact goto_keep _ t _ (by rw [was]; rfl)
  | take t was present => exact goto_keep _ t _ (by rw [was]; rfl)
  | putBack t was alone => exact goto_keep _ t _ (by rw [was]; rfl)
  | putBackNotify t u was sleeper =>
    have ne : t ≠ u := by
      rintro rfl
      rw [was] at sleeper
      contradiction
    refine .keep rfl (fun a => ?_)
    rw [inside_goto_same (by simp only [goto_pc, if_neg ne, was]; rfl),
      inside_goto_same (by rw [sleeper]; rfl)]
    rfl

theorem Transition.unstarted (transition : Transition futureKind kind s s')
    (hidden : s.creator ≠ .published) (unshared : ∀ t, s.pc t = .notStarted) (t : T) :
    s'.pc t = .notStarted := by
  cases transition with
  | quiet u pc move =>
    rw [unshared u] at move
    cases move <;> exact absurd ‹_› hidden
  | callLock u pc free enter => rw [unshared u] at enter; cases enter
  | callUnlock u pc leave => rw [unshared u] at leave; cases leave
  | notifyAll was => exact congrArg CallPc.wake (unshared t)
  | swapFirst u was | swapLater u was | store u was | reject u was | callInvoke u was
  | take u was | putBack u was | putBackNotify u v was => rw [unshared u] at was; contradiction
  | _ => exact unshared t

theorem Transition.sound (transition : Transition futureKind kind s s') (sound : Sound s) :
    Sound s' := by
  have result := sound.result
  have running := sound.running
  refine ⟨transition.lockMove.exclusive sound.exclusive, ?_, ?_, ?_⟩
  · cases transition with
    | resolverUnlock callback was => cases callback <;> simp_all [ResolverPc.resolved]
    | _ => simp_all [ResolverPc.resolved, State.goto]
  · cases transition with
    | resolverUnlock callback was => cases callback <;> simp
    -- the result is still unset when the task comes to set it
    | setTwice r was set => simp [result, was, ResolverPc.resolved] at set
    | _ => simp_all [State.goto]
  · intro hidden
    have before : s.creator ≠ .published := by
      cases transition <;> simp_all [State.goto]
    exact transition.unstarted before (sound.unshared before)

end Runs

end CppRsDriver.Future
