import CppRsDriver.Basic
import CppRsDriver.Lib.Runs
import Mathlib.Data.Fintype.Basic

/-! A future shared by the task that resolves it and by any number of API calls.
Every access to the state behind the mutex is a step of its own, made by the
agent that holds the lock. The condition variable wakes sleepers by `notify_one`,
`notify_all`, at a timeout or for no reason. A join handle is ready once the
task has finished; tasks do not panic and are not cancelled. -/
namespace CppRsDriver.Future

inductive FutureKind (R : Type) where
  | resolvable
  | immediate (res : R)
  deriving DecidableEq, Repr

/-- The API calls made on the future. -/
inductive CallKind where
  | setCallback (null : Bool)
  | wait
  | waitTimed
  deriving DecidableEq, Repr

inductive Agent (T : Type) where
  | creator
  | resolver
  | call (t : T)
  deriving DecidableEq, Repr

/-- The thread in `new_from_future`, which spawns the task before it stores the handle. -/
inductive CreatorPc where
  | spawned
  | storing
  | leaving
  | published
  deriving DecidableEq, Repr

inductive ResolverPc (T R : Type) where
  | awaiting
  | ready (r : R)
  | locked (r : R)
  | resultSet
  | leaving (callback : Option T)
  | invoking (callback : T)
  | notifying
  | finished
  | panicked
  deriving DecidableEq, Repr

inductive WaitOutcome (R : Type) where
  | value (r : R)
  | timeoutError
  | invalidDuration
  deriving DecidableEq, Repr

inductive CallPc (R : Type) where
  | notStarted
  -- `set_callback` and the `Immediate` branch of `cass_future_set_callback`
  | cbSwapping
  | cbLocking
  | cbChecking
  | cbRejecting
  | cbStored
  | cbLeaving (shouldInvokeCallback : Bool)
  | cbInvoking
  | cbReturned (code : CassError)
  -- `waited_result` and `waited_result_timed`
  | locking
  | computing
  | looking
  | taking
  | dropping
  | blocked
  | unwrapping
  | timedOut
  | puttingBack
  | testing
  | asleep
  | waking
  | exiting (outcome : WaitOutcome R)
  | returned (outcome : WaitOutcome R)
  | panicked
  deriving DecidableEq, Repr

/-- A callback is named by the call that brought it. `order` lists the calls of
`cass_future_set_callback` in the order they took effect, `invoked` the callbacks
run so far. -/
structure State (T R : Type) where
  callback : Option T
  callbackSet : Bool
  joinHandle : Bool
  result : Option R
  owner : Option (Agent T)
  creator : CreatorPc
  resolver : ResolverPc T R
  pc : T → CallPc R
  order : List T
  invoked : List T

section Steps
variable {T R : Type} [DecidableEq T]

def newFromFuture : State T R where
  callback := none
  callbackSet := false
  joinHandle := false
  result := none
  owner := none
  creator := .spawned
  resolver := .awaiting
  pc := fun _ => .notStarted
  order := []
  invoked := []

/-- An immediate future has its result from the start and no task behind it. -/
def newReady (res : R) : State T R where
  callback := none
  callbackSet := false
  joinHandle := false
  result := some res
  owner := none
  creator := .published
  resolver := .finished
  pc := fun _ => .notStarted
  order := []
  invoked := []

def initial : FutureKind R → State T R
  | .resolvable => newFromFuture
  | .immediate res => newReady res

/-- The scheduler's choices. `timeout` lets the deadline of a timed call pass,
`putBack` returns the handle and names the sleeper `notify_one` wakes. -/
inductive Event (T R : Type) where
  | futureReady (r : R)
  | creator
  | resolver
  | call (t : T)
  | deadline (t : T)
  | invalidDeadline (t : T)
  | timeout (t : T)
  | spurious (t : T)
  | putBack (t : T) (woken : Option T)

def CallPc.isAsleep : CallPc R → Bool
  | .asleep => true
  | _ => false

def CallPc.wake (pc : CallPc R) : CallPc R := if pc.isAsleep then .waking else pc

def State.goto (s : State T R) (t : T) (pc : CallPc R) : State T R :=
  { s with pc := Function.update s.pc t pc }

@[simp] theorem goto_pc (s : State T R) (t u : T) (pc : CallPc R) :
    (s.goto t pc).pc u = if u = t then pc else s.pc u := by
  simp only [State.goto, Function.update_apply]

theorem goto_all (s : State T R) (t : T) (pc : CallPc R) {P : T → CallPc R → Prop}
    (all : ∀ u, P u (s.pc u)) (moved : P t pc) (u : T) : P u ((s.goto t pc).pc u) := by
  rw [goto_pc]
  split
  · rename_i eq; exact eq ▸ moved
  · exact all u

def lockFor (s : State T R) (agent : Agent T) : Option (State T R) :=
  if s.owner.isNone then some { s with owner := some agent } else none

def creatorStep (s : State T R) : Option (State T R) :=
  match s.creator with
  | .spawned => (lockFor s .creator).map (fun s => { s with creator := .storing })
  | .storing => some { s with joinHandle := true, creator := .leaving }
  | .leaving => some { s with owner := none, creator := .published }
  | .published => none

def resolverStep (s : State T R) : Option (State T R) :=
  match s.resolver with
  | .awaiting => none
  | .ready r => (lockFor s .resolver).map (fun s => { s with resolver := .locked r })
  | .locked r =>
    -- `OnceLock::set(r).expect(..)`
    match s.result with
    | none => some { s with result := some r, resolver := .resultSet }
    | some _ => some { s with resolver := .panicked }
  | .resultSet => some { s with resolver := .leaving s.callback }
  | .leaving (some callback) => some { s with owner := none, resolver := .invoking callback }
  | .leaving none => some { s with owner := none, resolver := .notifying }
  | .invoking callback =>
    some { s with invoked := callback :: s.invoked, resolver := .notifying }
  | .notifying => some { s with pc := fun t => (s.pc t).wake, resolver := .finished }
  | .finished => none
  | .panicked => none

/-- The first step of a call. Nobody has the future before it is published. -/
def startCall (futureKind : FutureKind R) (kind : CallKind) (s : State T R) (t : T) :
    Option (State T R) :=
  if s.creator = .published then
    match kind, futureKind with
    | .setCallback true, _ => some (s.goto t (.cbReturned .libBadParams))
    | .setCallback false, .resolvable => some (s.goto t .cbLocking)
    | .setCallback false, .immediate _ => some (s.goto t .cbSwapping)
    | _, _ =>
      -- the result of an immediate future, or the happy path without the lock
      match s.result with
      | some r => some (s.goto t (.returned (.value r)))
      | none => some (s.goto t .locking)
  else none

def callStep (futureKind : FutureKind R) (kind : CallKind) (s : State T R) (t : T) :
    Option (State T R) :=
  match s.pc t with
  | .notStarted => startCall futureKind kind s t
  | .cbSwapping =>
    let swapped := { s with callbackSet := true, order := s.order ++ [t] }
    if s.callbackSet then some (swapped.goto t (.cbReturned .libCallbackAlreadySet))
    else some (swapped.goto t .cbInvoking)
  | .cbLocking => (lockFor s (.call t)).map (fun s => s.goto t .cbChecking)
  | .cbChecking =>
    let checked := { s with order := s.order ++ [t] }
    if s.callback.isSome then some (checked.goto t .cbRejecting)
    else some ({ checked with callback := some t }.goto t .cbStored)
  | .cbRejecting =>
    some ({ s with owner := none }.goto t (.cbReturned .libCallbackAlreadySet))
  | .cbStored => some (s.goto t (.cbLeaving s.result.isSome))
  | .cbLeaving true => some ({ s with owner := none }.goto t .cbInvoking)
  | .cbLeaving false => some ({ s with owner := none }.goto t (.cbReturned .ok))
  | .cbInvoking => some ({ s with invoked := t :: s.invoked }.goto t (.cbReturned .ok))
  | .cbReturned _ => none
  | .locking =>
    (lockFor s (.call t)).map (fun s =>
      s.goto t (if kind = .waitTimed then .computing else .looking))
  | .computing => none
  | .looking =>
    match s.result with
    | some r => some (s.goto t (.exiting (.value r)))
    | none => some (s.goto t .taking)
  | .taking =>
    if s.joinHandle then some ({ s with joinHandle := false }.goto t .dropping)
    else some (s.goto t .testing)
  | .dropping => some ({ s with owner := none }.goto t .blocked)
  | .blocked =>
    match s.resolver with
    | .finished => some (s.goto t .unwrapping)
    | .panicked => some (s.goto t .panicked)
    | _ => none
  | .unwrapping =>
    match s.result with
    | some r => some (s.goto t (.returned (.value r)))
    | none => some (s.goto t .panicked)
  | .timedOut => (lockFor s (.call t)).map (fun s => s.goto t .puttingBack)
  | .puttingBack => none
  | .testing =>
    -- `wait_while`: the lock is released by falling asleep
    if s.result.isNone && !s.joinHandle then some ({ s with owner := none }.goto t .asleep)
    else some (s.goto t .looking)
  | .asleep => none
  | .waking => (lockFor s (.call t)).map (fun s => s.goto t .testing)
  | .exiting outcome => some ({ s with owner := none }.goto t (.returned outcome))
  | .returned _ => none
  | .panicked => none

/- The deadline passes while the call awaits the handle, sleeps, or tests the
condition of `wait_timeout_while`, which reports it only if the condition holds. -/
def timeoutStep (kind : CallKind) (s : State T R) (t : T) : Option (State T R) :=
  if kind = .waitTimed then
    match s.pc t with
    | .blocked => some (s.goto t .timedOut)
    | .asleep => some (s.goto t .waking)
    | .testing =>
      if s.result.isNone && !s.joinHandle then some (s.goto t (.exiting .timeoutError)) else none
    | _ => none
  else none

/- The handle goes back and one sleeper is notified under the same lock, so no
other agent sees the state between the two. -/
def putBackStep [Fintype T] (s : State T R) (t : T) (woken : Option T) : Option (State T R) :=
  match s.pc t, woken with
  | .puttingBack, some u =>
    if (s.pc u).isAsleep then
      some (({ s with joinHandle := true }.goto u .waking).goto t (.exiting .timeoutError))
    else none
  | .puttingBack, none =>
    if ∀ u, (s.pc u).isAsleep = false then
      some ({ s with joinHandle := true }.goto t (.exiting .timeoutError))
    else none
  | _, _ => none

def step [Fintype T] (futureKind : FutureKind R) (kind : T → CallKind) (s : State T R) :
    Event T R → Option (State T R)
  | .futureReady r =>
    match s.resolver with
    | .awaiting => some { s with resolver := .ready r }
    | _ => none
  | .creator => creatorStep s
  | .resolver => resolverStep s
  | .call t => callStep futureKind (kind t) s t
  | .deadline t =>
    match s.pc t with
    | .computing => some (s.goto t .looking)
    | _ => none
  | .invalidDeadline t =>
    match s.pc t with
    | .computing => some (s.goto t (.exiting .invalidDuration))
    | _ => none
  | .timeout t => timeoutStep (kind t) s t
  | .spurious t =>
    match s.pc t with
    | .asleep => some (s.goto t .waking)
    | _ => none
  | .putBack t woken => putBackStep s t woken

end Steps

end CppRsDriver.Future
