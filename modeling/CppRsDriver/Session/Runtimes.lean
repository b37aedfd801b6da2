import CppRsDriver.Lib.Arc
import CppRsDriver.Lib.Potential
import Mathlib.Algebra.Order.BigOperators.Group.List
import Mathlib.Data.List.AList

/-! Who keeps the runtimes. Clusters with the same number of threads share one runtime, which
is only cached weakly: connected sessions, futures and the tasks that connect hold it. The
locks of the sessions are left out, so tasks may end in any order. -/
namespace CppRsDriver.Runtime

open CppRsDriver.Lib

/-- How a runtime is built. -/
inductive RuntimeConfig where
  | default
  | currentThread
  | multiThread (workers : Nat)
  deriving DecidableEq, Repr

def RuntimeConfig.ofThreads : Nat → RuntimeConfig
  | 0 => .currentThread
  | n => .multiThread n

/-- The `Weak` references to the runtimes of the process. -/
structure Runtimes where
  defaultRuntime : Option (Option Nat) := none
  nThreadRuntimes : Option (AList (fun _ : Nat => Option Nat)) := none

abbrev Heap := ArcHeap RuntimeConfig

/-- The reference to hand out and the one to cache. `create` is none if no runtime can be made. -/
def cachedOrNewRuntime (heap : Heap) (weak : Option Nat) (create : Option RuntimeConfig) :
    Option (Heap × Option Nat × Nat) :=
  match heap.upgrade weak with
  | some (heap, cached) => some (heap, weak, cached)
  | none => create.map (fun config =>
    let (heap, runtime) := heap.new config
    (heap, some runtime, runtime))

namespace Runtimes

def getDefault (self : Runtimes) (heap : Heap) (creates : Bool) : Option (Heap × Runtimes × Nat) :=
  let slot := self.defaultRuntime.getD none
  (cachedOrNewRuntime heap slot (if creates then some .default else none)).map
    (fun (heap, weak, runtime) => (heap, { self with defaultRuntime := some weak }, runtime))

def getNThread (self : Runtimes) (heap : Heap) (nThreads : Nat) (creates : Bool) :
    Option (Heap × Runtimes × Nat) :=
  let entries := self.nThreadRuntimes.getD ∅
  let slot := (entries.lookup nThreads).getD none
  (cachedOrNewRuntime heap slot (if creates then some (.ofThreads nThreads) else none)).map
    (fun (heap, weak, runtime) =>
      (heap, { self with nThreadRuntimes := some (entries.insert nThreads weak) }, runtime))

/-- `CassCluster::get_runtime`. It panics if no runtime can be made, which ends the process. -/
def getRuntime (self : Runtimes) (heap : Heap) (numThreadsIo : Option Nat) (creates : Bool) :
    Option (Heap × Runtimes × Nat) :=
  match numThreadsIo with
  | some n => self.getNThread heap n creates
  | none => self.getDefault heap creates

end Runtimes

/-- What a future was made for. The task that connects has a reference of its own. -/
inductive FutureKind where
  | ready
  | connect (session : Nat) (numThreadsIo : Option Nat) (runtime : Option Nat)
  | close (session : Nat)
  | request (session : Nat)
  deriving DecidableEq, Repr

/-- A future. Its task has it too, so it is there until it was freed and its task has ended. -/
structure Future where
  kind : FutureKind
  runtime : Option Nat
  finished : Bool := false
  freed : Bool := false
  deriving DecidableEq, Repr

structure Session where
  connected : Option Nat := none
  freed : Bool := false
  deriving DecidableEq, Repr

structure State where
  heap : Heap := .empty
  runtimes : Runtimes := {}
  sessions : List Session := []
  futures : List Future := []

inductive Event where
  | sessionNew
  /-- With what the cluster says, and whether a runtime can be made. -/
  | connect (session : Nat) (numThreadsIo : Option Nat) (creates : Bool)
  /-- A call that finds the session locked fails at once. -/
  | close (session : Nat) (locked : Bool)
  | request (session : Nat) (locked : Bool)
  /-- The task of a future ends; a session may have been built. -/
  | finish (future : Nat) (built : Bool)
  | futureFree (future : Nat)
  | sessionFree (session : Nat) (locked : Bool)

def FutureKind.session : FutureKind → Option Nat
  | .ready => none
  | .connect session _ _ | .close session | .request session => some session

/-- A task that has not ended has the session. -/
def inUse (futures : List Future) (session : Nat) : Bool :=
  futures.any (fun f => !f.finished && f.kind.session == some session)

/-- The session after a holder of it went away, and what it lets go of then. -/
def Session.released (p : Session) (inUse : Bool) : Session × Option Nat :=
  if p.freed && !inUse then ({ p with connected := none }, p.connected) else (p, none)

namespace Future

def endedKind : FutureKind → FutureKind
  | .connect session numThreadsIo _ => .connect session numThreadsIo none
  | kind => kind

/-- The future when its task is gone. -/
def ended (f : Future) : Future where
  kind := endedKind f.kind
  runtime := if f.freed then none else f.runtime
  finished := true
  freed := f.freed

/-- The future after the client freed it, and what it lets go of then. -/
def released (f : Future) : Future × Option Nat :=
  if f.finished then ({ f with freed := true, runtime := none }, f.runtime)
  else ({ f with freed := true }, none)

/-- What its task does to the session, and what it lets go of. -/
def effect (f : Future) (built : Bool) (p : Session) : Session × Option Nat :=
  match f.kind with
  | .connect _ _ runtime =>
    if p.connected.isNone && built then ({ p with connected := runtime }, none) else (p, runtime)
  | .close _ => ({ p with connected := none }, p.connected)
  | .ready | .request _ => (p, none)

end Future

namespace State

/- A new future with the runtime of the session. -/
def spawn (s : State) (kind : FutureKind) (locked : Bool) (p : Session) : State :=
  let runtime := if locked then none else p.connected
  match runtime with
  | none => { s with futures := s.futures ++ [{ kind := .ready, runtime := none, finished := true }] }
  | some runtime =>
    { s with
      heap := s.heap.clone (some runtime)
      futures := s.futures ++ [{ kind := kind, runtime := some runtime }] }

def finish (s : State) (i : Nat) (f : Future) (built : Bool) : Option State := do
  let session ← f.kind.session
  let p ← s.sessions[session]?
  let futures := s.futures.set i f.ended
  let (after, dropped) := f.effect built p
  let (left, last) := after.released (inUse futures session)
  return { s with
    heap := s.heap.dropAll [dropped, if f.freed then f.runtime else none, last]
    sessions := s.sessions.set session left
    futures := futures }

/- `cass_session_free`: a connected session is closed by a future, which the call waits for
and frees. -/
def free (s : State) (session : Nat) (locked : Bool) (p : Session) : State :=
  let freed := { p with freed := true }
  if locked || p.connected.isNone then
    let (left, last) := freed.released (inUse s.futures session)
    { s with
      heap := s.heap.drop last
      sessions := s.sessions.set session left }
  else { s with sessions := s.sessions.set session freed }.spawn (.close session) false freed

/- A call needs a session, or a future, that the client has not freed. -/
def usable (s : State) (session : Nat) : Option Session :=
  s.sessions[session]?.filter (fun p => !p.freed)

def step (s : State) : Event → Option State
  | .sessionNew => some { s with sessions := s.sessions ++ [{}] }
  | .connect session numThreadsIo creates => do
    let _ ← s.usable session
    let (heap, runtimes, runtime) ← s.runtimes.getRuntime s.heap numThreadsIo creates
    -- one for the task and one for the future; the one at hand is dropped
    let heap := ((heap.clone (some runtime)).clone (some runtime)).drop (some runtime)
    return { s with
      heap := heap
      runtimes := runtimes
      futures := s.futures ++
        [{ kind := .connect session numThreadsIo (some runtime), runtime := some runtime }] }
  | .close session locked => (s.usable session).map (s.spawn (.close session) locked)
  | .request session locked => (s.usable session).map (s.spawn (.request session) locked)
  | .finish i built => do
    let f ← s.futures[i]?.filter (fun f => !f.finished)
    s.finish i f built
  | .futureFree i => do
    let f ← s.futures[i]?.filter (fun f => !f.freed)
    let (left, last) := f.released
    return { s with
      heap := s.heap.drop last
      futures := s.futures.set i left }
  | .sessionFree session locked => (s.usable session).map (s.free session locked)

end State

/-! ## What a cluster asks for and what it gets -/

def configOf : Option Nat → RuntimeConfig
  | none => .default
  | some n => .ofThreads n

theorem configOf_injective : Function.Injective configOf := by
  intro a b same
  match a, b with
  | none, none => rfl
  | some 0, some 0 => rfl
  | some (n + 1), some (m + 1) => cases same; rfl
  | none, some 0 | none, some (_ + 1) | some 0, none | some (_ + 1), none => cases same
  | some 0, some (_ + 1) | some (_ + 1), some 0 => cases same

/-- The cached reference for a cluster. -/
def Runtimes.weak (self : Runtimes) : Option Nat → Option Nat
  | none => self.defaultRuntime.getD none
  | some n => ((self.nThreadRuntimes.getD ∅).lookup n).getD none

/-- The cached runtime, if it is still there, or a new one. -/
inductive Obtained (heap : Heap) (weak : Option Nat) (config : RuntimeConfig) : Heap → Nat → Prop where
  | cached (r) (is : weak = some r) (live : heap.Live r) :
      Obtained heap weak config (heap.clone (some r)) r
  | made (gone : ∀ r, weak = some r → ¬ heap.Live r) :
      Obtained heap weak config (heap.new config).1 (heap.new config).2

theorem cachedOrNewRuntime_obtained {heap heap' : Heap} {weak weak' : Option Nat} {creates : Bool}
    {config : RuntimeConfig} {r : Nat}
    (got : cachedOrNewRuntime heap weak (if creates then some config else none) = some (heap', weak', r)) :
    weak' = some r ∧ Obtained heap weak config heap' r := by
  unfold cachedOrNewRuntime at got
  split at got
  · rename_i h cached upgraded
    obtain ⟨rfl, live, rfl⟩ := ArcHeap.upgrade_eq_some upgraded
    cases Option.some.inj got
    exact ⟨rfl, .cached _ rfl live⟩
  · rename_i failed
    cases creates with
    | false => cases got
    | true =>
      cases Option.some.inj got
      refine ⟨rfl, .made ?_⟩
      rintro q rfl
      exact ArcHeap.upgrade_eq_none failed

theorem getRuntime_obtained {runtimes runtimes' : Runtimes} {heap heap' : Heap} {key : Option Nat}
    {creates : Bool} {r : Nat}
    (got : runtimes.getRuntime heap key creates = some (heap', runtimes', r)) :
    runtimes'.weak key = some r ∧ (∀ other, other ≠ key → runtimes'.weak other = runtimes.weak other) ∧
      Obtained heap (runtimes.weak key) (configOf key) heap' r := by
  cases key with
  | none =>
    obtain ⟨⟨h, weak, q⟩, found, is⟩ := Option.map_eq_some_iff.mp got
    cases is
    obtain ⟨rfl, obtained⟩ := cachedOrNewRuntime_obtained found
    refine ⟨rfl, ?_, obtained⟩
    intro other differs
    cases other with
    | none => exact absurd rfl differs
    | some m => rfl
  | some n =>
    obtain ⟨⟨h, weak, q⟩, found, is⟩ := Option.map_eq_some_iff.mp got
    cases is
    obtain ⟨rfl, obtained⟩ := cachedOrNewRuntime_obtained found
    refine ⟨?_, ?_, obtained⟩
    · simp [Runtimes.weak]
    · intro other differs
      cases other with
      | none => rfl
      | some m =>
        have apart : m ≠ n := fun same => differs (congrArg some same)
        simp [Runtimes.weak, AList.lookup_insert_ne apart]

/-! ## Who holds a runtime -/

open ArcHeap (heldBy)

def FutureKind.held : FutureKind → Nat → Nat
  | .connect _ _ runtime, r => heldBy runtime r
  | _, _ => 0

def Future.held (f : Future) (r : Nat) : Nat := heldBy f.runtime r + f.kind.held r

def Session.held (p : Session) (r : Nat) : Nat := heldBy p.connected r

/-- How many references to a runtime there are. -/
def State.held (s : State) (r : Nat) : Nat :=
  (s.sessions.map (·.held r)).sum + (s.futures.map (·.held r)).sum

theorem Future.held_le {s : State} {f : Future} (member : f ∈ s.futures) (r : Nat) :
    f.held r ≤ s.held r := by
  have le : f.held r ≤ (s.futures.map (·.held r)).sum :=
    List.le_sum_of_mem (List.mem_map_of_mem member)
  unfold State.held
  omega

theorem Session.held_le {s : State} {p : Session} (member : p ∈ s.sessions) (r : Nat) :
    p.held r ≤ s.held r := by
  have le : p.held r ≤ (s.sessions.map (·.held r)).sum :=
    List.le_sum_of_mem (List.mem_map_of_mem member)
  unfold State.held
  omega

/- Nothing is lost: what the session and the task held is held by the session, or dropped. -/
theorem Future.effect_held (f : Future) (built : Bool) (p : Session) (r : Nat) :
    (f.effect built p).1.held r + heldBy (f.effect built p).2 r + (endedKind f.kind).held r =
      p.held r + f.kind.held r := by
  cases is : f.kind with
  | connect session key runtime =>
    simp only [effect, is, Session.held, FutureKind.held, endedKind]
    split
    · rename_i free
      have none : p.connected = none := by simpa using (Bool.and_eq_true_iff.mp free).1
      simp [none]
    · simp
  | close session => simp [effect, is, Session.held, FutureKind.held, endedKind]
  | ready => simp [effect, is, Session.held, FutureKind.held, endedKind]
  | request session => simp [effect, is, Session.held, FutureKind.held, endedKind]

theorem Session.released_held (p : Session) (used : Bool) (r : Nat) :
    (p.released used).1.held r + heldBy (p.released used).2 r = p.held r := by
  unfold Session.released
  split <;> simp [Session.held]

theorem Future.released_held (f : Future) (r : Nat) :
    f.released.1.held r + heldBy f.released.2 r = f.held r := by
  unfold Future.released
  split
  · simp [Future.held]
    omega
  · simp [Future.held]

theorem Future.ended_held (f : Future) (r : Nat) :
    f.ended.held r + heldBy (if f.freed then f.runtime else none) r + f.kind.held r =
      f.held r + (endedKind f.kind).held r := by
  cases is : f.freed with
  | true =>
    simp [Future.held, Future.ended, is]
    omega
  | false =>
    simp [Future.held, Future.ended, is]
    omega

/-- The future of a connect has a runtime as its cluster asked for. -/
def Future.Asked (heap : Heap) (f : Future) : Prop :=
  ∀ session key runtime, f.kind = .connect session key runtime →
    ∀ r, f.runtime = some r ∨ runtime = some r → heap.get? r = some (configOf key)

/-- The counts are right, and every runtime that is held is the cached one of its kind. -/
structure Shared (s : State) : Prop where
  tracks : s.heap.Tracks s.held
  cached : ∀ key r, s.heap.get? r = some (configOf key) → 0 < s.held r → s.runtimes.weak key = some r
  kept : ∀ key r, s.runtimes.weak key = some r → s.heap.get? r = some (configOf key)
  asked : ∀ f ∈ s.futures, f.Asked s.heap

/-- After a step. A runtime that nothing holds is not held again, and a new one is held. -/
structure Continues (s t : State) : Prop extends Shared t where
  made : ∀ r, s.heap.Made r → t.heap.Made r
  gone : ∀ r, s.heap.Made r → 0 < t.held r → 0 < s.held r
  fresh : ∀ r, ¬ s.heap.Made r → t.heap.Made r → 0 < t.held r

/- A step that makes no runtime and holds none that was not held. -/
theorem Shared.next {s t : State} (shared : Shared s) (tracks : t.heap.Tracks t.held)
    (contents : ∀ r, t.heap.get? r = s.heap.get? r) (cache : t.runtimes = s.runtimes)
    (held : ∀ r, 0 < t.held r → 0 < s.held r) (asked : ∀ f ∈ t.futures, f.Asked s.heap) :
    Continues s t where
  tracks := tracks
  made r is := by
    rwa [ArcHeap.Made, contents]
  gone r _ := held r
  fresh r absent is := by
    rw [ArcHeap.Made, contents] at is
    exact absurd is absent
  cached key r is positive := by
    rw [cache]
    exact shared.cached key r (contents r ▸ is) (held r positive)
  kept key r is := by
    rw [contents]
    exact shared.kept key r (cache ▸ is)
  asked f member session key runtime is r has := by
    rw [contents]
    exact asked f member session key runtime is r has

theorem Shared.initial : Shared {} where
  tracks := ⟨fun _ _ found => by simp [ArcHeap.empty] at found, fun _ positive => by cases positive⟩
  cached _ _ _ positive := by cases positive
  kept key _ is := by cases key <;> cases is
  asked := by simp

theorem held_push (s : State) (f : Future) (r : Nat) (heap : Heap) (runtimes : Runtimes) :
    State.held { s with heap := heap, runtimes := runtimes, futures := s.futures ++ [f] } r =
      s.held r + f.held r := by
  simp only [State.held, List.map_append, List.sum_append, List.map_cons, List.map_nil, List.sum_cons,
    List.sum_nil]
  omega

theorem Shared.spawn {s : State} (shared : Shared s) {p : Session} (member : p ∈ s.sessions)
    {kind : FutureKind} (plain : ∀ session key runtime, kind ≠ .connect session key runtime)
    (locked : Bool) : Continues s (s.spawn kind locked p) := by
  have unheld (r : Nat) : kind.held r = 0 := by
    cases kind with
    | connect session key runtime => exact absurd rfl (plain session key runtime)
    | _ => rfl
  unfold State.spawn
  dsimp only
  split
  · have same (r : Nat) : State.held { s with futures := s.futures ++ [⟨.ready, none, true, false⟩] } r =
        s.held r := held_push s _ r s.heap s.runtimes
    refine shared.next ?_ (fun _ => rfl) rfl (fun r => ?_) ?_
    · rw [funext same]
      exact shared.tracks
    · rw [same]
      exact id
    · intro f inside session key runtime is
      rcases List.mem_append.mp inside with old | new
      · exact shared.asked f old session key runtime is
      · cases List.mem_singleton.mp new
        cases is
  · rename_i runtime is
    have connected : p.connected = some runtime := by
      split at is
      · cases is
      · exact is
    have positive : 0 < s.held runtime := by
      have le := Session.held_le member runtime
      rw [Session.held, connected, ArcHeap.heldBy_self] at le
      exact le
    have more (r : Nat) : State.held
        { s with heap := s.heap.clone (some runtime), futures := s.futures ++ [⟨kind, some runtime, false, false⟩] } r =
          s.held r + heldBy (some runtime) r := by
      rw [held_push s _ r (s.heap.clone (some runtime)) s.runtimes, Future.held, unheld]
      rfl
    refine shared.next ?_ (ArcHeap.get?_clone s.heap (some runtime)) rfl (fun r => ?_) ?_
    · refine shared.tracks.clone ?_ more
      rintro r ⟨⟩
      exact shared.tracks.live_iff.mpr positive
    · rw [more]
      by_cases here : runtime = r
      · exact fun _ => here ▸ positive
      · simp [heldBy, here]
    · intro f inside session key runtime is
      rcases List.mem_append.mp inside with old | new
      · exact shared.asked f old session key runtime is
      · cases List.mem_singleton.mp new
        exact absurd is (plain session key runtime)

/-- What an obtained runtime is, next to the runtimes there were. -/
structure Shared.Obtains (s : State) (key : Option Nat) (heap : Heap) (runtime : Nat) : Prop where
  tracks : heap.Tracks (fun r => s.held r + heldBy (some runtime) r)
  config : heap.get? runtime = some (configOf key)
  old : ∀ r x, s.heap.get? r = some x → heap.get? r = some x
  others : ∀ r x, r ≠ runtime → heap.get? r = some x → s.heap.get? r = some x
  only : ∀ r, s.heap.get? r = some (configOf key) → 0 < s.held r → r = runtime
  again : s.heap.Made runtime → 0 < s.held runtime

theorem Shared.obtains {s : State} (shared : Shared s) {key : Option Nat} {heap : Heap} {runtime : Nat}
    (obtained : Obtained s.heap (s.runtimes.weak key) (configOf key) heap runtime) :
    Shared.Obtains s key heap runtime := by
  cases obtained with
  | cached _ is live =>
    refine ⟨shared.tracks.clone ?_ (fun _ => rfl), ?_, fun r x => ?_, fun r x _ => ?_, ?_,
      fun _ => shared.tracks.live_iff.mp live⟩
    · rintro r ⟨⟩
      exact live
    · rw [ArcHeap.get?_clone]
      exact shared.kept key runtime is
    · rw [ArcHeap.get?_clone]
      exact id
    · rw [ArcHeap.get?_clone]
      exact id
    · intro r config positive
      have same := shared.cached key r config positive
      exact Option.some.inj (same.symm.trans is)
  | made gone =>
    refine ⟨shared.tracks.new _ (fun _ => rfl), ArcHeap.get?_new s.heap (configOf key), ?_, ?_, ?_, ?_⟩
    · intro r x is
      rw [ArcHeap.get?_new_eq, if_neg]
      · exact is
      · rintro rfl
        simp [ArcHeap.get?] at is
    · intro r x (differs : r ≠ s.heap.cells.length) is
      rwa [ArcHeap.get?_new_eq, if_neg differs] at is
    · intro r config positive
      exact absurd (shared.tracks.live_iff.mpr positive) (gone r (shared.cached key r config positive))
    · intro made
      simp [ArcHeap.Made, ArcHeap.get?, ArcHeap.new] at made

namespace Shared.Obtains
variable {s : State} {key : Option Nat} {heap : Heap} {runtimes : Runtimes} {runtime : Nat}

/- Three references for a moment, of which the future and its task keep two. -/
theorem tracks_two (obtains : Obtains s key heap runtime) :
    (((heap.clone (some runtime)).clone (some runtime)).drop (some runtime)).Tracks
      (fun r => s.held r + (heldBy (some runtime) r + heldBy (some runtime) r)) := by
  let once (r : Nat) : Nat := s.held r + heldBy (some runtime) r
  have live {h : Heap} {n : Nat → Nat} (tracks : h.Tracks (fun r => n r + heldBy (some runtime) r))
      (r : Nat) (is : some runtime = some r) : h.Live r := by
    cases is
    exact tracks.live_iff.mpr (by simp)
  have twice : (heap.clone (some runtime)).Tracks (fun r => once r + heldBy (some runtime) r) :=
    obtains.tracks.clone (live obtains.tracks) (fun _ => rfl)
  have thrice : ((heap.clone (some runtime)).clone (some runtime)).Tracks
      (fun r => once r + heldBy (some runtime) r + heldBy (some runtime) r) :=
    twice.clone (live twice) (fun _ => rfl)
  refine thrice.drop (fun r => ?_)
  simp only [once]
  omega

theorem cached (obtains : Obtains s key heap runtime) (shared : Shared s)
    (here : runtimes.weak key = some runtime)
    (elsewhere : ∀ other, other ≠ key → runtimes.weak other = s.runtimes.weak other)
    {other : Option Nat} {r : Nat} (config : heap.get? r = some (configOf other))
    (before : r ≠ runtime → 0 < s.held r) : runtimes.weak other = some r := by
  by_cases same : other = key
  · subst same
    rw [here]
    by_cases new : r = runtime
    · rw [new]
    · rw [obtains.only r (obtains.others r _ new config) (before new)]
  · have new : r ≠ runtime := by
      rintro rfl
      exact same (configOf_injective (Option.some.inj (config.symm.trans obtains.config)))
    rw [elsewhere other same]
    exact shared.cached other r (obtains.others r _ new config) (before new)

theorem kept (obtains : Obtains s key heap runtime) (shared : Shared s)
    (here : runtimes.weak key = some runtime)
    (elsewhere : ∀ other, other ≠ key → runtimes.weak other = s.runtimes.weak other)
    {other : Option Nat} {r : Nat} (is : runtimes.weak other = some r) :
    heap.get? r = some (configOf other) := by
  by_cases same : other = key
  · subst same
    cases Option.some.inj (here.symm.trans is)
    exact obtains.config
  · exact obtains.old r _ (shared.kept other r (elsewhere other same ▸ is))

end Shared.Obtains

theorem Shared.connect {s : State} (shared : Shared s) {session : Nat} {key : Option Nat}
    {creates : Bool} {heap : Heap} {runtimes : Runtimes} {runtime : Nat}
    (got : s.runtimes.getRuntime s.heap key creates = some (heap, runtimes, runtime)) :
    Continues s { s with
      heap := ((heap.clone (some runtime)).clone (some runtime)).drop (some runtime)
      runtimes := runtimes
      futures := s.futures ++ [⟨.connect session key (some runtime), some runtime, false, false⟩] } := by
  obtain ⟨here, elsewhere, obtained⟩ := getRuntime_obtained got
  have obtains := shared.obtains obtained
  have contents (r : Nat) :
      (((heap.clone (some runtime)).clone (some runtime)).drop (some runtime)).get? r = heap.get? r := by
    simp
  have held (r : Nat) := held_push s ⟨.connect session key (some runtime), some runtime, false, false⟩ r
    (((heap.clone (some runtime)).clone (some runtime)).drop (some runtime)) runtimes
  simp only [Future.held, FutureKind.held] at held
  have before {r : Nat} (positive : 0 < s.held r + (heldBy (some runtime) r + heldBy (some runtime) r))
      (new : r ≠ runtime) : 0 < s.held r := by
    simpa [heldBy, Ne.symm new] using positive
  refine ⟨⟨?_, ?_, ?_, ?_⟩, ?_, ?_, ?_⟩
  · rw [funext held]
    exact obtains.tracks_two
  · intro other r config positive
    rw [contents] at config
    exact obtains.cached shared here elsewhere config (before (held r ▸ positive))
  · intro other r is
    rw [contents]
    exact obtains.kept shared here elsewhere is
  · intro f inside session key' runtime' is r has
    rw [contents]
    rcases List.mem_append.mp inside with old | new
    · exact obtains.old r _ (shared.asked f old session key' runtime' is r has)
    · cases List.mem_singleton.mp new
      cases is
      rcases has with is | is <;> cases is <;> exact obtains.config
  · intro r is
    obtain ⟨config, is⟩ := Option.isSome_iff_exists.mp is
    rw [ArcHeap.Made, contents, obtains.old r config is]
    rfl
  · intro r is positive
    by_cases new : r = runtime
    · -- a cached one that is still there
      rw [new] at is ⊢
      exact obtains.again is
    · exact before (held r ▸ positive) new
  · intro r absent is
    rw [ArcHeap.Made, contents] at is
    obtain ⟨config, is⟩ := Option.isSome_iff_exists.mp is
    by_cases new : r = runtime
    · rw [held, new, ArcHeap.heldBy_self]
      omega
    · exact absurd (Option.isSome_iff_exists.mpr ⟨config, obtains.others r config new is⟩) absent

theorem Shared.settle {s : State} (shared : Shared s) {sessions : List Session} {futures : List Future}
    (refs : List (Option Nat))
    (less : ∀ r, State.held { s with sessions := sessions, futures := futures } r + refs.count (some r) =
      s.held r)
    (asked : ∀ f ∈ futures, f.Asked s.heap) :
    Continues s { s with heap := s.heap.dropAll refs, sessions := sessions, futures := futures } := by
  refine shared.next (shared.tracks.dropAll refs less) (ArcHeap.get?_dropAll s.heap refs) rfl ?_ asked
  intro r positive
  have before := less r
  have same : State.held { s with heap := s.heap.dropAll refs, sessions := sessions, futures := futures } r =
    State.held { s with sessions := sessions, futures := futures } r := rfl
  omega

theorem Future.Asked.ended {heap : Heap} {f : Future} (asked : f.Asked heap) : f.ended.Asked heap := by
  intro session key ref is r has
  have kind : endedKind f.kind = .connect session key ref := is
  cases connects : f.kind with
  | connect session' key' ref' =>
    rw [connects] at kind
    cases kind
    rcases has with has | has
    · refine asked session key ref' connects r (.inl ?_)
      simp only [Future.ended] at has
      split at has
      · cases has
      · exact has
    · cases has
  | _ => rw [connects] at kind; cases kind

theorem Future.Asked.released {heap : Heap} {f : Future} (asked : f.Asked heap) :
    f.released.1.Asked heap := by
  unfold Future.released
  split
  · intro session key ref is r has
    rcases has with has | has
    · cases has
    · exact asked session key ref is r (.inr has)
  · exact asked

theorem Shared.asked_set {s : State} (shared : Shared s) {i : Nat} {f g : Future}
    (found : s.futures[i]? = some f) (asked : f.Asked s.heap → g.Asked s.heap) :
    ∀ x ∈ s.futures.set i g, x.Asked s.heap := by
  intro x inside
  rcases List.mem_or_eq_of_mem_set inside with old | rfl
  · exact shared.asked x old
  · exact asked (shared.asked f (List.mem_of_getElem? found))

theorem held_exchange {s : State} {i k : Nat} {f g : Future} {p q : Session}
    (future : s.futures[i]? = some f) (session : s.sessions[k]? = some p) (r : Nat) :
    State.held { s with sessions := s.sessions.set k q, futures := s.futures.set i g } r +
      (p.held r + f.held r) = s.held r + (q.held r + g.held r) := by
  have sessions := sum_map_set (y := q) (·.held r) session
  have futures := sum_map_set (y := g) (·.held r) future
  simp only [State.held]
  omega

theorem count_held (ref : Option Nat) (refs : List (Option Nat)) (r : Nat) :
    (ref :: refs).count (some r) = heldBy ref r + refs.count (some r) := by
  simp only [List.count_cons, heldBy, beq_iff_eq]
  omega

theorem Shared.finish {s t : State} (shared : Shared s) {i : Nat} {f : Future} {built : Bool}
    (found : s.futures[i]? = some f) (finished : s.finish i f built = some t) : Continues s t := by
  simp only [State.finish, Option.bind_eq_bind, Option.bind_eq_some_iff] at finished
  obtain ⟨session, isSession, p, there, is⟩ := finished
  cases Option.some.inj is
  refine shared.settle _ (fun r => ?_) (shared.asked_set found Future.Asked.ended)
  have task := f.effect_held built p r
  have left := (f.effect built p).1.released_held (inUse (s.futures.set i f.ended) session) r
  have future := f.ended_held r
  have exchange := held_exchange (g := f.ended)
    (q := ((f.effect built p).1.released (inUse (s.futures.set i f.ended) session)).1) found there r
  simp only [count_held, List.count_nil]
  omega

theorem Shared.futureFree {s : State} (shared : Shared s) {i : Nat} {f : Future}
    (found : s.futures[i]? = some f) :
    Continues s { s with heap := s.heap.drop f.released.2, futures := s.futures.set i f.released.1 } := by
  refine shared.settle [f.released.2] (fun r => ?_) (shared.asked_set found Future.Asked.released)
  have released := f.released_held r
  have futures := sum_map_set (y := f.released.1) (Future.held · r) found
  simp only [count_held, List.count_nil, State.held]
  omega

theorem Shared.setSession {s : State} (shared : Shared s) {k : Nat} {p q : Session}
    (found : s.sessions[k]? = some p) (same : q.connected = p.connected) :
    Continues s { s with sessions := s.sessions.set k q } := by
  have held (r : Nat) : State.held { s with sessions := s.sessions.set k q } r = s.held r := by
    have sessions := sum_map_set (y := q) (Session.held · r) found
    simp only [Session.held, same] at sessions
    simp only [State.held, Session.held]
    omega
  refine shared.next ?_ (fun _ => rfl) rfl (fun r => ?_) shared.asked
  · rw [funext held]
    exact shared.tracks
  · rw [held]
    exact id

theorem Shared.free {s : State} (shared : Shared s) {k : Nat} {p : Session}
    (found : s.sessions[k]? = some p) (locked : Bool) : Continues s (s.free k locked p) := by
  unfold State.free
  dsimp only
  split
  · refine shared.settle [(Session.released { p with freed := true } (inUse s.futures k)).2]
      (fun r => ?_) shared.asked
    have released := Session.released_held { p with freed := true } (inUse s.futures k) r
    have sessions := sum_map_set (y := (Session.released { p with freed := true } (inUse s.futures k)).1)
      (Session.held · r) found
    have same : Session.held { p with freed := true } r = p.held r := rfl
    simp only [count_held, List.count_nil, State.held]
    omega
  · have inside := (List.getElem?_eq_some_iff.mp found).1
    have freed := shared.setSession (q := { p with freed := true }) found rfl
    have plain (session : Nat) (key runtime : Option Nat) :
        FutureKind.close k ≠ .connect session key runtime := by rintro ⟨⟩
    have spawned := freed.toShared.spawn (List.mem_of_getElem? (List.getElem?_set_self inside)) plain false
    exact { spawned with gone := fun r made positive => freed.gone r made (spawned.gone r made positive) }

/-! ## The tasks and what is left of them -/

/-- A task runs the future, or the client has it and it was not ready from the start. -/
def Future.Needs (f : Future) : Prop := f.finished = false ∨ f.freed = false ∧ f.kind ≠ .ready

/-- What is left of futures and sessions whose holders have gone. -/
structure Tidy (s : State) : Prop where
  running : ∀ f ∈ s.futures, f.Needs → f.runtime.isSome = true
  ended : ∀ f ∈ s.futures, f.finished = true →
    (∀ r, f.kind.held r = 0) ∧ (f.freed = true → f.runtime = none)
  abandoned : ∀ k p, s.sessions[k]? = some p → p.freed = true → inUse s.futures k = false →
    p.connected = none

theorem Tidy.initial : Tidy {} := by
  constructor <;> simp

theorem inUse_append (futures : List Future) (f : Future) (k : Nat) :
    inUse (futures ++ [f]) k = (inUse futures k || (!f.finished && f.kind.session == some k)) := by
  simp [inUse]

theorem Tidy.push {s : State} (tidy : Tidy s) (heap : Heap) (runtimes : Runtimes) (f : Future)
    (running : f.Needs → f.runtime.isSome = true)
    (ended : f.finished = true → (∀ r, f.kind.held r = 0) ∧ (f.freed = true → f.runtime = none)) :
    Tidy { s with heap := heap, runtimes := runtimes, futures := s.futures ++ [f] } where
  running g inside := by
    rcases List.mem_append.mp inside with old | new
    · exact tidy.running g old
    · exact List.mem_singleton.mp new ▸ running
  ended g inside := by
    rcases List.mem_append.mp inside with old | new
    · exact tidy.ended g old
    · exact List.mem_singleton.mp new ▸ ended
  abandoned k p found freed idle := by
    rw [inUse_append, Bool.or_eq_false_iff] at idle
    exact tidy.abandoned k p found freed idle.1

theorem inUse_set {futures : List Future} {i k : Nat} {f g : Future} (found : futures[i]? = some f)
    (uses : f.finished = false → f.kind.session = some k → g.finished = false ∧ g.kind.session = some k)
    (idle : inUse (futures.set i g) k = false) : inUse futures k = false := by
  by_contra used
  obtain ⟨x, member, is⟩ := List.any_eq_true.mp (Bool.not_eq_false _ ▸ used)
  obtain ⟨j, at'⟩ := List.getElem?_of_mem member
  have unfinished : x.finished = false ∧ x.kind.session = some k := by simpa using is
  have inside := (List.getElem?_eq_some_iff.mp found).1
  have busy : ∃ y ∈ futures.set i g, y.finished = false ∧ y.kind.session = some k := by
    by_cases same : i = j
    · subst same
      cases Option.some.inj (found.symm.trans at')
      exact ⟨g, List.mem_of_getElem? (List.getElem?_set_self inside), uses unfinished.1 unfinished.2⟩
    · refine ⟨x, List.mem_of_getElem? (i := j) ?_, unfinished⟩
      rwa [List.getElem?_set_ne same]
  obtain ⟨y, there, ends, session⟩ := busy
  have all := List.any_eq_false.mp idle y there
  simp [ends, session] at all

theorem endedKind_held (kind : FutureKind) (r : Nat) : (Future.endedKind kind).held r = 0 := by
  cases kind <;> rfl

theorem Session.released_connected (p : Session) {used : Bool}
    (freed : (p.released used).1.freed = true) (idle : used = false) :
    (p.released used).1.connected = none := by
  subst idle
  unfold Session.released at freed ⊢
  by_cases gone : p.freed = true
  · simp [gone]
  · simp [gone] at freed

theorem Tidy.setFuture {s : State} (tidy : Tidy s) {i : Nat} {g : Future}
    (running : g.Needs → g.runtime.isSome = true)
    (ended : g.finished = true → (∀ r, g.kind.held r = 0) ∧ (g.freed = true → g.runtime = none)) :
    (∀ f ∈ s.futures.set i g, f.Needs → f.runtime.isSome = true) ∧
      ∀ f ∈ s.futures.set i g, f.finished = true →
        (∀ r, f.kind.held r = 0) ∧ (f.freed = true → f.runtime = none) := by
  constructor
  · intro f inside
    rcases List.mem_or_eq_of_mem_set inside with old | rfl
    · exact tidy.running f old
    · exact running
  · intro f inside
    rcases List.mem_or_eq_of_mem_set inside with old | rfl
    · exact tidy.ended f old
    · exact ended

theorem Tidy.finish {s t : State} (tidy : Tidy s) {i : Nat} {f : Future} {built : Bool}
    (found : s.futures[i]? = some f) (finished : s.finish i f built = some t) : Tidy t := by
  simp only [State.finish, Option.bind_eq_bind, Option.bind_eq_some_iff] at finished
  obtain ⟨session, isSession, p, there, is⟩ := finished
  cases Option.some.inj is
  have running : f.ended.Needs → f.ended.runtime.isSome = true := by
    rintro (unfinished | ⟨unfreed, started⟩)
    · cases unfinished
    · have kind : f.kind ≠ .ready := fun ready => started (by simp [Future.ended, ready, Future.endedKind])
      have unfreed : f.freed = false := unfreed
      simp only [Future.ended, unfreed, Bool.false_eq_true, if_false]
      exact tidy.running f (List.mem_of_getElem? found) (.inr ⟨unfreed, kind⟩)
  have futures := tidy.setFuture (i := i) running (fun _ =>
    ⟨endedKind_held f.kind, fun freed => if_pos freed⟩)
  refine ⟨futures.1, futures.2, ?_⟩
  intro k q at' freed idle
  have inside := (List.getElem?_eq_some_iff.mp there).1
  by_cases same : session = k
  · subst same
    cases Option.some.inj ((List.getElem?_set_self inside).symm.trans at')
    exact Session.released_connected _ freed idle
  · rw [List.getElem?_set_ne same] at at'
    refine tidy.abandoned k q at' freed (inUse_set found ?_ idle)
    intro _ uses
    exact absurd (Option.some.inj (isSession.symm.trans uses)) same

theorem Tidy.futureFree {s : State} (tidy : Tidy s) {i : Nat} {f : Future}
    (found : s.futures[i]? = some f) (heap : Heap) :
    Tidy { s with heap := heap, futures := s.futures.set i f.released.1 } := by
  have before := List.mem_of_getElem? found
  have same : f.released.1.finished = f.finished ∧ f.released.1.kind = f.kind := by
    unfold Future.released
    split <;> exact ⟨rfl, rfl⟩
  have freed : f.released.1.freed = true := by
    unfold Future.released
    split <;> rfl
  have futures := tidy.setFuture (i := i) (g := f.released.1)
    (by
      rintro (unfinished | ⟨unfreed, -⟩)
      · rw [same.1] at unfinished
        unfold Future.released
        rw [if_neg (by simp [unfinished])]
        exact tidy.running f before (.inl unfinished)
      · rw [freed] at unfreed
        cases unfreed)
    (by
      intro finished
      rw [same.1] at finished
      rw [same.2]
      refine ⟨(tidy.ended f before finished).1, fun _ => ?_⟩
      unfold Future.released
      rw [if_pos finished])
  refine ⟨futures.1, futures.2, fun k q at' freed idle => tidy.abandoned k q at' freed (inUse_set found ?_ idle)⟩
  intro unfinished uses
  exact ⟨same.1.trans unfinished, same.2 ▸ uses⟩

/- The close that frees a connected session still has it. -/
theorem Tidy.free {s : State} (tidy : Tidy s) {k : Nat} {p : Session}
    (found : s.sessions[k]? = some p) (locked : Bool) : Tidy (s.free k locked p) := by
  have inside := (List.getElem?_eq_some_iff.mp found).1
  unfold State.free
  dsimp only
  split
  · refine ⟨tidy.running, tidy.ended, fun j q at' freed idle => ?_⟩
    by_cases same : k = j
    · subst same
      cases Option.some.inj ((List.getElem?_set_self inside).symm.trans at')
      exact Session.released_connected _ freed idle
    · rw [List.getElem?_set_ne same] at at'
      exact tidy.abandoned j q at' freed idle
  · rename_i kept
    obtain ⟨r, is⟩ : ∃ r, p.connected = some r := by
      cases connected : p.connected with
      | none => simp [connected] at kept
      | some r => exact ⟨r, rfl⟩
    simp only [State.spawn, is, Bool.false_eq_true, if_false]
    have futures := tidy.push (s.heap.clone (some r)) s.runtimes ⟨.close k, some r, false, false⟩
      (fun _ => rfl) (by rintro ⟨⟩)
    refine ⟨futures.running, futures.ended, fun j q at' freed idle => ?_⟩
    rw [inUse_append, Bool.or_eq_false_iff] at idle
    by_cases same : k = j
    · subst same
      simp [FutureKind.session] at idle
    · rw [List.getElem?_set_ne same] at at'
      exact tidy.abandoned j q at' freed idle.1

theorem Tidy.spawn {s : State} (tidy : Tidy s) (kind : FutureKind) (locked : Bool) (p : Session) :
    Tidy (s.spawn kind locked p) := by
  unfold State.spawn
  dsimp only
  split
  · refine tidy.push _ _ _ ?_ (fun _ => ⟨fun _ => rfl, fun _ => rfl⟩)
    rintro (unfinished | ⟨-, started⟩)
    · cases unfinished
    · exact absurd rfl started
  · exact tidy.push _ _ _ (fun _ => rfl) (by rintro ⟨⟩)

theorem Shared.sessionNew {s : State} (shared : Shared s) :
    Continues s { s with sessions := s.sessions ++ [{}] } := by
  have same (r : Nat) : State.held { s with sessions := s.sessions ++ [{}] } r = s.held r := by
    simp [State.held, Session.held]
  refine shared.next ?_ (fun _ => rfl) rfl (fun r => ?_) shared.asked
  · rw [funext same]
    exact shared.tracks
  · rw [same]
    exact id

theorem Tidy.sessionNew {s : State} (tidy : Tidy s) : Tidy { s with sessions := s.sessions ++ [{}] } := by
  refine ⟨tidy.running, tidy.ended, fun k p found freed idle => ?_⟩
  rcases getElem?_snoc found with old | ⟨-, rfl⟩
  · exact tidy.abandoned k p old freed idle
  · rfl

theorem mem_of_usable {s : State} {session : Nat} {p : Session} (usable : s.usable session = some p) :
    s.sessions[session]? = some p := (Option.filter_eq_some_iff.mp usable).1

theorem step_continues {s t : State} {e : Event} (inv : Shared s ∧ Tidy s) (stepped : s.step e = some t) :
    Continues s t ∧ Tidy t := by
  obtain ⟨shared, tidy⟩ := inv
  cases e with
  | sessionNew =>
    cases Option.some.inj stepped
    exact ⟨shared.sessionNew, tidy.sessionNew⟩
  | connect session key creates =>
    obtain ⟨p, usable, rest⟩ := Option.bind_eq_some_iff.mp stepped
    obtain ⟨⟨heap, runtimes, runtime⟩, got, is⟩ := Option.bind_eq_some_iff.mp rest
    cases Option.some.inj is
    exact ⟨shared.connect got, tidy.push _ _ _ (fun _ => rfl) (by rintro ⟨⟩)⟩
  | close session locked =>
    obtain ⟨p, usable, rfl⟩ := Option.map_eq_some_iff.mp stepped
    have member := List.mem_of_getElem? (mem_of_usable usable)
    exact ⟨shared.spawn member (by rintro _ _ _ ⟨⟩) locked, tidy.spawn _ locked p⟩
  | request session locked =>
    obtain ⟨p, usable, rfl⟩ := Option.map_eq_some_iff.mp stepped
    have member := List.mem_of_getElem? (mem_of_usable usable)
    exact ⟨shared.spawn member (by rintro _ _ _ ⟨⟩) locked, tidy.spawn _ locked p⟩
  | finish i built =>
    obtain ⟨f, unfinished, finished⟩ := Option.bind_eq_some_iff.mp stepped
    have found := (Option.filter_eq_some_iff.mp unfinished).1
    exact ⟨shared.finish found finished, tidy.finish found finished⟩
  | futureFree i =>
    obtain ⟨f, unfreed, is⟩ := Option.bind_eq_some_iff.mp stepped
    have found := (Option.filter_eq_some_iff.mp unfreed).1
    cases Option.some.inj is
    exact ⟨shared.futureFree found, tidy.futureFree found _⟩
  | sessionFree session locked =>
    obtain ⟨p, usable, rfl⟩ := Option.map_eq_some_iff.mp stepped
    exact ⟨shared.free (mem_of_usable usable) locked, tidy.free (mem_of_usable usable) locked⟩

theorem step_keeps {s t : State} {e : Event} (inv : Shared s ∧ Tidy s) (stepped : s.step e = some t) :
    Shared t ∧ Tidy t :=
  (step_continues inv stepped).imp_left Continues.toShared

/-! ## When a runtime is shut down -/

/-- Who still uses a runtime: a session that was not freed or that a task has, a future that was
not freed or whose task has not ended, and a task that connects. -/
inductive Needed (s : State) (r : Nat) : Prop where
  | session (k : Nat) (p : Session) (found : s.sessions[k]? = some p) (is : p.connected = some r)
      (reached : p.freed = false ∨ inUse s.futures k = true)
  | future (f : Future) (member : f ∈ s.futures) (is : f.runtime = some r)
      (reached : f.freed = false ∨ f.finished = false)
  | task (f : Future) (member : f ∈ s.futures) (session : Nat) (key : Option Nat)
      (is : f.kind = .connect session key (some r)) (running : f.finished = false)

theorem heldBy_pos {ref : Option Nat} {r : Nat} (positive : 0 < heldBy ref r) : ref = some r := by
  by_contra other
  simp [heldBy, other] at positive

theorem FutureKind.held_pos {kind : FutureKind} {r : Nat} (positive : 0 < kind.held r) :
    ∃ session key, kind = .connect session key (some r) := by
  cases kind with
  | connect session key runtime =>
    cases heldBy_pos positive
    exact ⟨session, key, rfl⟩
  | _ => cases positive

theorem exists_held {s : State} {r : Nat} (positive : 0 < s.held r) :
    (∃ p ∈ s.sessions, 0 < p.held r) ∨ ∃ f ∈ s.futures, 0 < f.held r := by
  by_contra none
  rw [not_or] at none
  have sessions : (s.sessions.map (·.held r)).sum = 0 := by
    refine List.sum_eq_zero (fun n inside => ?_)
    obtain ⟨p, member, rfl⟩ := List.mem_map.mp inside
    exact Nat.eq_zero_of_not_pos (fun some => none.1 ⟨p, member, some⟩)
  have futures : (s.futures.map (·.held r)).sum = 0 := by
    refine List.sum_eq_zero (fun n inside => ?_)
    obtain ⟨f, member, rfl⟩ := List.mem_map.mp inside
    exact Nat.eq_zero_of_not_pos (fun some => none.2 ⟨f, member, some⟩)
  rw [State.held, sessions, futures] at positive
  cases positive

theorem Tidy.needed {s : State} (tidy : Tidy s) {r : Nat} (positive : 0 < s.held r) : Needed s r := by
  rcases exists_held positive with ⟨p, member, holds⟩ | ⟨f, member, holds⟩
  · obtain ⟨k, found⟩ := List.getElem?_of_mem member
    have is : p.connected = some r := heldBy_pos holds
    refine .session k p found is ?_
    by_contra unreached
    simp only [not_or, Bool.not_eq_false, Bool.not_eq_true] at unreached
    rw [tidy.abandoned k p found unreached.1 unreached.2] at is
    cases is
  · cases finished : f.finished with
    | false =>
      by_cases own : 0 < heldBy f.runtime r
      · exact .future f member (heldBy_pos own) (.inr finished)
      · have ofTask : 0 < f.kind.held r := by
          rw [Future.held] at holds
          omega
        obtain ⟨session, key, is⟩ := FutureKind.held_pos ofTask
        exact .task f member session key is finished
    | true =>
      obtain ⟨unheld, gone⟩ := tidy.ended f member finished
      have is : f.runtime = _ := heldBy_pos (r := r) (by rwa [Future.held, unheld] at holds)
      refine .future f member is (.inl ?_)
      by_contra freed
      rw [gone (by simpa using freed)] at is
      cases is

theorem Needed.held_pos {s : State} {r : Nat} (needed : Needed s r) : 0 < s.held r := by
  cases needed with
  | session k p found is =>
    have le := Session.held_le (List.mem_of_getElem? found) r
    rwa [Session.held, is, ArcHeap.heldBy_self] at le
  | future f member is =>
    have le := Future.held_le member r
    rw [Future.held, is, ArcHeap.heldBy_self] at le
    omega
  | task f member session key is =>
    have le := Future.held_le member r
    rw [Future.held, is, FutureKind.held, ArcHeap.heldBy_self] at le
    omega

theorem live_iff_needed {s : State} (shared : Shared s) (tidy : Tidy s) (r : Nat) :
    s.heap.Live r ↔ Needed s r :=
  shared.tracks.live_iff.trans ⟨tidy.needed, Needed.held_pos⟩

/-- How often a run shuts a runtime down: its last reference is dropped. -/
def shutdowns (r : Nat) (s : State) : List Event → Nat
  | [] => 0
  | e :: rest =>
    match s.step e with
    | none => 0
    | some t => (if s.heap.Live r ∧ ¬ t.heap.Live r then 1 else 0) + shutdowns r t rest

/-- It was made, and it is not there any more. -/
abbrev Gone (s : State) (r : Nat) : Prop := s.heap.Made r ∧ ¬ s.heap.Live r

theorem Continues.gone_iff {s t : State} (shared : Shared s) (next : Continues s t) (r : Nat) :
    Gone t r ↔ Gone s r ∨ s.heap.Live r ∧ ¬ t.heap.Live r := by
  constructor
  · rintro ⟨made, dead⟩
    by_cases before : s.heap.Made r
    · by_cases live : s.heap.Live r
      · exact .inr ⟨live, dead⟩
      · exact .inl ⟨before, live⟩
    · exact absurd (next.tracks.live_iff.mpr (next.fresh r before made)) dead
  · rintro (⟨made, dead⟩ | ⟨live, dead⟩)
    · refine ⟨next.made r made, fun live => dead ?_⟩
      exact shared.tracks.live_iff.mpr (next.gone r made (next.tracks.live_iff.mp live))
    · exact ⟨next.made r live.made, dead⟩

/- Once it is gone it is not shut down again. -/
theorem shutdowns_add_gone {s t : State} (inv : Shared s ∧ Tidy s) {events : List Event}
    (ran : run State.step s events = some t) (r : Nat) :
    shutdowns r s events + (if Gone s r then 1 else 0) = if Gone t r then 1 else 0 := by
  induction events generalizing s with
  | nil =>
    cases Option.some.inj ran
    exact Nat.zero_add _
  | cons e rest ih =>
    obtain ⟨next, stepped, ran⟩ := run_cons_some.mp ran
    have iff := (step_continues inv stepped).1.gone_iff inv.1 r
    have later := ih (step_keeps inv stepped) ran
    have apart : ¬ (Gone s r ∧ s.heap.Live r) := fun both => both.1.2 both.2
    rw [shutdowns, stepped, ← later]
    dsimp only
    by_cases gone : Gone s r
    · have dead := mt (And.intro gone) apart
      rw [if_pos gone, if_pos (iff.mpr (.inl gone)), if_neg (fun both => dead both.1), Nat.zero_add]
    · rw [if_neg gone]
      simp only [iff, gone, false_or]
      omega

/-- In any order of calls and ends of tasks: the runtime of every task that has not ended, of
every future that was not freed and of every connected session is there, and it is as the cluster
of the session asked; no two runtimes of a kind are there at once; a runtime is there while someone
needs it; and it is shut down once, when nobody does. -/
theorem runtimes_shared_and_released (events : List Event) (s : State)
    (ran : run State.step {} events = some s) :
    (∀ f ∈ s.futures, f.Needs → ∃ r, f.runtime = some r ∧ s.heap.Live r) ∧
      (∀ p ∈ s.sessions, ∀ r, p.connected = some r → s.heap.Live r) ∧
      (∀ f ∈ s.futures, f.Asked s.heap) ∧
      (∀ key q r, s.heap.get? q = some (configOf key) → s.heap.get? r = some (configOf key) →
        s.heap.Live q → s.heap.Live r → q = r) ∧
      (∀ r, s.heap.Live r ↔ Needed s r) ∧
      (∀ r, shutdowns r {} events = if s.heap.Made r ∧ ¬ s.heap.Live r then 1 else 0) ∧
      ((∀ p ∈ s.sessions, p.freed = true) → (∀ f ∈ s.futures, f.finished = true ∧ f.freed = true) →
        ∀ r, ¬ s.heap.Live r) := by
  have initial : Shared {} ∧ Tidy {} := ⟨Shared.initial, Tidy.initial⟩
  obtain ⟨shared, tidy⟩ := run_invariant (fun _ _ _ => step_keeps) initial ran
  have live := live_iff_needed shared tidy
  refine ⟨fun f member needs => ?_, fun p member r is => ?_, shared.asked,
    fun key q r first second liveFirst liveSecond => ?_, live, fun r => ?_,
    fun sessions futures r alive => ?_⟩
  · obtain ⟨r, is⟩ := Option.isSome_iff_exists.mp (tidy.running f member needs)
    refine ⟨r, is, (live r).mpr (.future f member is ?_)⟩
    exact needs.symm.imp_left And.left
  · have le := Session.held_le member r
    simp only [Session.held, is, ArcHeap.heldBy_self] at le
    exact shared.tracks.live_iff.mpr le
  · have one := shared.cached key q first (shared.tracks.live_iff.mp liveFirst)
    have other := shared.cached key r second (shared.tracks.live_iff.mp liveSecond)
    exact Option.some.inj (one.symm.trans other)
  · exact shutdowns_add_gone initial ran r
  · have idle (f : Future) (member : f ∈ s.futures) : ¬ f.finished = false := by
      simp [(futures f member).1]
    cases (live r).mp alive with
    | session k p found is reached =>
      rcases reached with kept | used
      · simp [sessions p (List.mem_of_getElem? found)] at kept
      · obtain ⟨f, member, uses⟩ := List.any_eq_true.mp used
        simp [(futures f member).1] at uses
    | future f member is reached =>
      rcases reached with kept | running
      · simp [(futures f member).2] at kept
      · exact idle f member running
    | task f member session key is running => exact idle f member running

/- Two sessions share a runtime; a request outlives both, and its future keeps the runtime until
it is freed. -/
theorem runtimes_shared_and_released_two :
    let events : List Event := [.sessionNew, .sessionNew, .connect 0 (some 2) true,
      .connect 1 (some 2) true, .finish 0 true, .finish 1 true, .request 1 false, .futureFree 0,
      .futureFree 1, .sessionFree 0 false, .finish 3 true, .futureFree 3, .sessionFree 1 true,
      .finish 2 true]
    (∃ s, run State.step {} events = some s ∧ s.heap.Live 0 ∧ shutdowns 0 {} events = 0) ∧
      ∃ s, run State.step {} (events ++ [.futureFree 2]) = some s ∧ ¬ s.heap.Live 0 ∧
        shutdowns 0 {} (events ++ [.futureFree 2]) = 1 := by
  intro events
  have kept : (run State.step {} events).map (·.futures) =
      some [⟨.connect 0 (some 2) none, none, true, true⟩, ⟨.connect 1 (some 2) none, none, true, true⟩,
        ⟨.request 1, some 0, true, false⟩, ⟨.close 0, none, true, true⟩] := by decide
  have ended : (run State.step {} (events ++ [.futureFree 2])).map
      (fun s => (s.sessions, s.futures, s.heap.get? 0)) =
        some ([⟨none, true⟩, ⟨none, true⟩], [⟨.connect 0 (some 2) none, none, true, true⟩,
          ⟨.connect 1 (some 2) none, none, true, true⟩, ⟨.request 1, none, true, true⟩,
          ⟨.close 0, none, true, true⟩], some (.multiThread 2)) := by decide
  obtain ⟨s, ranFirst, isFirst⟩ := Option.map_eq_some_iff.mp kept
  obtain ⟨t, ranAll, isAll⟩ := Option.map_eq_some_iff.mp ended
  refine ⟨⟨s, ranFirst, ?_⟩, t, ranAll, ?_⟩
  · obtain ⟨needs, -, -, -, -, once, -⟩ := runtimes_shared_and_released events s ranFirst
    obtain ⟨r, is, live⟩ := needs ⟨.request 1, some 0, true, false⟩ (by rw [isFirst]; decide)
      (.inr ⟨rfl, by decide⟩)
    cases is
    exact ⟨live, (once 0).trans (if_neg (fun gone => gone.2 live))⟩
  · obtain ⟨-, -, -, -, -, once, released⟩ := runtimes_shared_and_released _ t ranAll
    have sessions : t.sessions = _ := congrArg Prod.fst isAll
    have futures : t.futures = _ := congrArg (fun x => x.2.1) isAll
    have config : t.heap.get? 0 = _ := congrArg (fun x => x.2.2) isAll
    have dead := released (by rw [sessions]; decide) (by rw [futures]; decide) 0
    have made : t.heap.Made 0 := by
      rw [ArcHeap.Made, config]
      rfl
    exact ⟨dead, (once 0).trans (if_pos ⟨made, dead⟩)⟩

end CppRsDriver.Runtime
