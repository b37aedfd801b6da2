import CppRsDriver.Lib.Potential
import CppRsDriver.Session.Lifecycle

/-! The futures of a session come to an end, unless the driver underneath keeps them waiting.
The lock has no holder and no waiter but futures that are under way, and it is given back
when they finish. -/
namespace CppRsDriver.Session.Lifecycle

open CppRsDriver.Lib

variable {C R E : Type}

namespace SessionFuture

/-- The future is in the queue for the write lock. -/
def waits : SessionFuture C R E → Bool
  | .connect _ .waiting | .close .waiting => true
  | _ => false

/-- Only the driver underneath can bring the future on. -/
def awaitsDriver : SessionFuture C R E → Bool
  | .connect _ .building | .request _ _ (.running _) => true
  | _ => false

def isFinished : SessionFuture C R E → Bool
  | .ready _ | .connect _ (.finished _) | .close (.finished _) | .request _ _ (.finished _ _) => true
  | _ => false

/-- The steps of a future that are still to come at most. -/
def rank : SessionFuture C R E → Nat
  | .connect _ .spawned => 4
  | .connect _ .waiting => 3
  | .connect _ .holding => 2
  | .connect _ .building => 1
  | .close .spawned => 3
  | .close .waiting => 2
  | .close .holding => 1
  | .request _ _ .called => 2
  | .request _ _ (.running _) => 1
  | _ => 0

end SessionFuture

/-- Calls made by the client. -/
def Event.isCall : Event C R E → Bool
  | .connect _ | .close | .request _ => true
  | _ => false

/-- Events that wait for nobody outside. -/
def Event.isOwn : Event C R E → Bool
  | .poll _ | .grant => true
  | _ => false

def State.potential (s : State C R E) : Nat := (s.futures.map SessionFuture.rank).sum

section Potential
variable {s s' : State C R E} {e : Event C R E}

def Event.refund (e : Event C R E) : Nat := if e.isCall then 5 else 0

theorem SessionFuture.rank_le (future : SessionFuture C R E) : future.rank ≤ 4 := by
  unfold SessionFuture.rank
  split <;> omega

theorem State.push_potential (s : State C R E) (new : SessionFuture C R E) :
    (s.push new).potential ≤ s.potential + 4 := by
  have bound := new.rank_le
  simp only [State.potential, State.push, List.map_append, List.map_cons, List.map_nil,
    List.sum_append, List.sum_cons, List.sum_nil]
  omega

theorem State.put_potential {i : Nat} {old new : SessionFuture C R E}
    (at' : s.futures[i]? = some old) (lower : new.rank + 1 ≤ old.rank) :
    (s.put i new).potential + 1 ≤ s.potential := by
  have moved := sum_map_set SessionFuture.rank (y := new) at'
  simp only [State.potential, State.put]
  omega

theorem State.Next.potential_lt (next : s.Next e s') :
    s'.potential + 1 ≤ s.potential + e.refund := by
  cases next with
  | connect | closeRefused | close | requestRefused | request =>
    exact Nat.add_le_add_right (s.push_potential _) 1
  | connectWaits i _ at' | closeWaits i at' | connectHolds i _ _ at' | closeHolds i _ at'
  | connectRefused i _ _ at' | builds i _ at' | connectFails i _ _ at' | connects i _ _ at'
  | closeFails i _ at' | closes i at' | handsBack i _ _ _ at' | starts i _ _ _ at'
  | panics i _ _ at' | answers i _ _ _ _ at' =>
    exact State.put_potential at' (by simp [SessionFuture.rank])

theorem refund_sum (events : List (Event C R E)) :
    (events.map Event.refund).sum = 5 * events.countP Event.isCall := by
  induction events with
  | nil => rfl
  | cons event rest ih =>
    rw [List.map_cons, List.sum_cons, ih, List.countP_cons, Event.refund]
    split <;> omega

end Potential

/-- The lock is in use by futures under way only, and its queue is the futures that wait. -/
structure State.Kept (s : State C R E) : Prop where
  readers : ∀ i ∈ s.lock.readers, ∃ future, s.futures[i]? = some future ∧ future.reads = true
  writer : ∀ i ∈ s.lock.writer, ∃ future, s.futures[i]? = some future ∧ future.writes = true
  queue : ∀ i ∈ s.lock.waiting, ∃ future, s.futures[i]? = some future ∧ future.waits = true
  waiting : ∀ (i : Nat) future, s.futures[i]? = some future → future.waits = true →
    i ∈ s.lock.waiting
  once : s.lock.waiting.Nodup

namespace State.Kept
variable {s : State C R E}

theorem not_reader (kept : s.Kept) {i : Nat} {future : SessionFuture C R E}
    (at' : s.futures[i]? = some future) (idle : future.reads = false) : i ∉ s.lock.readers := by
  intro member
  obtain ⟨same, is, reads⟩ := kept.readers i member
  cases Option.some.inj (at'.symm.trans is)
  rw [idle] at reads
  cases reads

theorem not_writer (kept : s.Kept) {i : Nat} {future : SessionFuture C R E}
    (at' : s.futures[i]? = some future) (idle : future.writes = false) : i ∉ s.lock.writer := by
  intro member
  obtain ⟨same, is, writes⟩ := kept.writer i member
  cases Option.some.inj (at'.symm.trans is)
  rw [idle] at writes
  cases writes

theorem not_queued (kept : s.Kept) {i : Nat} {future : SessionFuture C R E}
    (at' : s.futures[i]? = some future) (idle : future.waits = false) : i ∉ s.lock.waiting := by
  intro member
  obtain ⟨same, is, waits⟩ := kept.queue i member
  cases Option.some.inj (at'.symm.trans is)
  rw [idle] at waits
  cases waits

theorem push (kept : s.Kept) {new : SessionFuture C R E} (idle : new.waits = false)
    {readers : List Nat}
    (reading : ∀ j ∈ readers, j ∈ s.lock.readers ∨ j = s.futures.length ∧ new.reads = true) :
    Kept { s.push new with lock := { s.lock with readers := readers } } := by
  have old : ∀ (j : Nat) future, s.futures[j]? = some future →
      (s.push new).futures[j]? = some future := by
    intro j future at'
    rw [State.push, List.getElem?_append_left (List.getElem?_eq_some_iff.mp at').1, at']
  refine ⟨?_, ?_, ?_, ?_, kept.once⟩
  · intro j member
    rcases reading j member with before | ⟨rfl, reads⟩
    · obtain ⟨future, at', reads⟩ := kept.readers j before
      exact ⟨future, old j future at', reads⟩
    · exact ⟨new, List.getElem?_concat_length, reads⟩
  · intro j member
    obtain ⟨future, at', writes⟩ := kept.writer j member
    exact ⟨future, old j future at', writes⟩
  · intro j member
    obtain ⟨future, at', waits⟩ := kept.queue j member
    exact ⟨future, old j future at', waits⟩
  · intro j future at' waits
    rcases getElem?_snoc at' with before | ⟨-, rfl⟩
    · exact kept.waiting j future before waits
    · rw [idle] at waits
      cases waits

theorem put (kept : s.Kept) {i : Nat} {old new : SessionFuture C R E} {lock : RwLock Nat}
    {connected : Option C} {clientId : Nat} (at' : s.futures[i]? = some old)
    (reading : ∀ j ∈ lock.readers, j ≠ i ∧ j ∈ s.lock.readers ∨ j = i ∧ new.reads = true)
    (writing : ∀ j ∈ lock.writer, j ≠ i ∧ j ∈ s.lock.writer ∨ j = i ∧ new.writes = true)
    (queued : ∀ j, j ∈ lock.waiting ↔ j ≠ i ∧ j ∈ s.lock.waiting ∨ j = i ∧ new.waits = true)
    (once : lock.waiting.Nodup) :
    Kept { s.put i new with connected := connected, clientId := clientId, lock := lock } := by
  have self : (s.put i new).futures[i]? = some new :=
    List.getElem?_set_self (List.getElem?_eq_some_iff.mp at').1
  have others : ∀ (j : Nat) future, j ≠ i → s.futures[j]? = some future →
      (s.put i new).futures[j]? = some future := by
    intro j future ne there
    rw [State.put, List.getElem?_set_ne ne.symm, there]
  refine ⟨?_, ?_, ?_, ?_, once⟩
  · intro j member
    rcases reading j member with ⟨ne, before⟩ | ⟨rfl, reads⟩
    · obtain ⟨future, there, reads⟩ := kept.readers j before
      exact ⟨future, others j future ne there, reads⟩
    · exact ⟨new, self, reads⟩
  · intro j member
    rcases writing j member with ⟨ne, before⟩ | ⟨rfl, writes⟩
    · obtain ⟨future, there, writes⟩ := kept.writer j before
      exact ⟨future, others j future ne there, writes⟩
    · exact ⟨new, self, writes⟩
  · intro j member
    rcases (queued j).mp member with ⟨ne, before⟩ | ⟨rfl, waits⟩
    · obtain ⟨future, there, waits⟩ := kept.queue j before
      exact ⟨future, others j future ne there, waits⟩
    · exact ⟨new, self, waits⟩
  · intro j future there waits
    rcases put_at there with ⟨rfl, rfl⟩ | ⟨ne, before⟩
    · exact (queued j).mpr (.inr ⟨rfl, waits⟩)
    · exact (queued j).mpr (.inl ⟨ne, kept.waiting j future before waits⟩)

theorem unread (kept : s.Kept) {i : Nat} {old : SessionFuture C R E}
    (at' : s.futures[i]? = some old) (idle : old.reads = false) (new : Bool) (j : Nat)
    (member : j ∈ s.lock.readers) : j ≠ i ∧ j ∈ s.lock.readers ∨ j = i ∧ new = true :=
  .inl ⟨fun eq => kept.not_reader at' idle (eq ▸ member), member⟩

theorem unwritten (kept : s.Kept) {i : Nat} {old : SessionFuture C R E}
    (at' : s.futures[i]? = some old) (idle : old.writes = false) (new : Bool) (j : Nat)
    (member : j ∈ s.lock.writer) : j ≠ i ∧ j ∈ s.lock.writer ∨ j = i ∧ new = true :=
  .inl ⟨fun eq => kept.not_writer at' idle (eq ▸ member), member⟩

theorem unqueued (kept : s.Kept) {i : Nat} {old : SessionFuture C R E}
    (at' : s.futures[i]? = some old) (idle : old.waits = false) (j : Nat) :
    j ∈ s.lock.waiting ↔ j ≠ i ∧ j ∈ s.lock.waiting ∨ j = i ∧ false = true := by
  constructor
  · exact fun member => .inl ⟨fun eq => kept.not_queued at' idle (eq ▸ member), member⟩
  · rintro (⟨-, member⟩ | ⟨-, no⟩)
    · exact member
    · cases no

theorem enqueue (kept : s.Kept) {i : Nat} {old new : SessionFuture C R E}
    (at' : s.futures[i]? = some old) (reads : old.reads = false) (writes : old.writes = false)
    (unqueued : old.waits = false) (waits : new.waits = true) :
    Kept { s.put i new with lock := s.lock.enqueue i } := by
  have absent := kept.not_queued at' unqueued
  refine kept.put at' (kept.unread at' reads _) (kept.unwritten at' writes _) ?_ ?_
  · intro j
    rw [RwLock.enqueue, List.mem_append, List.mem_singleton, waits]
    constructor
    · rintro (member | rfl)
      · exact .inl ⟨fun eq => absent (eq ▸ member), member⟩
      · exact .inr ⟨rfl, rfl⟩
    · rintro (⟨-, member⟩ | ⟨rfl, -⟩)
      · exact .inl member
      · exact .inr rfl
  · exact List.nodup_append_comm.mp (List.nodup_cons.mpr ⟨absent, kept.once⟩)

theorem grant (kept : s.Kept) {i : Nat} {old new : SessionFuture C R E} {lock : RwLock Nat}
    (at' : s.futures[i]? = some old) (granted : s.lock.grant = some (i, lock))
    (writes : new.writes = true) (waits : new.waits = false) :
    Kept { s.put i new with lock := lock } := by
  obtain ⟨-, -, alone, writer⟩ := RwLock.grant_inv granted
  have queue := RwLock.grant_waiting granted
  have once := kept.once
  rw [queue, List.nodup_cons] at once
  refine kept.put at' ?_ ?_ ?_ once.2
  · intro j member
    rw [alone] at member
    exact absurd member List.not_mem_nil
  · intro j member
    rw [writer] at member
    exact .inr ⟨(Option.some.inj member).symm, writes⟩
  · intro j
    rw [queue, List.mem_cons, waits]
    constructor
    · exact fun member => .inl ⟨fun eq => once.1 (eq ▸ member), .inr member⟩
    · rintro (⟨ne, rfl | member⟩ | ⟨-, no⟩)
      · exact absurd rfl ne
      · exact member
      · cases no

theorem releaseWrite (kept : s.Kept) {i : Nat} {old new : SessionFuture C R E}
    {connected : Option C} (at' : s.futures[i]? = some old) (reads : old.reads = false)
    (unqueued : old.waits = false) (waits : new.waits = false) :
    Kept { s.put i new with connected := connected, lock := s.lock.releaseWrite } := by
  refine kept.put at' (kept.unread at' reads _) ?_ ?_ kept.once
  · intro j member
    cases member
  · rw [waits]
    exact kept.unqueued at' unqueued

theorem releaseRead (kept : s.Kept) {i : Nat} {old new : SessionFuture C R E}
    (at' : s.futures[i]? = some old) (writes : old.writes = false) (unqueued : old.waits = false)
    (waits : new.waits = false) : Kept { s.put i new with lock := s.lock.releaseRead i } := by
  refine kept.put at' ?_ (kept.unwritten at' writes _) ?_ kept.once
  · intro j member
    obtain ⟨before, ne⟩ := RwLock.mem_releaseRead.mp member
    exact .inl ⟨ne, before⟩
  · rw [waits]
    exact kept.unqueued at' unqueued

theorem initial (clientId : Nat) : (new clientId : State C R E).Kept := by
  refine ⟨?_, ?_, ?_, ?_, List.nodup_nil⟩
  · exact fun i member => absurd member List.not_mem_nil
  · exact fun i member => by cases member
  · exact fun i member => absurd member List.not_mem_nil
  · exact fun i future at' => by cases at'

theorem next (kept : s.Kept) {e : Event C R E} {s' : State C R E} (next : s.Next e s') : s'.Kept := by
  cases next with
  | connect | closeRefused | close | requestRefused =>
    exact kept.push rfl (fun j member => .inl member)
  | request kind present lock read is =>
    obtain ⟨-, rfl⟩ := RwLock.tryRead_inv read
    refine kept.push rfl (fun j member => ?_)
    rcases List.mem_cons.mp member with rfl | before
    · exact .inr ⟨rfl, rfl⟩
    · exact .inl before
  | connectWaits i _ at' | closeWaits i at' => exact kept.enqueue at' rfl rfl rfl rfl
  | connectHolds i _ lock at' granted | closeHolds i lock at' granted =>
    exact kept.grant at' granted rfl rfl
  | connectRefused i _ _ at' | connectFails i _ _ at' | closeFails i _ at' | connects i _ _ at'
  | closes i at' => exact kept.releaseWrite at' rfl rfl rfl
  | handsBack i _ _ _ at' | panics i _ _ at' | answers i _ _ _ _ at' =>
    exact kept.releaseRead at' rfl rfl rfl
  | builds i clusterClientId at' none =>
    refine kept.put at' (kept.unread at' rfl _) ?_ (kept.unqueued at' rfl) kept.once
    intro j member
    by_cases eq : j = i
    · exact .inr ⟨eq, rfl⟩
    · exact .inl ⟨eq, member⟩
  | starts i kind present connection at' is =>
    refine kept.put at' ?_ (kept.unwritten at' rfl _) (kept.unqueued at' rfl) kept.once
    intro j member
    by_cases eq : j = i
    · exact .inr ⟨eq, rfl⟩
    · exact .inl ⟨eq, member⟩

end State.Kept

section Rest
variable {s : State C R E}

/-- No future can go on by itself, and the lock goes to nobody. -/
def State.AtRest (s : State C R E) : Prop := ∀ e : Event C R E, e.isOwn = true → s.step e = none

theorem State.AtRest.phase (rest : s.AtRest) (inv : s.Inv) {i : Nat} {future : SessionFuture C R E}
    (at' : s.futures[i]? = some future) :
    future.isFinished = true ∨ future.awaitsDriver = true ∨ future.waits = true := by
  have stuck : s.step (.poll i) = none := rest (.poll i) rfl
  simp only [State.step, at'] at stuck
  cases future with
  | ready failure => exact .inl rfl
  | connect clusterClientId phase =>
    cases phase with
    | spawned => cases stuck
    | waiting => exact .inr (.inr rfl)
    | holding => cases stuck
    | building => exact .inr (.inl rfl)
    | finished result => exact .inl rfl
  | close phase =>
    cases phase with
    | spawned => cases stuck
    | waiting => exact .inr (.inr rfl)
    | holding => cases stuck
    | finished result => exact .inl rfl
  | request kind present phase =>
    cases phase with
    | called => cases stuck
    | running connection => exact .inr (.inl rfl)
    | finished ranOn result => exact .inl rfl
    | panicked => exact (inv.sound i _ at').elim

theorem SessionFuture.awaitsDriver_of_guard {future : SessionFuture C R E}
    (guarded : future.reads = true ∨ future.writes = true)
    (phase : future.isFinished = true ∨ future.awaitsDriver = true ∨ future.waits = true) :
    future.awaitsDriver = true := by
  cases future with
  | ready failure => rcases guarded with no | no <;> cases no
  | connect clusterClientId connecting =>
    cases connecting <;> simp_all [SessionFuture.reads, SessionFuture.writes,
      SessionFuture.isFinished, SessionFuture.awaitsDriver, SessionFuture.waits]
  | close closing =>
    cases closing <;> simp_all [SessionFuture.reads, SessionFuture.writes,
      SessionFuture.isFinished, SessionFuture.awaitsDriver, SessionFuture.waits]
  | request kind present requesting =>
    cases requesting <;> simp_all [SessionFuture.reads, SessionFuture.writes,
      SessionFuture.isFinished, SessionFuture.awaitsDriver, SessionFuture.waits]

theorem SessionFuture.waits_cases {future : SessionFuture C R E} (waits : future.waits = true) :
    (∃ clusterClientId, future = .connect clusterClientId .waiting) ∨ future = .close .waiting := by
  unfold SessionFuture.waits at waits
  split at waits
  · exact .inl ⟨_, rfl⟩
  · exact .inr rfl
  · cases waits

/-- Where a future waits for the lock, another one has it and waits for the driver. -/
theorem State.AtRest.lock_held (rest : s.AtRest) (inv : s.Inv) (kept : s.Kept) {i : Nat}
    {future : SessionFuture C R E} (at' : s.futures[i]? = some future) (waits : future.waits = true) :
    ∃ (j : Nat) (other : SessionFuture C R E),
      s.futures[j]? = some other ∧ other.awaitsDriver = true := by
  have queued := kept.waiting i future at' waits
  cases writer : s.lock.writer with
  | some j =>
    obtain ⟨other, there, writes⟩ := kept.writer j writer
    exact ⟨j, other, there, SessionFuture.awaitsDriver_of_guard (.inr writes) (rest.phase inv there)⟩
  | none =>
    cases readers : s.lock.readers with
    | cons j others =>
      obtain ⟨other, there, reads⟩ := kept.readers j (readers ▸ List.mem_cons_self)
      exact ⟨j, other, there, SessionFuture.awaitsDriver_of_guard (.inl reads) (rest.phase inv there)⟩
    | nil =>
      obtain ⟨j, lock, granted⟩ := RwLock.grant_isSome writer readers queued
      have first : j ∈ s.lock.waiting := by
        rw [RwLock.grant_waiting granted]
        exact List.mem_cons_self
      obtain ⟨other, there, waits⟩ := kept.queue j first
      have stuck : s.step .grant = none := rest .grant rfl
      simp only [State.step, granted, there] at stuck
      rcases SessionFuture.waits_cases waits with ⟨clusterClientId, rfl⟩ | rfl <;> cases stuck

theorem State.AtRest.finished (rest : s.AtRest) (inv : s.Inv) (kept : s.Kept) :
    (∃ (i : Nat) (future : SessionFuture C R E),
      s.futures[i]? = some future ∧ future.awaitsDriver = true) ∨
    ∀ (i : Nat) future, s.futures[i]? = some future → future.isFinished = true := by
  by_cases unfinished : ∀ (i : Nat) future, s.futures[i]? = some future → future.isFinished = true
  · exact .inr unfinished
  · push Not at unfinished
    obtain ⟨i, future, at', unfinished⟩ := unfinished
    left
    rcases rest.phase inv at' with finished | awaits | waits
    · exact absurd finished unfinished
    · exact ⟨i, future, at', awaits⟩
    · exact rest.lock_held inv kept at' waits

theorem State.driver_enabled (e : E) (r : R) {i : Nat} {future : SessionFuture C R E}
    (at' : s.futures[i]? = some future) (awaits : future.awaitsDriver = true) :
    ∃ event : Event C R E, event.isCall = false ∧ s.step event ≠ none := by
  cases future with
  | ready failure => cases awaits
  | connect clusterClientId phase =>
    cases phase with
    | building =>
      refine ⟨.built i (.error e), rfl, ?_⟩
      simp only [State.step, at']
      exact Option.some_ne_none _
    | _ => cases awaits
  | close phase => cases awaits
  | request kind present phase =>
    cases phase with
    | running connection =>
      refine ⟨.answered i r, rfl, ?_⟩
      simp only [State.step, at']
      exact Option.some_ne_none _
    | _ => cases awaits

end Rest

theorem State.Next.length_kept {s s' : State C R E} {e : Event C R E} (next : s.Next e s')
    (own : e.isCall = false) : s'.futures.length = s.futures.length := by
  cases next with
  | connect | closeRefused | close | requestRefused | request => cases own
  | _ => exact List.length_set

theorem run_length_kept {s final : State C R E} {events : List (Event C R E)}
    (own : ∀ e ∈ events, e.isCall = false) (ran : run State.step s events = some final) :
    final.futures.length = s.futures.length := by
  induction events generalizing s with
  | nil => cases Option.some.inj ran; rfl
  | cons e rest ih =>
    obtain ⟨first, later⟩ := List.forall_mem_cons.mp own
    obtain ⟨next, stepped, went⟩ := run_cons_some.mp ran
    exact (ih later went).trans ((State.step_next stepped).length_kept first)

section Main

theorem run_kept {clientId : Nat} {events : List (Event C R E)} {s : State C R E}
    (ran : run State.step (new clientId) events = some s) : s.Kept :=
  run_invariant (fun _ _ _ kept stepped => kept.next (State.step_next stepped)) (.initial clientId) ran

/-- No future of a session is left behind, for any interleaving of the calls on it and of the
futures' steps. The futures take at most four steps each; where none of them can go on by
itself, one waits for the driver underneath or all have finished; and if the driver answers
they can all be brought to their end without another call. -/
theorem session_futures_finish (clientId : Nat) (events : List (Event C R E)) (s : State C R E)
    (ran : run State.step (new clientId) events = some s) :
    events.length ≤ 5 * events.countP Event.isCall ∧
    (s.AtRest →
      (∃ (i : Nat) (future : SessionFuture C R E),
        s.futures[i]? = some future ∧ future.awaitsDriver = true) ∨
      ∀ (i : Nat) future, s.futures[i]? = some future → future.isFinished = true) ∧
    ∀ (_ : E) (_ : R), ∃ more final, (∀ event ∈ more, event.isCall = false) ∧
      run State.step s more = some final ∧ final.futures.length = s.futures.length ∧
      ∀ (i : Nat) future, final.futures[i]? = some future → future.isFinished = true := by
  have lowers : ∀ (s : State C R E) e s', True → s.step e = some s' →
      s'.potential + 1 ≤ s.potential + e.refund :=
    fun s e s' _ stepped => (State.step_next stepped).potential_lt
  refine ⟨?_, fun rest => rest.finished (run_inv ran) (run_kept ran), ?_⟩
  · have bound := run_potential (fun _ _ _ _ _ => trivial) lowers trivial ran
    have start : (new clientId : State C R E).potential = 0 := rfl
    rw [refund_sum] at bound
    omega
  · intro e r
    obtain ⟨more, final, own, went, rest⟩ :=
      run_to_rest (fun event : Event C R E => event.isCall = false) (fun _ _ _ _ _ => trivial)
        (fun s event s' _ own stepped => by
          have lower := lowers s event s' trivial stepped
          rw [Event.refund, own] at lower
          exact lower) s trivial
    have whole : run State.step (new clientId) (events ++ more) = some final := by
      rw [run_append, ran]
      exact went
    have still : final.AtRest := by
      intro event mine
      refine rest event ?_
      cases event <;> first | rfl | cases mine
    refine ⟨more, final, own, went, run_length_kept own went, ?_⟩
    rcases still.finished (run_inv whole) (run_kept whole) with ⟨i, future, at', awaits⟩ | finished
    · obtain ⟨event, own, enabled⟩ := State.driver_enabled e r at' awaits
      exact absurd (rest event own) enabled
    · exact finished

/- A close and a second connect are queued behind a request that is under way. -/
def queuedRun : List (Event Nat Nat Nat) :=
  [.connect none, .poll 0, .grant, .poll 0, .built 0 (.ok 1), .request .execute, .close,
    .connect none, .poll 1, .poll 2, .poll 3]

theorem session_futures_finish_queued :
    ∃ s, run State.step (new 0) queuedRun = some s ∧ s.lock.waiting = [2, 3] ∧
      ∃ more final, run State.step s more = some final ∧
        ∀ (i : Nat) future, final.futures[i]? = some future → future.isFinished = true := by
  have queued : (run State.step (new 0) queuedRun).map (fun s => s.lock.waiting) = some [2, 3] := rfl
  obtain ⟨s, ran, waiting⟩ := Option.map_eq_some_iff.mp queued
  obtain ⟨more, final, -, went, -, finished⟩ := (session_futures_finish 0 queuedRun s ran).2.2 0 0
  exact ⟨s, ran, waiting, more, final, went, finished⟩

end Main

end CppRsDriver.Session.Lifecycle
