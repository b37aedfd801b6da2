import CppRsDriver.Basic
import CppRsDriver.Lib.Checks
import CppRsDriver.Lib.Runs
import CppRsDriver.Lib.RwLock

/-! The life of a session: the calls on it and the steps of the futures they return. The
session is behind a lock. A request takes its read guard in the call and gives it back when
its future has finished; connecting and closing wait for the write lock in their futures. -/
namespace CppRsDriver.Session.Lifecycle

open CppRsDriver.Lib

/-- Why a future fails: an error of the library, or one of the Rust driver in `E`. -/
inductive Failure (E : Type) where
  | lib (code : CassError) (message : String)
  | driver (e : E)
  deriving DecidableEq, Repr

/-- The calls that need a connection. A statement that is prepared already is handed back
as it is. -/
inductive RequestKind (R : Type) where
  | execute
  | executeBatch
  | prepare
  | prepareFromExisting (prepared : Option R)
  deriving DecidableEq, Repr

def RequestKind.handedBack {R : Type} : RequestKind R → Option R
  | .prepareFromExisting prepared => prepared
  | _ => none

inductive ConnectPhase (E : Type) where
  | spawned
  | waiting
  | holding
  /-- The Rust driver's session is being built. -/
  | building
  | finished (result : Except (Failure E) Unit)
  deriving Repr

inductive ClosePhase (E : Type) where
  | spawned
  | waiting
  | holding
  | finished (result : Except (Failure E) Unit)
  deriving Repr

/-- A request runs on a connection in `C` and ends with a result in `R`. -/
inductive RequestPhase (C R : Type) where
  | called
  | running (connection : C)
  | finished (ranOn : Option C) (result : R)
  /-- `expect` failed. -/
  | panicked
  deriving DecidableEq, Repr

/-- A future, as its call leaves it and its steps change it. A request runs on the runtime
of the connection that its call saw. -/
inductive SessionFuture (C R E : Type) where
  | ready (failure : Failure E)
  | connect (clusterClientId : Option Nat) (phase : ConnectPhase E)
  | close (phase : ClosePhase E)
  | request (kind : RequestKind R) (present : C) (phase : RequestPhase C R)
  deriving Repr

/-- A session with all futures made from it; a future is known by its number. -/
structure State (C R E : Type) where
  connected : Option C := none
  clientId : Nat
  lock : RwLock Nat := {}
  futures : List (SessionFuture C R E) := []

inductive Event (C R E : Type) where
  | connect (clusterClientId : Option Nat)
  | close
  | request (kind : RequestKind R)
  /-- The future goes on as far as it can by itself. -/
  | poll (i : Nat)
  /-- The lock goes to the future that is next. -/
  | grant
  /-- The session builder is done. -/
  | built (i : Nat) (outcome : Except E C)
  /-- A request has its result. -/
  | answered (i : Nat) (result : R)

section Model
variable {C R E : Type}

def notConnected : Failure E := .lib .libNoHostsAvailable "Session is not connected"

namespace State

def push (s : State C R E) (future : SessionFuture C R E) : State C R E :=
  { s with futures := s.futures ++ [future] }

def put (s : State C R E) (i : Nat) (future : SessionFuture C R E) : State C R E :=
  { s with futures := s.futures.set i future }

/- `close_fut`, up to the future it spawns. -/
def closeCall (s : State C R E) : State C R E :=
  match s.lock.tryRead s.futures.length with
  | none => s.push (.ready (.lib .libNoHostsAvailable "Still connecting or already closing"))
  | some _ =>
    match s.connected with
    | none => s.push (.ready notConnected)
    | some _ => s.push (.close .spawned)

/- `cass_session_execute` and its like, up to the future they spawn. -/
def requestCall (s : State C R E) (kind : RequestKind R) : State C R E :=
  match s.lock.tryRead s.futures.length with
  | none => s.push (.ready notConnected)
  | some lock =>
    match s.connected with
    | none => s.push (.ready notConnected)
    | some present => { s.push (.request kind present .called) with lock := lock }

/- `connect_fut` under the write lock, up to the session builder. -/
def connectHolding (s : State C R E) (i : Nat) (clusterClientId : Option Nat) : State C R E :=
  if s.connected.isSome then
    { s.put i (.connect clusterClientId (.finished
        (.error (.lib .libUnableToConnect "Already connecting, closing, or connected"))))
      with lock := s.lock.releaseWrite }
  else
    { s.put i (.connect clusterClientId .building) with
      clientId := clusterClientId.getD s.clientId }

/- The rest of `connect_fut`. -/
def connectBuilt (s : State C R E) (i : Nat) (clusterClientId : Option Nat) :
    Except E C → State C R E
  | .error e =>
    { s.put i (.connect clusterClientId (.finished (.error (.driver e)))) with
      lock := s.lock.releaseWrite }
  | .ok connection =>
    { s.put i (.connect clusterClientId (.finished (.ok ()))) with
      connected := some connection
      lock := s.lock.releaseWrite }

/- The future of `close_fut` under the write lock. -/
def closeHolding (s : State C R E) (i : Nat) : State C R E :=
  match s.connected with
  | none =>
    { s.put i (.close (.finished (.error (.lib .libUnableToClose "Session is not connected")))) with
      lock := s.lock.releaseWrite }
  | some _ =>
    { s.put i (.close (.finished (.ok ()))) with
      connected := none
      lock := s.lock.releaseWrite }

/- The future of a request, from its start. -/
def requestStart (s : State C R E) (i : Nat) (kind : RequestKind R) (present : C) : State C R E :=
  match kind.handedBack with
  | some prepared =>
    { s.put i (.request kind present (.finished none prepared)) with
      lock := s.lock.releaseRead i }
  | none =>
    match s.connected with
    | some connection => s.put i (.request kind present (.running connection))
    | none => { s.put i (.request kind present .panicked) with lock := s.lock.releaseRead i }

def step (s : State C R E) : Event C R E → Option (State C R E)
  | .connect clusterClientId => some (s.push (.connect clusterClientId .spawned))
  | .close => some s.closeCall
  | .request kind => some (s.requestCall kind)
  | .poll i =>
    match s.futures[i]? with
    | some (.connect clusterClientId .spawned) =>
      some { s.put i (.connect clusterClientId .waiting) with lock := s.lock.enqueue i }
    | some (.connect clusterClientId .holding) => some (s.connectHolding i clusterClientId)
    | some (.close .spawned) => some { s.put i (.close .waiting) with lock := s.lock.enqueue i }
    | some (.close .holding) => some (s.closeHolding i)
    | some (.request kind present .called) => some (s.requestStart i kind present)
    | _ => none
  | .grant =>
    match s.lock.grant with
    | none => none
    | some (i, lock) =>
      match s.futures[i]? with
      | some (.connect clusterClientId .waiting) =>
        some { s.put i (.connect clusterClientId .holding) with lock := lock }
      | some (.close .waiting) => some { s.put i (.close .holding) with lock := lock }
      | _ => none
  | .built i outcome =>
    match s.futures[i]? with
    | some (.connect clusterClientId .building) => some (s.connectBuilt i clusterClientId outcome)
    | _ => none
  | .answered i result =>
    match s.futures[i]? with
    | some (.request kind present (.running connection)) =>
      some { s.put i (.request kind present (.finished (some connection) result)) with
        lock := s.lock.releaseRead i }
    | _ => none

end State

namespace SessionFuture

/-- The future has a read guard. -/
def reads : SessionFuture C R E → Bool
  | .request _ _ .called | .request _ _ (.running _) => true
  | _ => false

/-- The future has the write lock. -/
def writes : SessionFuture C R E → Bool
  | .connect _ .holding | .connect _ .building | .close .holding => true
  | _ => false

/-- What a future relies on or has seen of the connection. -/
def Sound (connected : Option C) : SessionFuture C R E → Prop
  | .connect _ .building => connected = none
  | .request _ present .called => connected = some present
  | .request _ present (.running connection) => connection = present ∧ connected = some present
  | .request _ present (.finished ranOn _) => ∀ connection ∈ ranOn, connection = present
  | .request _ _ .panicked => False
  | _ => True

theorem Sound.of_idle {future : SessionFuture C R E} {connected : Option C}
    (sound : future.Sound connected) (reads : future.reads = false) (writes : future.writes = false)
    (connected' : Option C) : future.Sound connected' := by
  cases future with
  | ready | close => trivial
  | connect clusterClientId phase =>
    cases phase with
    | building => cases writes
    | _ => trivial
  | request kind present phase =>
    cases phase with
    | called | running => cases reads
    | finished => exact sound
    | panicked => exact sound

end SessionFuture

/-- What a step does to a session. -/
inductive State.Next (s : State C R E) : Event C R E → State C R E → Prop where
  | connect (clusterClientId) :
      Next s (.connect clusterClientId) (s.push (.connect clusterClientId .spawned))
  | closeRefused (failure) : Next s .close (s.push (.ready failure))
  | close : Next s .close (s.push (.close .spawned))
  | requestRefused (kind) : Next s (.request kind) (s.push (.ready notConnected))
  | request (kind present lock) (read : s.lock.tryRead s.futures.length = some lock)
      (is : s.connected = some present) :
      Next s (.request kind) { s.push (.request kind present .called) with lock := lock }
  | connectWaits (i clusterClientId) (at' : s.futures[i]? = some (.connect clusterClientId .spawned)) :
      Next s (.poll i)
        { s.put i (.connect clusterClientId .waiting) with lock := s.lock.enqueue i }
  | closeWaits (i) (at' : s.futures[i]? = some (.close .spawned)) :
      Next s (.poll i) { s.put i (.close .waiting) with lock := s.lock.enqueue i }
  | connectHolds (i clusterClientId lock)
      (at' : s.futures[i]? = some (.connect clusterClientId .waiting))
      (granted : s.lock.grant = some (i, lock)) :
      Next s .grant { s.put i (.connect clusterClientId .holding) with lock := lock }
  | closeHolds (i lock) (at' : s.futures[i]? = some (.close .waiting))
      (granted : s.lock.grant = some (i, lock)) :
      Next s .grant { s.put i (.close .holding) with lock := lock }
  | connectRefused (i clusterClientId failure)
      (at' : s.futures[i]? = some (.connect clusterClientId .holding)) :
      Next s (.poll i)
        { s.put i (.connect clusterClientId (.finished (.error failure))) with
          lock := s.lock.releaseWrite }
  | builds (i clusterClientId) (at' : s.futures[i]? = some (.connect clusterClientId .holding))
      (none : s.connected = none) :
      Next s (.poll i)
        { s.put i (.connect clusterClientId .building) with
          clientId := clusterClientId.getD s.clientId }
  | connectFails (i clusterClientId e)
      (at' : s.futures[i]? = some (.connect clusterClientId .building)) :
      Next s (.built i (.error e))
        { s.put i (.connect clusterClientId (.finished (.error (.driver e)))) with
          lock := s.lock.releaseWrite }
  | connects (i clusterClientId connection)
      (at' : s.futures[i]? = some (.connect clusterClientId .building)) :
      Next s (.built i (.ok connection))
        { s.put i (.connect clusterClientId (.finished (.ok ()))) with
          connected := some connection
          lock := s.lock.releaseWrite }
  | closeFails (i failure) (at' : s.futures[i]? = some (.close .holding)) :
      Next s (.poll i)
        { s.put i (.close (.finished (.error failure))) with lock := s.lock.releaseWrite }
  | closes (i) (at' : s.futures[i]? = some (.close .holding)) :
      Next s (.poll i)
        { s.put i (.close (.finished (.ok ()))) with
          connected := none
          lock := s.lock.releaseWrite }
  | handsBack (i kind present prepared)
      (at' : s.futures[i]? = some (.request kind present .called)) :
      Next s (.poll i)
        { s.put i (.request kind present (.finished none prepared)) with
          lock := s.lock.releaseRead i }
  | starts (i kind present connection) (at' : s.futures[i]? = some (.request kind present .called))
      (is : s.connected = some connection) :
      Next s (.poll i) (s.put i (.request kind present (.running connection)))
  | panics (i kind present) (at' : s.futures[i]? = some (.request kind present .called))
      (none : s.connected = none) :
      Next s (.poll i)
        { s.put i (.request kind present .panicked) with lock := s.lock.releaseRead i }
  | answers (i kind present connection result)
      (at' : s.futures[i]? = some (.request kind present (.running connection))) :
      Next s (.answered i result)
        { s.put i (.request kind present (.finished (some connection) result)) with
          lock := s.lock.releaseRead i }

theorem State.step_next {s s' : State C R E} {e : Event C R E} (stepped : s.step e = some s') :
    s.Next e s' := by
  cases e with
  | connect clusterClientId =>
    cases Option.some.inj stepped
    exact .connect clusterClientId
  | close =>
    cases Option.some.inj stepped
    unfold closeCall
    split
    · exact .closeRefused _
    · split
      · exact .closeRefused _
      · exact .close
  | request kind =>
    cases Option.some.inj stepped
    unfold requestCall
    split
    · exact .requestRefused kind
    · rename_i lock read
      split
      · exact .requestRefused kind
      · rename_i present is
        exact .request kind present lock read is
  | poll i =>
    simp only [step] at stepped
    split at stepped
    · rename_i clusterClientId at'
      cases Option.some.inj stepped
      exact .connectWaits i clusterClientId at'
    · rename_i clusterClientId at'
      cases Option.some.inj stepped
      unfold connectHolding
      split
      · exact .connectRefused i clusterClientId _ at'
      · rename_i free
        exact .builds i clusterClientId at' (by simpa using free)
    · rename_i at'
      cases Option.some.inj stepped
      exact .closeWaits i at'
    · rename_i at'
      cases Option.some.inj stepped
      unfold closeHolding
      split
      · exact .closeFails i _ at'
      · exact .closes i at'
    · rename_i kind present at'
      cases Option.some.inj stepped
      unfold requestStart
      split
      · exact .handsBack i kind present _ at'
      · split
        · rename_i connection is
          exact .starts i kind present connection at' is
        · rename_i none
          exact .panics i kind present at' none
    · cases stepped
  | grant =>
    simp only [step] at stepped
    split at stepped
    · cases stepped
    · rename_i i lock granted
      split at stepped
      · rename_i clusterClientId at'
        cases Option.some.inj stepped
        exact .connectHolds i clusterClientId lock at' granted
      · rename_i at'
        cases Option.some.inj stepped
        exact .closeHolds i lock at' granted
      · cases stepped
  | built i outcome =>
    simp only [step] at stepped
    split at stepped
    · rename_i clusterClientId at'
      cases Option.some.inj stepped
      cases outcome with
      | error e => exact .connectFails i clusterClientId e at'
      | ok connection => exact .connects i clusterClientId connection at'
    · cases stepped
  | answered i result =>
    simp only [step] at stepped
    split at stepped
    · rename_i kind present connection at'
      cases Option.some.inj stepped
      exact .answers i kind present connection result at'
    · cases stepped

/-- Guards and connection agree with what the futures hold and rely on. -/
structure State.Inv (s : State C R E) : Prop where
  exclusive : s.lock.Exclusive
  reading : ∀ (i : Nat) future, s.futures[i]? = some future → future.reads = true → i ∈ s.lock.readers
  writing : ∀ (i : Nat) future, s.futures[i]? = some future → future.writes = true →
    s.lock.writer = some i
  sound : ∀ (i : Nat) future, s.futures[i]? = some future → future.Sound s.connected

theorem State.put_at {s : State C R E} {i j : Nat} {new future : SessionFuture C R E}
    (at' : (s.put i new).futures[j]? = some future) :
    j = i ∧ future = new ∨ j ≠ i ∧ s.futures[j]? = some future := by
  rw [put, List.getElem?_set] at at'
  split at at'
  · rename_i same
    split at at'
    · exact .inl ⟨same.symm, (Option.some.inj at').symm⟩
    · cases at'
  · rename_i other
    exact .inr ⟨Ne.symm other, at'⟩

namespace State.Inv
variable {s : State C R E}

theorem push (inv : s.Inv) {new : SessionFuture C R E} {lock : RwLock Nat}
    (exclusive : lock.Exclusive) (readers : ∀ i ∈ s.lock.readers, i ∈ lock.readers)
    (writer : lock.writer = s.lock.writer)
    (reading : new.reads = true → s.futures.length ∈ lock.readers) (writing : new.writes = false)
    (sound : new.Sound s.connected) : Inv { s.push new with lock := lock } := by
  refine ⟨exclusive, ?_, ?_, ?_⟩
  · intro i future at' reads
    rcases getElem?_snoc at' with old | ⟨rfl, rfl⟩
    · exact readers i (inv.reading i future old reads)
    · exact reading reads
  · intro i future at' writes
    rcases getElem?_snoc at' with old | ⟨rfl, rfl⟩
    · exact writer.trans (inv.writing i future old writes)
    · rw [writing] at writes
      cases writes
  · intro i future at'
    rcases getElem?_snoc at' with old | ⟨rfl, rfl⟩
    · exact inv.sound i future old
    · exact sound

theorem push_idle (inv : s.Inv) {new : SessionFuture C R E} (reads : new.reads = false)
    (writes : new.writes = false) (sound : new.Sound s.connected) : (s.push new).Inv := by
  refine inv.push inv.exclusive (fun _ member => member) rfl ?_ writes sound
  rw [reads]
  intro no
  cases no

theorem others_idle (inv : s.Inv) {i j : Nat} {writer other : SessionFuture C R E}
    (at' : s.futures[i]? = some writer) (writes : writer.writes = true) (ne : j ≠ i)
    (there : s.futures[j]? = some other) : other.reads = false ∧ other.writes = false := by
  have holds := inv.writing i writer at' writes
  constructor
  · cases reads : other.reads with
    | false => rfl
    | true => exact absurd (inv.reading j other there reads) (inv.exclusive.not_reading holds)
  · cases also : other.writes with
    | false => rfl
    | true => exact absurd (Option.some.inj ((inv.writing j other there also).symm.trans holds)) ne

theorem put (inv : s.Inv) {i : Nat} {old new : SessionFuture C R E} {lock : RwLock Nat}
    {connected : Option C} {clientId : Nat} (at' : s.futures[i]? = some old)
    (exclusive : lock.Exclusive)
    (readers : ∀ j, j ≠ i → j ∈ s.lock.readers → j ∈ lock.readers)
    (writers : ∀ j, j ≠ i → s.lock.writer = some j → lock.writer = some j)
    (reading : new.reads = true → i ∈ lock.readers)
    (writing : new.writes = true → lock.writer = some i) (sound : new.Sound connected)
    (changes : connected = s.connected ∨ old.writes = true) :
    Inv { s.put i new with connected := connected, clientId := clientId, lock := lock } := by
  refine ⟨exclusive, ?_, ?_, ?_⟩
  · intro j future there reads
    rcases put_at there with ⟨rfl, rfl⟩ | ⟨ne, elsewhere⟩
    · exact reading reads
    · exact readers j ne (inv.reading j future elsewhere reads)
  · intro j future there writes
    rcases put_at there with ⟨rfl, rfl⟩ | ⟨ne, elsewhere⟩
    · exact writing writes
    · exact writers j ne (inv.writing j future elsewhere writes)
  · intro j future there
    rcases put_at there with ⟨rfl, rfl⟩ | ⟨ne, elsewhere⟩
    · exact sound
    · rcases changes with rfl | writes
      · exact inv.sound j future elsewhere
      · obtain ⟨reads, writes⟩ := inv.others_idle at' writes ne elsewhere
        exact (inv.sound j future elsewhere).of_idle reads writes connected

theorem releaseWrite (inv : s.Inv) {i : Nat} {old new : SessionFuture C R E}
    (at' : s.futures[i]? = some old) (writes : old.writes = true) (reads : new.reads = false)
    (idle : new.writes = false) {connected : Option C} (sound : new.Sound connected) :
    Inv { s.put i new with connected := connected, lock := s.lock.releaseWrite } := by
  have holds := inv.writing i old at' writes
  refine inv.put at' (.releaseWrite _) (fun _ _ member => member) ?_ ?_ ?_ sound (.inr writes)
  · intro j ne other
    exact absurd (Option.some.inj (other.symm.trans holds)) ne
  · rw [reads]
    intro no
    cases no
  · rw [idle]
    intro no
    cases no

theorem releaseRead (inv : s.Inv) {i : Nat} {old new : SessionFuture C R E}
    (at' : s.futures[i]? = some old) (reads : new.reads = false) (writes : new.writes = false)
    (sound : new.Sound s.connected) :
    Inv { s.put i new with lock := s.lock.releaseRead i } := by
  refine inv.put at' (inv.exclusive.releaseRead i) ?_ (fun _ _ holds => holds) ?_ ?_ sound (.inl rfl)
  · intro j ne member
    exact RwLock.mem_releaseRead.mpr ⟨member, ne⟩
  · rw [reads]
    intro no
    cases no
  · rw [writes]
    intro no
    cases no

theorem initial (clientId : Nat) : ({ clientId := clientId } : State C R E).Inv := by
  refine ⟨?_, ?_, ?_, ?_⟩
  · intro a member
    exact absurd member List.not_mem_nil
  · intro i future at'
    cases at'
  · intro i future at'
    cases at'
  · intro i future at'
    cases at'

theorem next (inv : s.Inv) {e : Event C R E} {s' : State C R E} (next : s.Next e s') : s'.Inv := by
  cases next with
  | connect | closeRefused | close | requestRefused => exact inv.push_idle rfl rfl trivial
  | request kind present lock read is =>
    obtain ⟨-, rfl⟩ := RwLock.tryRead_inv read
    exact inv.push (.tryRead read) (fun _ member => List.mem_cons_of_mem _ member) rfl
      (fun _ => List.mem_cons_self) rfl is
  | connectWaits i _ at' | closeWaits i at' =>
    exact inv.put at' (inv.exclusive.enqueue i) (fun _ _ member => member) (fun _ _ holds => holds)
      (fun no => by cases no) (fun no => by cases no) trivial (.inl rfl)
  | connectHolds i clusterClientId lock at' granted | closeHolds i lock at' granted =>
    obtain ⟨free, alone, -, granted'⟩ := RwLock.grant_inv granted
    refine inv.put at' (.grant granted) ?_ ?_ (fun no => by cases no) (fun _ => granted') trivial
      (.inl rfl)
    · intro j _ member
      rw [alone] at member
      exact absurd member List.not_mem_nil
    · intro j _ holds
      rw [free] at holds
      cases holds
  | connectRefused i _ _ at' | connectFails i _ _ at' | closeFails i _ at' =>
    exact inv.releaseWrite at' rfl rfl rfl trivial
  | connects i _ _ at' => exact inv.releaseWrite at' rfl rfl rfl trivial
  | closes i at' => exact inv.releaseWrite at' rfl rfl rfl trivial
  | builds i clusterClientId at' none =>
    have holds := inv.writing i _ at' rfl
    exact inv.put at' inv.exclusive (fun _ _ member => member) (fun _ _ other => other)
      (fun no => by cases no) (fun _ => holds) none (.inl rfl)
  | handsBack i kind present prepared at' =>
    refine inv.releaseRead at' rfl rfl ?_
    rintro _ ⟨⟩
  | starts i kind present connection at' is =>
    have seen : s.connected = some present := inv.sound i _ at'
    have guarded := inv.reading i _ at' rfl
    cases Option.some.inj (seen.symm.trans is)
    exact inv.put at' inv.exclusive (fun _ _ member => member) (fun _ _ other => other)
      (fun _ => guarded) (fun no => by cases no) ⟨rfl, is⟩ (.inl rfl)
  | panics i kind present at' none =>
    -- the guard has kept the connection that the call saw
    have seen : s.connected = some present := inv.sound i _ at'
    rw [none] at seen
    cases seen
  | answers i kind present connection result at' =>
    obtain ⟨same, -⟩ := inv.sound i _ at'
    refine inv.releaseRead at' rfl rfl ?_
    rintro _ ⟨⟩
    exact same

end State.Inv

section Steps
variable {s s' : State C R E} {e : Event C R E}

theorem State.Next.requested (next : s.Next e s') {i : Nat} {kind : RequestKind R} {present : C}
    {phase : RequestPhase C R} (at' : s'.futures[i]? = some (.request kind present phase)) :
    (∃ before, s.futures[i]? = some (.request kind present before)) ∨
      e = .request kind ∧ i = s.futures.length ∧ s'.connected = some present ∧ phase = .called := by
  cases next with
  | connect | closeRefused | close | requestRefused =>
    rcases getElem?_snoc at' with old | ⟨-, new⟩
    · exact .inl ⟨phase, old⟩
    · cases new
  | request kind present lock read is =>
    rcases getElem?_snoc at' with old | ⟨last, new⟩
    · exact .inl ⟨phase, old⟩
    · cases new
      exact .inr ⟨rfl, last, is, rfl⟩
  | connectWaits | closeWaits | connectHolds | closeHolds | connectRefused | builds
  | connectFails | connects | closeFails | closes =>
    rcases State.put_at at' with ⟨-, new⟩ | ⟨-, old⟩
    · cases new
    · exact .inl ⟨phase, old⟩
  | handsBack j _ _ _ before | starts j _ _ _ before | panics j _ _ before
  | answers j _ _ _ _ before =>
    rcases State.put_at at' with ⟨rfl, new⟩ | ⟨-, old⟩
    · cases new
      exact .inl ⟨_, before⟩
    · exact .inl ⟨phase, old⟩

/-- A close has the write lock, or had it and succeeded. -/
def ClosePhase.Locked : ClosePhase E → Prop
  | .holding | .finished (.ok ()) => True
  | _ => False

theorem State.Next.closing (next : s.Next e s') {i : Nat} {phase : ClosePhase E}
    (at' : s'.futures[i]? = some (.close phase)) (locked : phase.Locked) :
    (∃ before, s.futures[i]? = some (.close before) ∧ before.Locked) ∨
      e = .grant ∧ s.lock.grant = some (i, s'.lock) := by
  cases next with
  | connect | closeRefused | requestRefused | request =>
    rcases getElem?_snoc at' with old | ⟨-, new⟩
    · exact .inl ⟨phase, old, locked⟩
    · cases new
  | close =>
    rcases getElem?_snoc at' with old | ⟨-, new⟩
    · exact .inl ⟨phase, old, locked⟩
    · cases new
      exact locked.elim
  | connectWaits | connectHolds | connectRefused | builds | connectFails | connects | handsBack
  | starts | panics | answers =>
    rcases State.put_at at' with ⟨-, new⟩ | ⟨-, old⟩
    · cases new
    · exact .inl ⟨phase, old, locked⟩
  | closeWaits | closeFails =>
    rcases State.put_at at' with ⟨-, new⟩ | ⟨-, old⟩
    · cases new
      exact locked.elim
    · exact .inl ⟨phase, old, locked⟩
  | closeHolds j lock before granted =>
    rcases State.put_at at' with ⟨rfl, -⟩ | ⟨-, old⟩
    · exact .inr ⟨rfl, granted⟩
    · exact .inl ⟨phase, old, locked⟩
  | closes j before =>
    rcases State.put_at at' with ⟨rfl, -⟩ | ⟨-, old⟩
    · exact .inl ⟨_, before, trivial⟩
    · exact .inl ⟨phase, old, locked⟩

/-- The connection changes only when connecting or closing succeeds. -/
theorem State.Next.connection (next : s.Next e s') (inv : s.Inv) :
    s'.connected = s.connected ∨
    (∃ i clusterClientId connection, e = .built i (.ok connection) ∧
      s.futures[i]? = some (.connect clusterClientId .building) ∧
      s.connected = none ∧ s'.connected = some connection) ∨
    ∃ i, e = .poll i ∧ s.futures[i]? = some (.close .holding) ∧ s'.connected = none ∧
      s'.futures[i]? = some (.close (.finished (.ok ()))) := by
  cases next with
  | connects i clusterClientId connection at' =>
    exact .inr (.inl ⟨i, clusterClientId, connection, rfl, at', inv.sound i _ at', rfl⟩)
  | closes i at' =>
    refine .inr (.inr ⟨i, rfl, at', rfl, ?_⟩)
    exact List.getElem?_set_self (List.getElem?_eq_some_iff.mp at').1
  | _ => exact .inl rfl

theorem State.Next.connect_failed (next : s.Next e s') {i : Nat} {clusterClientId : Option Nat}
    {failure : Failure E} (before : s'.futures[i]? ≠ s.futures[i]?)
    (failed : s'.futures[i]? = some (.connect clusterClientId (.finished (.error failure)))) :
    s'.connected = s.connected := by
  cases next with
  | connects | closes =>
    rcases State.put_at failed with ⟨-, new⟩ | ⟨-, old⟩
    · cases new
    · exact absurd (failed.trans old.symm) before
  | _ => rfl

/-- When the lock is granted, all requests that had a guard have finished. -/
theorem State.Inv.finished_at_grant (inv : s.Inv) {i : Nat} {lock : RwLock Nat}
    (granted : s.lock.grant = some (i, lock)) {j : Nat} {kind : RequestKind R} {present : C}
    {phase : RequestPhase C R} (at' : s.futures[j]? = some (.request kind present phase)) :
    ∃ ranOn result, phase = .finished ranOn result := by
  obtain ⟨-, alone, -, -⟩ := RwLock.grant_inv granted
  cases phase with
  | called | running =>
    have reading := inv.reading j _ at' rfl
    rw [alone] at reading
    exact absurd reading List.not_mem_nil
  | finished ranOn result => exact ⟨ranOn, result, rfl⟩
  | panicked => exact (inv.sound j _ at').elim

end Steps

/-- A session that no call was made on yet. -/
def new (clientId : Nat) : State C R E := { clientId := clientId }

/-- The call of the `i`th future saw a connection, which was still there when it returned. -/
def CallSaw (i : Nat) (kind : RequestKind R) (present : C) (_ : State C R E) (e : Event C R E)
    (s' : State C R E) : Prop :=
  e = .request kind ∧ s'.connected = some present ∧
    s'.futures[i]? = some (.request kind present .called)

/-- The `i`th future took the write lock, when all requests made before had finished. -/
def TookLock (i : Nat) (s : State C R E) (e : Event C R E) (s' : State C R E) : Prop :=
  e = .grant ∧ s'.lock.writer = some i ∧
    ∀ (j : Nat) kind present phase, s.futures[j]? = some (.request kind present phase) →
      ∃ ranOn result, phase = .finished ranOn result

section History
variable {clientId : Nat} {events : List (Event C R E)} {s : State C R E}

theorem run_inv (ran : run State.step (new clientId) events = some s) : s.Inv :=
  run_invariant (fun _ _ _ inv stepped => inv.next (State.step_next stepped)) (.initial clientId) ran

theorem request_history (ran : run State.step (new clientId) events = some s) {i : Nat}
    {kind : RequestKind R} {present : C} {phase : RequestPhase C R}
    (at' : s.futures[i]? = some (.request kind present phase)) :
    Happened State.step (new clientId) events (CallSaw i kind present) := by
  refine run_history (fun done s => ∀ phase, s.futures[i]? = some (.request kind present phase) →
    Happened State.step (new clientId) done (CallSaw i kind present)) ?_ ?_ ran phase at'
  · intro phase at'
    cases at'
  · intro done s e t before ih stepped phase at'
    rcases (State.step_next stepped).requested at' with ⟨old, there⟩ | ⟨call, -, seen, rfl⟩
    · exact (ih old there).later e
    · exact .now before stepped ⟨call, seen, at'⟩

theorem close_history (ran : run State.step (new clientId) events = some s) {i : Nat}
    {phase : ClosePhase E} (at' : s.futures[i]? = some (.close phase)) (locked : phase.Locked) :
    Happened State.step (new clientId) events (TookLock i) := by
  refine run_history (fun done s => ∀ phase : ClosePhase E, s.futures[i]? = some (.close phase) →
    phase.Locked → Happened State.step (new clientId) done (TookLock i)) ?_ ?_ ran phase at' locked
  · intro phase at'
    cases at'
  · intro done s e t before ih stepped phase at' locked
    rcases (State.step_next stepped).closing at' locked with ⟨old, there, had⟩ | ⟨rfl, granted⟩
    · exact (ih old there had).later e
    · refine .now before stepped ⟨rfl, (RwLock.grant_inv granted).2.2.2, ?_⟩
      intro j kind present phase there
      exact (run_inv before).finished_at_grant granted there

end History

/-- What holds of a session after any calls and any steps of its futures. -/
structure Linear (clientId : Nat) (events : List (Event C R E)) (s : State C R E) : Prop where
  /-- A request runs on the connection that was there when its call returned. -/
  requests : ∀ (i : Nat) kind present phase, s.futures[i]? = some (.request kind present phase) →
    Happened State.step (new clientId) events (CallSaw i kind present) ∧ phase ≠ .panicked ∧
    (∀ connection, phase = .running connection →
      connection = present ∧ s.connected = some present) ∧
    ∀ connection result, phase = .finished (some connection) result → connection = present
  /-- A close that has succeeded waited for the requests made before it took the lock. -/
  closes : ∀ i : Nat, s.futures[i]? = some (.close (.finished (.ok ()))) →
    Happened State.step (new clientId) events (TookLock i)
  /-- A connect that fails leaves the connection as it is. -/
  connectFails : ∀ e s' (i : Nat) clusterClientId failure, s.step e = some s' →
    s'.futures[i]? ≠ s.futures[i]? →
    s'.futures[i]? = some (.connect clusterClientId (.finished (.error failure))) →
    s'.connected = s.connected
  /-- So does one that finds the session connected, and it fails. -/
  connectRefused : ∀ (i : Nat) clusterClientId, s.connected.isSome = true →
    s.futures[i]? = some (.connect clusterClientId .holding) → ∃ s', s.step (.poll i) = some s' ∧
      s'.futures[i]? = some (.connect clusterClientId (.finished
        (.error (.lib .libUnableToConnect "Already connecting, closing, or connected")))) ∧
      s'.connected = s.connected
  /-- The connection changes only when connecting or closing succeeds. -/
  changes : ∀ e s', s.step e = some s' → s'.connected = s.connected ∨
    (∃ i clusterClientId connection, e = .built i (.ok connection) ∧
      s.futures[i]? = some (.connect clusterClientId .building) ∧
      s.connected = none ∧ s'.connected = some connection) ∨
    ∃ i, e = .poll i ∧ s.futures[i]? = some (.close .holding) ∧ s'.connected = none ∧
      s'.futures[i]? = some (.close (.finished (.ok ())))
  /-- A request that finds no connection fails at once. -/
  refused : ∀ kind, s.connected = none → s.step (.request kind) = some (s.push (.ready notConnected))

theorem session_lifecycle_linear {clientId : Nat} {events : List (Event C R E)} {s : State C R E}
    (ran : run State.step (new clientId) events = some s) : Linear clientId events s := by
  have inv := run_inv ran
  refine ⟨?_, ?_, ?_, ?_, ?_, ?_⟩
  · intro i kind present phase at'
    have sound := inv.sound i _ at'
    refine ⟨request_history ran at', ?_, ?_, ?_⟩
    · rintro rfl
      exact sound
    · rintro connection rfl
      exact sound
    · rintro connection result rfl
      exact sound connection rfl
  · intro i at'
    exact close_history ran at' trivial
  · intro e s' i clusterClientId failure stepped changed failed
    exact (State.step_next stepped).connect_failed changed failed
  · intro i clusterClientId connected at'
    refine ⟨s.connectHolding i clusterClientId, ?_, ?_, ?_⟩
    · simp only [State.step, at']
    · rw [State.connectHolding, if_pos connected]
      exact List.getElem?_set_self (List.getElem?_eq_some_iff.mp at').1
    · rw [State.connectHolding, if_pos connected]
      rfl
  · intro e s' stepped
    exact (State.step_next stepped).connection inv
  · intro kind unconnected
    simp only [State.step, State.requestCall, unconnected]
    split <;> rfl

end Model

/- A close is called while a request runs, and a second request while the close waits. -/
def closeWaitsRun : List (Event Nat Nat Unit) :=
  [.connect none, .poll 0, .grant, .poll 0, .built 0 (.ok 1), .request .execute, .close, .poll 2,
   .poll 1, .request .prepare, .answered 1 5, .grant, .poll 2]

theorem session_lifecycle_linear_close :
    ∃ s, run State.step (new 7) closeWaitsRun = some s ∧
      s.futures[1]? = some (.request .execute 1 (.finished (some 1) 5)) ∧
      s.futures[2]? = some (.close (.finished (.ok ()))) ∧
      s.futures[3]? = some (.ready notConnected) ∧ Linear 7 closeWaitsRun s := by
  refine ⟨_, rfl, rfl, rfl, rfl, ?_⟩
  exact session_lifecycle_linear rfl

end CppRsDriver.Session.Lifecycle
