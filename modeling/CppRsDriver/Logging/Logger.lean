import CppRsDriver.Lib.RwLock
import CppRsDriver.Lib.Runs
import CppRsDriver.Logging.Message

/-! The logger that all threads share: a filter, and a callback behind a lock that a thread
holds while it calls it. The callback may call back into the driver, and log from there. -/
namespace CppRsDriver.Logging

open CppRsDriver.Lib

/-- The most verbose level that passes; `none` is `OFF`. -/
abbrev LevelFilter := Option Level

def Level.verbosity : Level → Nat
  | .error => 1
  | .warn => 2
  | .info => 3
  | .debug => 4
  | .trace => 5

def LevelFilter.admits (filter : LevelFilter) (level : Level) : Bool :=
  filter.any (fun most => decide (level.verbosity ≤ most.verbosity))

/-- `TryFrom<CassLogLevel> for Level`. -/
def Level.tryFrom : CassLogLevel → Option Level
  | .trace => some .trace
  | .debug => some .debug
  | .info => some .info
  | .warn => some .warn
  | .error => some .error
  | .critical => some .error
  | .disabled => none
  | .lastEntry => none

/-- `TryFrom<CassLogLevel> for LevelFilter`. -/
def LevelFilter.tryFrom : CassLogLevel → Option LevelFilter
  | .disabled => some none
  | other => (Level.tryFrom other).map some

def defaultLogLevelFilter : LevelFilter := some .warn

/-- `Display` of the filter. -/
def LevelFilter.text : LevelFilter → String
  | none => "off"
  | some .error => "error"
  | some .warn => "warn"
  | some .info => "info"
  | some .debug => "debug"
  | some .trace => "trace"

/-- A function of C; those of the client are numbers. -/
inductive LogCallback where
  | stderr
  | noop
  | client (function : Nat)
  deriving DecidableEq, Repr

structure Logger where
  cb : Option LogCallback
  data : Nat
  deriving DecidableEq, Repr

/-- Where a thread is in a call of this module. The calls that a callback makes stand above it
on the stack. -/
inductive Frame where
  /-- In `on_event`, in front of the lock. -/
  | logging (message : CassLogMessage)
  /-- The callback runs, under the guard of a reader. -/
  | calling (logger : Logger) (message : CassLogMessage)
  /-- In `cass_log_set_callback`: in front of the lock, and twice under the guard of the writer. -/
  | setCallback (logger : Logger)
  | storing (logger : Logger)
  | stored (logger : Logger)
  /-- In `cass_log_get_callback_and_data`: in front of the lock, and under the guard. -/
  | getCallback
  | gotCallback (logger : Logger)
  /-- In `cass_log_set_level`: before the filter is changed, at the change and after it. -/
  | setLevel (filter : LevelFilter)
  | modifyLevel (filter : LevelFilter)
  | announceLevel (filter : LevelFilter)

structure State (T : Type) where
  /-- `LOG_LEVEL_HANDLE`: not initialised yet, or whether there is a handle. -/
  handle : Option Bool := none
  filter : LevelFilter := defaultLogLevelFilter
  logger : Logger := ⟨some .stderr, 0⟩
  lock : RwLock T := {}
  stack : T → List Frame := fun _ => []

/-- Calls that begin, events that the driver logs, and threads that go on with a call. The time
is that of the events a thread may log on its way. -/
inductive Action (T : Type) where
  | initLogging
  | event (t : T) (millis : Nat) (event : Event)
  | setLevel (t : T) (level : CassLogLevel)
  | setCallback (t : T) (callback : Option LogCallback) (data : Nat)
  | getCallback (t : T)
  | goOn (t : T) (millis : Nat)

section Steps
variable {T : Type}

/-- `foreign`: whether the application has a subscriber of its own. -/
def State.initLogging (foreign : Bool) (s : State T) : State T :=
  { s with handle := some (s.handle.getD (!foreign)) }

/-- A thread outside of this module may begin a call: it does something else, or runs a
callback. -/
def State.isFree (s : State T) (t : T) : Bool :=
  match s.stack t with
  | [] => true
  | .calling _ _ :: _ => true
  | _ => false

def debugEvent (line : UInt32) (text : String) : Event :=
  ⟨"scylladb::logging", .debug, some line, [("message", text)]⟩

variable [DecidableEq T]

def State.goto (s : State T) (t : T) (frames : List Frame) : State T :=
  { s with stack := Function.update s.stack t frames }

/-- An event goes to the layer where the filter lets it pass. -/
def State.dispatch (s : State T) (t : T) (millis : Nat) (event : Event) : Option (State T) :=
  if s.handle = some true ∧ s.filter.admits event.level then do
    let message ← onEvent (some millis) event
    return s.goto t (.logging message :: s.stack t)
  else some s

def State.goOn (s : State T) (t : T) (millis : Nat) : Option (State T) :=
  match s.stack t with
  | [] => none
  | .logging message :: rest => do
    let lock ← s.lock.read t
    match s.logger.cb with
    | some _ => some ({ s with lock := lock }.goto t (.calling s.logger message :: rest))
    | none => some (s.goto t rest)
  | .calling _ _ :: rest => some ({ s with lock := s.lock.unread t }.goto t rest)
  | .setCallback logger :: rest => do
    let lock ← s.lock.write t
    some ({ s with lock := lock }.goto t (.storing logger :: rest))
  | .storing logger :: rest => some ({ s with logger := logger }.goto t (.stored logger :: rest))
  | .stored _ :: rest => some ({ s with lock := s.lock.releaseWrite }.goto t rest)
  | .getCallback :: rest => do
    let lock ← s.lock.read t
    some ({ s with lock := lock }.goto t (.gotCallback s.logger :: rest))
  | .gotCallback _ :: rest => some ({ s with lock := s.lock.unread t }.goto t rest)
  | .setLevel filter :: rest =>
    let next := s.goto t (.modifyLevel filter :: rest)
    if filter = none then next.dispatch t millis (debugEvent 227 "Logging is disabled!")
    else some next
  | .modifyLevel filter :: rest =>
    some ({ s with filter := filter }.goto t (.announceLevel filter :: rest))
  | .announceLevel filter :: rest =>
    (s.goto t rest).dispatch t millis (debugEvent 235 ("Log level is set to " ++ filter.text))

def State.begin (s : State T) (t : T) (frame : Frame) : Option (State T) :=
  if s.isFree t then some (s.goto t (frame :: s.stack t)) else none

def step (foreign : Bool) (s : State T) : Action T → Option (State T)
  | .initLogging => some (s.initLogging foreign)
  | .event t millis event => if s.isFree t then s.dispatch t millis event else none
  | .setLevel t level =>
    let s := s.initLogging foreign
    -- without a handle the filter is not the driver's to change
    if s.handle = some true then
      s.begin t (.setLevel ((LevelFilter.tryFrom level).getD defaultLogLevelFilter))
    else if s.isFree t then some s
    else none
  | .setCallback t callback data =>
    (s.initLogging foreign).begin t (.setCallback ⟨some (callback.getD .noop), data⟩)
  | .getCallback t => s.begin t .getCallback
  | .goOn t millis => s.goOn t millis

end Steps

/-- A guard of the lock goes with the frame. -/
def Frame.reads : Frame → Bool
  | .calling _ _ | .gotCallback _ => true
  | _ => false

def Frame.writes : Frame → Bool
  | .storing _ | .stored _ => true
  | _ => false

@[simp] theorem Frame.writes_storing (l : Logger) : (Frame.storing l).writes = true := rfl
@[simp] theorem Frame.writes_stored (l : Logger) : (Frame.stored l).writes = true := rfl
@[simp] theorem Frame.reads_storing (l : Logger) : (Frame.storing l).reads = false := rfl
@[simp] theorem Frame.reads_stored (l : Logger) : (Frame.stored l).reads = false := rfl

/-- The lock, what it guards, and the guards that each thread has. -/
structure Guards (T : Type) where
  lock : RwLock T
  logger : Logger
  held : T → List Frame

namespace Guards
variable {T : Type} [DecidableEq T] {g g' : Guards T}

/-- What can happen to guards. -/
inductive Next (g : Guards T) : Guards T → Prop
  | same : Next g g
  | read (t : T) (frame : Frame) (lock : RwLock T) (free : g.lock.read t = some lock)
      (reads : frame.reads) (shows : ∀ logger message, frame = .calling logger message →
        logger = g.logger) :
      Next g ⟨lock, g.logger, Function.update g.held t (frame :: g.held t)⟩
  | unread (t : T) (frame : Frame) (rest : List Frame) (top : g.held t = frame :: rest)
      (reads : frame.reads) :
      Next g ⟨g.lock.unread t, g.logger, Function.update g.held t rest⟩
  | write (t : T) (logger : Logger) (lock : RwLock T) (free : g.lock.write t = some lock) :
      Next g ⟨lock, g.logger, Function.update g.held t (.storing logger :: g.held t)⟩
  | store (t : T) (logger : Logger) (rest : List Frame) (top : g.held t = .storing logger :: rest) :
      Next g ⟨g.lock, logger, Function.update g.held t (.stored logger :: rest)⟩
  | unwrite (t : T) (logger : Logger) (rest : List Frame) (top : g.held t = .stored logger :: rest) :
      Next g ⟨g.lock.releaseWrite, g.logger, Function.update g.held t rest⟩

/-- The guards of a thread are those the lock knows of, and whoever reads sees what is stored. -/
structure Fits (lock : RwLock T) (logger : Logger) (t : T) (frames : List Frame) : Prop where
  reads : frames.countP Frame.reads = lock.readers.count t
  writes : frames.countP Frame.writes = if lock.writer = some t then 1 else 0
  current : ∀ l message, .calling l message ∈ frames → l = logger
  stored : ∀ l, .stored l ∈ frames → l = logger

structure Valid (g : Guards T) : Prop where
  exclusive : g.lock.Exclusive
  fits : ∀ t, Fits g.lock g.logger t (g.held t)

theorem Valid.update {lock : RwLock T} {logger : Logger} {held : T → List Frame} {t : T}
    {frames : List Frame} (exclusive : lock.Exclusive) (own : Fits lock logger t frames)
    (others : ∀ u, u ≠ t → Fits lock logger u (held u)) :
    Valid ⟨lock, logger, Function.update held t frames⟩ := by
  refine ⟨exclusive, fun u => ?_⟩
  by_cases here : u = t
  · subst here
    simpa using own
  · simpa [here] using others u here

theorem Fits.writer {lock : RwLock T} {logger : Logger} {t : T} {frames : List Frame}
    (fits : Fits lock logger t frames) {frame : Frame} (member : frame ∈ frames)
    (writes : frame.writes) : lock.writer = some t := by
  have positive : 0 < frames.countP Frame.writes := List.countP_pos_iff.mpr ⟨frame, member, writes⟩
  rw [fits.writes] at positive
  by_contra other
  simp [other] at positive

theorem Valid.alone (valid : g.Valid) {t u : T} (writes : g.lock.writer = some t) {frame : Frame}
    (member : frame ∈ g.held u) : ¬ frame.reads ∧ (frame.writes → u = t) := by
  constructor
  · intro reads
    have positive : 0 < (g.held u).countP Frame.reads :=
      List.countP_pos_iff.mpr ⟨frame, member, reads⟩
    rw [(valid.fits u).reads] at positive
    exact valid.exclusive.not_reading writes (List.count_pos_iff.mp positive)
  · intro other
    have also := (valid.fits u).writer member other
    rw [writes] at also
    exact (Option.some.inj also).symm

theorem reads_not_writes {frame : Frame} (reads : frame.reads) : frame.writes = false := by
  cases frame <;> simp_all [Frame.reads, Frame.writes]

theorem Valid.next (valid : g.Valid) (next : Next g g') : g'.Valid := by
  cases next with
  | same => exact valid
  | read t frame lock free reads shows =>
    obtain ⟨unwritten, rfl⟩ := RwLock.read_inv free
    have fits := valid.fits t
    refine Valid.update (RwLock.Exclusive.read free) ⟨?_, ?_, ?_, ?_⟩ ?_
    · simp [reads, fits.reads]
    · simp [reads_not_writes reads, fits.writes]
    · intro l message member
      rcases List.mem_cons.mp member with top | below
      · exact shows l message top.symm
      · exact fits.current l message below
    · intro l member
      rcases List.mem_cons.mp member with top | below
      · subst top
        simp [Frame.reads] at reads
      · exact fits.stored l below
    · intro u other
      have fits := valid.fits u
      exact ⟨by simp [fits.reads, Ne.symm other], fits.writes, fits.current, fits.stored⟩
  | unread t frame rest top reads =>
    have fits := top ▸ valid.fits t
    refine Valid.update (valid.exclusive.unread t) ⟨?_, ?_, ?_, ?_⟩ ?_
    · have count := fits.reads
      simp only [List.countP_cons, reads, if_true] at count
      simp [← count]
    · have count := fits.writes
      simp only [List.countP_cons, reads_not_writes reads, Bool.false_eq_true, if_false] at count
      exact count
    · exact fun l message member => fits.current l message (List.mem_cons_of_mem _ member)
    · exact fun l member => fits.stored l (List.mem_cons_of_mem _ member)
    · intro u other
      have fits := valid.fits u
      exact ⟨by simp [fits.reads, other], fits.writes, fits.current, fits.stored⟩
  | write t logger lock free =>
    obtain ⟨unwritten, alone, rfl⟩ := RwLock.write_inv free
    have fits := valid.fits t
    refine Valid.update (RwLock.Exclusive.write free) ⟨?_, ?_, ?_, ?_⟩ ?_
    · simp [fits.reads]
    · simp [List.countP_cons, fits.writes, unwritten]
    · exact fun l message member => fits.current l message (by simpa using member)
    · exact fun l member => fits.stored l (by simpa using member)
    · intro u other
      have fits := valid.fits u
      exact ⟨fits.reads, by simp [fits.writes, unwritten, Ne.symm other], fits.current, fits.stored⟩
  | store t logger rest top =>
    have fits := top ▸ valid.fits t
    have writer : g.lock.writer = some t := fits.writer List.mem_cons_self rfl
    have alone : ∀ u, ∀ frame ∈ g.held u, ¬ frame.reads ∧ (frame.writes → u = t) :=
      fun u frame member => valid.alone writer member
    refine Valid.update valid.exclusive ⟨?_, ?_, ?_, ?_⟩ ?_
    · simpa using fits.reads
    · simpa [List.countP_cons] using fits.writes
    · intro l message member
      have below : Frame.calling l message ∈ g.held t := by simpa [top] using member
      exact absurd rfl (alone t _ below).1
    · intro l member
      rcases List.mem_cons.mp member with is | below
      · exact Frame.stored.inj is
      · -- the one write guard of the thread is that of the frame on top
        have count := fits.writes
        simp only [List.countP_cons, Frame.writes_storing, writer, if_true] at count
        exact absurd rfl (List.countP_eq_zero.mp (Nat.succ.inj count) _ below)
    · intro u other
      have fits := valid.fits u
      refine ⟨fits.reads, fits.writes, ?_, ?_⟩
      · intro l message member
        exact absurd rfl (alone u _ member).1
      · intro l member
        exact absurd ((alone u _ member).2 rfl) other
  | unwrite t logger rest top =>
    have fits := top ▸ valid.fits t
    have writer : g.lock.writer = some t := fits.writer List.mem_cons_self rfl
    refine Valid.update (RwLock.Exclusive.releaseWrite _) ⟨?_, ?_, ?_, ?_⟩ ?_
    · simpa using fits.reads
    · have count := fits.writes
      simp only [List.countP_cons, Frame.writes_stored, writer, if_true] at count
      simpa using Nat.succ.inj count
    · exact fun l message member => fits.current l message (List.mem_cons_of_mem _ member)
    · exact fun l member => fits.stored l (List.mem_cons_of_mem _ member)
    · intro u other
      have fits := valid.fits u
      have count := fits.writes
      simp only [writer, Option.some.injEq, Ne.symm other, if_false] at count
      exact ⟨fits.reads, by simpa using count, fits.current, fits.stored⟩

end Guards

def Frame.guarded (frame : Frame) : Bool := frame.reads || frame.writes

section Views
variable {T : Type} [DecidableEq T] {s s' : State T} {t : T}

omit [DecidableEq T] in
def State.guards (s : State T) : Guards T :=
  ⟨s.lock, s.logger, fun t => (s.stack t).filter Frame.guarded⟩

theorem guards_goto (s : State T) (t : T) (frames : List Frame) :
    (s.goto t frames).guards =
      ⟨s.lock, s.logger, Function.update s.guards.held t (frames.filter Frame.guarded)⟩ := by
  simp only [State.guards, State.goto, Guards.mk.injEq, true_and]
  funext u
  by_cases here : u = t
  · subst here
    simp
  · simp [here]

theorem guards_goto_same {frames : List Frame}
    (same : frames.filter Frame.guarded = (s.stack t).filter Frame.guarded) :
    (s.goto t frames).guards = s.guards := by
  rw [guards_goto, same]
  simp [State.guards]

theorem dispatch_guards {millis : Nat} {event : Event}
    (dispatched : s.dispatch t millis event = some s') : s'.guards = s.guards := by
  unfold State.dispatch at dispatched
  split at dispatched
  · obtain ⟨message, -, is⟩ := Option.bind_eq_some_iff.mp dispatched
    cases Option.some.inj is
    exact guards_goto_same rfl
  · cases Option.some.inj dispatched
    rfl

theorem begin_guards {frame : Frame} (unguarded : frame.guarded = false)
    (begun : s.begin t frame = some s') : s'.guards = s.guards := by
  unfold State.begin at begun
  split at begun
  · cases Option.some.inj begun
    exact guards_goto_same (by simp [unguarded])
  · contradiction

omit [DecidableEq T] in
theorem held_guarded {frame : Frame} {rest : List Frame} (stack : s.stack t = frame :: rest)
    (guarded : frame.guarded = true) :
    s.guards.held t = frame :: rest.filter Frame.guarded := by
  simp [State.guards, stack, guarded]

omit [DecidableEq T] in
theorem held_unguarded {frame : Frame} {rest : List Frame} (stack : s.stack t = frame :: rest)
    (unguarded : frame.guarded = false) : s.guards.held t = rest.filter Frame.guarded := by
  simp [State.guards, stack, unguarded]

theorem next_read {frame : Frame} {rest : List Frame} {above : Frame} {lock : RwLock T}
    (stack : s.stack t = above :: rest) (unguarded : above.guarded = false)
    (free : s.lock.read t = some lock) (reads : frame.reads)
    (shows : ∀ l message, frame = .calling l message → l = s.logger) :
    Guards.Next s.guards ({ s with lock := lock }.goto t (frame :: rest)).guards := by
  have next := Guards.Next.read (g := s.guards) t frame lock free reads shows
  rw [held_unguarded stack unguarded] at next
  rw [guards_goto, List.filter_cons, if_pos (by simp [Frame.guarded, reads])]
  exact next

theorem next_unread {frame : Frame} {rest : List Frame} (stack : s.stack t = frame :: rest)
    (reads : frame.reads) :
    Guards.Next s.guards ({ s with lock := s.lock.unread t }.goto t rest).guards := by
  rw [guards_goto]
  exact .unread t frame _ (held_guarded stack (by simp [Frame.guarded, reads])) reads

theorem goOn_next {millis : Nat} (went : s.goOn t millis = some s') :
    Guards.Next s.guards s'.guards := by
  unfold State.goOn at went
  split at went
  · contradiction
  · rename_i message rest stack
    obtain ⟨lock, free, went⟩ := Option.bind_eq_some_iff.mp went
    split at went
    · cases Option.some.inj went
      exact next_read stack rfl free rfl (fun l m is => (Frame.calling.inj is).1.symm)
    · cases Option.some.inj went
      rw [guards_goto_same (by rw [stack]; rfl)]
      exact .same
  · rename_i stack
    cases Option.some.inj went
    exact next_unread stack rfl
  · rename_i logger rest stack
    obtain ⟨lock, free, went⟩ := Option.bind_eq_some_iff.mp went
    cases Option.some.inj went
    have next := Guards.Next.write (g := s.guards) t logger lock free
    rw [held_unguarded stack rfl] at next
    rw [guards_goto]
    exact next
  · rename_i logger rest stack
    cases Option.some.inj went
    rw [guards_goto]
    exact .store t logger _ (held_guarded stack rfl)
  · rename_i logger rest stack
    cases Option.some.inj went
    rw [guards_goto]
    exact .unwrite t logger _ (held_guarded stack rfl)
  · rename_i rest stack
    obtain ⟨lock, free, went⟩ := Option.bind_eq_some_iff.mp went
    cases Option.some.inj went
    exact next_read stack rfl free rfl (fun l m is => Frame.noConfusion is)
  · rename_i stack
    cases Option.some.inj went
    exact next_unread stack rfl
  · rename_i filter rest stack
    have same : (s.goto t (.modifyLevel filter :: rest)).guards = s.guards :=
      guards_goto_same (by rw [stack]; rfl)
    split at went
    · rw [dispatch_guards went, same]
      exact .same
    · cases Option.some.inj went
      rw [same]
      exact .same
  · rename_i filter rest stack
    cases Option.some.inj went
    have same : (s.goto t (.announceLevel filter :: rest)).guards = s.guards :=
      guards_goto_same (by rw [stack]; rfl)
    exact same ▸ .same
  · rename_i filter rest stack
    rw [dispatch_guards went, guards_goto_same (by rw [stack]; rfl)]
    exact .same

theorem step_next {foreign : Bool} {action : Action T} (stepped : step foreign s action = some s') :
    Guards.Next s.guards s'.guards := by
  cases action with
  | initLogging =>
    cases Option.some.inj stepped
    exact .same
  | event t millis event =>
    simp only [step] at stepped
    split at stepped
    · rw [dispatch_guards stepped]
      exact .same
    · contradiction
  | setLevel t level =>
    simp only [step] at stepped
    split at stepped
    · rw [begin_guards rfl stepped]
      exact .same
    · split at stepped
      · cases Option.some.inj stepped
        exact .same
      · contradiction
  | setCallback t callback data =>
    rw [begin_guards rfl stepped]
    exact .same
  | getCallback t =>
    rw [begin_guards rfl stepped]
    exact .same
  | goOn t millis => exact goOn_next stepped

theorem guards_valid {foreign : Bool} {actions : List (Action T)}
    (ran : run (step foreign) {} actions = some s) : s.guards.Valid := by
  have initial : (State.guards ({} : State T)).Valid := by
    refine ⟨by simp [State.guards, RwLock.Exclusive], fun t => ⟨rfl, rfl, ?_, ?_⟩⟩
    · simp [State.guards]
    · simp [State.guards]
  have keeps : ∀ (s : State T) action s', s.guards.Valid → step foreign s action = some s' →
      s'.guards.Valid := fun _ _ _ valid stepped => valid.next (step_next stepped)
  exact run_invariant keeps initial ran

/-- A thread that is about to return with a new callback has waited for all others. -/
theorem stored_alone {l : Logger} {rest : List Frame} (valid : s.guards.Valid)
    (stack : s.stack t = .stored l :: rest) :
    s.logger = l ∧ ∀ u l' message, .calling l' message ∉ s.stack u := by
  have held := held_guarded stack rfl
  have own : .stored l ∈ s.guards.held t := by simp [held]
  refine ⟨((valid.fits t).stored l own).symm, ?_⟩
  intro u l' message member
  have reads : .calling l' message ∈ s.guards.held u := List.mem_filter.mpr ⟨member, rfl⟩
  exact absurd rfl (valid.alone ((valid.fits t).writer own rfl) reads).1

/-- A thread stores a callback. -/
def Stores (l : Logger) (s s' : State T) : Prop :=
  (∃ t, .storing l ∈ s.stack t) ∧ s'.logger = l

theorem step_logger {foreign : Bool} {action : Action T}
    (stepped : step foreign s action = some s') :
    s'.logger = s.logger ∨ Stores s'.logger s s' := by
  have next := step_next stepped
  generalize after : s'.guards = g at next
  have logger : s'.logger = g.logger := by rw [← after]; rfl
  cases next with
  | store t l rest top =>
    have member : .storing l ∈ s.guards.held t := by simp [top]
    exact .inr ⟨⟨t, logger ▸ (List.mem_filter.mp member).1⟩, rfl⟩
  | _ => exact .inl logger

theorem run_logger {foreign : Bool} {actions : List (Action T)}
    (ran : run (step foreign) s actions = some s') :
    s'.logger = s.logger ∨
      Happened (step foreign) s actions (fun u _ v => Stores s'.logger u v) := by
  refine run_history (fun done (v : State T) => v.logger = s.logger ∨
    Happened (step foreign) s done (fun u _ w => Stores v.logger u w)) (.inl rfl) ?_ ran
  intro done u action v before inv stepped
  rcases step_logger stepped with same | stores
  · rw [same]
    exact inv.imp_right (fun happened => happened.later action)
  · exact .inr (.now before stepped stores)

/-- The message that a frame is about. -/
def Frame.message : Frame → Option CassLogMessage
  | .logging message | .calling _ message => some message
  | _ => none

/-- A message is on its way to a callback, or with one. -/
def State.Shows (s : State T) (message : CassLogMessage) : Prop :=
  ∃ t, ∃ frame ∈ s.stack t, frame.message = some message

/-- A message of an event that passes the filter. -/
def Admitted (s : State T) (message : CassLogMessage) : Prop :=
  s.handle = some true ∧ ∃ millis event, onEvent (some millis) event = some message ∧
    s.filter.admits event.level

variable {message : CassLogMessage}

theorem shows_goto {frames : List Frame} (shows : (s.goto t frames).Shows message)
    (known : ∀ frame ∈ frames, frame.message = some message → s.Shows message) :
    s.Shows message := by
  obtain ⟨u, frame, member, is⟩ := shows
  by_cases here : u = t
  · subst here
    simp only [State.goto, Function.update_self] at member
    exact known frame member is
  · simp only [State.goto, Function.update_of_ne here] at member
    exact ⟨u, frame, member, is⟩

theorem shows_top {above : Frame} {rest : List Frame} (stack : s.stack t = above :: rest)
    (frames : List Frame) (alike : ∀ frame ∈ frames, frame.message = none ∨
      frame.message = above.message) (shows : (s.goto t (frames ++ rest)).Shows message) :
    s.Shows message := by
  refine shows_goto shows ?_
  intro frame member is
  rcases List.mem_append.mp member with new | below
  · rcases alike frame new with silent | same
    · rw [silent] at is
      contradiction
    · exact ⟨t, above, by simp [stack], same.symm.trans is⟩
  · exact ⟨t, frame, by simp [stack, below], is⟩

theorem dispatch_shows {millis : Nat} {event : Event}
    (dispatched : s.dispatch t millis event = some s') (shows : s'.Shows message) :
    s.Shows message ∨ Admitted s message := by
  unfold State.dispatch at dispatched
  split at dispatched
  · rename_i passes
    obtain ⟨new, made, is⟩ := Option.bind_eq_some_iff.mp dispatched
    cases Option.some.inj is
    by_cases same : new = message
    · subst same
      exact .inr ⟨passes.1, millis, event, made, passes.2⟩
    · refine .inl (shows_goto shows ?_)
      intro frame member is
      rcases List.mem_cons.mp member with top | below
      · subst top
        exact absurd (Option.some.inj is) same
      · exact ⟨t, frame, below, is⟩
  · cases Option.some.inj dispatched
    exact .inl shows

theorem begin_shows {frame : Frame} (silent : frame.message = none)
    (begun : s.begin t frame = some s') (shows : s'.Shows message) : s.Shows message := by
  unfold State.begin at begun
  split at begun
  · cases Option.some.inj begun
    refine shows_goto shows ?_
    intro other member is
    rcases List.mem_cons.mp member with top | below
    · subst top
      rw [silent] at is
      contradiction
    · exact ⟨t, other, below, is⟩
  · contradiction

theorem goOn_shows {millis : Nat} (went : s.goOn t millis = some s') (shows : s'.Shows message) :
    s.Shows message ∨ Admitted s message := by
  unfold State.goOn at went
  split at went
  · contradiction
  · rename_i above rest stack
    obtain ⟨lock, free, went⟩ := Option.bind_eq_some_iff.mp went
    split at went
    · cases Option.some.inj went
      exact .inl (shows_top stack [.calling s.logger above] (by simp [Frame.message]) shows)
    · cases Option.some.inj went
      exact .inl (shows_top stack [] (by simp) shows)
  · rename_i stack
    cases Option.some.inj went
    exact .inl (shows_top stack [] (by simp) shows)
  · rename_i logger rest stack
    obtain ⟨lock, free, went⟩ := Option.bind_eq_some_iff.mp went
    cases Option.some.inj went
    exact .inl (shows_top stack [.storing logger] (by simp [Frame.message]) shows)
  · rename_i logger rest stack
    cases Option.some.inj went
    exact .inl (shows_top stack [.stored logger] (by simp [Frame.message]) shows)
  · rename_i stack
    cases Option.some.inj went
    exact .inl (shows_top stack [] (by simp) shows)
  · rename_i rest stack
    obtain ⟨lock, free, went⟩ := Option.bind_eq_some_iff.mp went
    cases Option.some.inj went
    exact .inl (shows_top stack [.gotCallback s.logger] (by simp [Frame.message]) shows)
  · rename_i stack
    cases Option.some.inj went
    exact .inl (shows_top stack [] (by simp) shows)
  · rename_i filter rest stack
    have kept : (s.goto t (.modifyLevel filter :: rest)).Shows message → s.Shows message :=
      shows_top stack [.modifyLevel filter] (by simp [Frame.message])
    split at went
    · exact (dispatch_shows went shows).imp_left kept
    · cases Option.some.inj went
      exact .inl (kept shows)
  · rename_i filter rest stack
    cases Option.some.inj went
    exact .inl (shows_top stack [.announceLevel filter] (by simp [Frame.message]) shows)
  · rename_i stack
    exact (dispatch_shows went shows).imp_left (shows_top stack [] (by simp))

theorem step_shows {foreign : Bool} {action : Action T} (stepped : step foreign s action = some s')
    (shows : s'.Shows message) : s.Shows message ∨ Admitted s message := by
  cases action with
  | initLogging =>
    cases Option.some.inj stepped
    exact .inl shows
  | event t millis event =>
    simp only [step] at stepped
    split at stepped
    · exact dispatch_shows stepped shows
    · contradiction
  | setLevel t level =>
    simp only [step] at stepped
    split at stepped
    · exact .inl (begin_shows (s := s.initLogging foreign) rfl stepped shows)
    · split at stepped
      · cases Option.some.inj stepped
        exact .inl shows
      · contradiction
  | setCallback t callback data =>
    exact .inl (begin_shows (s := s.initLogging foreign) rfl stepped shows)
  | getCallback t => exact .inl (begin_shows rfl stepped shows)
  | goOn t millis => exact goOn_shows stepped shows

theorem run_shows {foreign : Bool} {actions : List (Action T)}
    (ran : run (step foreign) {} actions = some s) (shows : s.Shows message) :
    Happened (step foreign) {} actions (fun u _ _ => Admitted u message) := by
  refine run_history (fun done (v : State T) => v.Shows message →
    Happened (step foreign) {} done (fun u _ _ => Admitted u message)) ?_ ?_ ran shows
  · rintro ⟨t, frame, member, -⟩
    simp at member
  · intro done u action v before inv stepped shows
    rcases step_shows stepped shows with already | admitted
    · exact (inv already).later action
    · exact .now before stepped admitted

end Views

/-- A callback that runs is the one that is set, with a message whose level the filter let pass.
Once the call that replaces it has returned it does not run any more, on no thread, so its data
is the client's again; what runs later was stored later. -/
theorem callback_replaced {T : Type} [DecidableEq T] (foreign : Bool) (actions : List (Action T))
    (s : State T) (ran : run (step foreign) {} actions = some s) :
    (∀ t l message, .calling l message ∈ s.stack t → l = s.logger ∧
      Happened (step foreign) {} actions (fun u _ _ => Admitted u message)) ∧
    ∀ t l rest millis returned, s.stack t = .stored l :: rest →
      step foreign s (.goOn t millis) = some returned →
      returned.logger = l ∧ (∀ u l' message, .calling l' message ∉ returned.stack u) ∧
      ∀ later final, run (step foreign) returned later = some final →
        ∀ u l' message, .calling l' message ∈ final.stack u →
          l' = l ∨ Happened (step foreign) returned later (fun v _ w => Stores l' v w) := by
  have valid := guards_valid ran
  refine ⟨?_, ?_⟩
  · intro t l message member
    have held : .calling l message ∈ s.guards.held t := List.mem_filter.mpr ⟨member, rfl⟩
    exact ⟨(valid.fits t).current l message held, run_shows ran ⟨t, _, member, rfl⟩⟩
  · intro t l rest millis returned stack stepped
    obtain ⟨logger, alone⟩ := stored_alone valid stack
    have is : returned = { s with lock := s.lock.releaseWrite }.goto t rest := by
      simp only [step, State.goOn, stack] at stepped
      exact (Option.some.inj stepped).symm
    have now : returned.logger = l := by rw [is, ← logger]; rfl
    refine ⟨now, ?_, ?_⟩
    · intro u l' message member
      rw [is] at member
      by_cases here : u = t
      · subst here
        simp only [State.goto, Function.update_self] at member
        exact alone u l' message (by simp [stack, member])
      · simp only [State.goto, Function.update_of_ne here] at member
        exact alone u l' message member
    · intro later final went u l' message member
      have all : run (step foreign) {} (actions ++ .goOn t millis :: later) = some final := by
        simp only [run_append, ran, Option.bind_some, run, stepped, went]
      have held : .calling l' message ∈ final.guards.held u := List.mem_filter.mpr ⟨member, rfl⟩
      have current := ((guards_valid all).fits u).current l' message held
      rw [current, ← now]
      exact run_logger went

theorem onEvent_isSome (millis : Nat) (event : Event) :
    ∃ message, onEvent (some millis) event = some message := by
  obtain ⟨_, -, empty⟩ := strToArr_eq (n := cassLogMaxMessageSize) (by decide) ""
  obtain ⟨_, -, text⟩ := strToArr_eq (n := cassLogMaxMessageSize) (by decide) (event.text ++ "\x00")
  simp [onEvent, empty, text]

/- One thread replaces the callback while the other runs it. -/
def replacing (event : Event) : List (Action Bool) :=
  [.initLogging, .event false 0 event, .goOn false 0, .setCallback true (some (.client 7)) 1,
    .goOn false 0, .goOn true 0, .goOn true 0]

theorem callback_replaced_running :
    ∃ s returned, run (step false) {} (replacing ⟨"scylladb", .warn, none, []⟩) = some s ∧
      step false s (.goOn true 0) = some returned ∧ returned.logger = ⟨some (.client 7), 1⟩ ∧
      ∀ u l message, .calling l message ∉ returned.stack u := by
  obtain ⟨message, made⟩ := onEvent_isSome 0 ⟨"scylladb", .warn, none, []⟩
  have logged : State.dispatch { handle := some true } false 0 ⟨"scylladb", .warn, none, []⟩ =
      some (State.goto { handle := some true } false [.logging message]) := by
    simp [State.dispatch, made, LevelFilter.admits, defaultLogLevelFilter]
  obtain ⟨s, ran, stack⟩ : ∃ s, run (step false) {} (replacing ⟨"scylladb", .warn, none, []⟩) = some s ∧
      s.stack true = [.stored ⟨some (.client 7), 1⟩] := by
    simp [replacing, run, step, State.initLogging, State.isFree, logged, State.goto, State.goOn,
      State.begin, RwLock.read, RwLock.write, RwLock.unread]
  obtain ⟨returned, stepped⟩ : ∃ returned, step false s (.goOn true 0) = some returned := by
    simp [step, State.goOn, stack]
  have replaced := (callback_replaced false _ s ran).2 true _ [] 0 returned stack stepped
  exact ⟨s, returned, ran, stepped, replaced.1, replaced.2.1⟩

end CppRsDriver.Logging
