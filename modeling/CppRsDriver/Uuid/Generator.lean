import CppRsDriver.Lib.Runs
import CppRsDriver.Uuid.Timestamp

/-! One UUID generator shared by any number of threads. The shared word is read
and written by sequentially consistent atomics only, so a run is an interleaving
of the threads' clock samples, loads and updates. The clock may return anything. -/
namespace CppRsDriver.Uuid
open CppRsDriver.Lib

/-- What `try_monotonic_timestamp` does to the shared word it loaded before. -/
inductive Update where
  | compareExchange (expected new : UInt64)
  | fetchAdd
  | nothing
  deriving DecidableEq, Repr

def chooseUpdate (last now : UInt64) : Update :=
  if now > last then .compareExchange last now
  else
    let lastMs := toMilliseconds last
    if toMilliseconds now < lastMs then .fetchAdd
    else
      let candidate := last + 1
      if toMilliseconds candidate == lastMs then .compareExchange last candidate else .nothing

/- The word after the update and the timestamp the attempt returns. -/
def Update.apply (word : UInt64) : Update → UInt64 × Option UInt64
  | .compareExchange expected new => if word = expected then (new, some new) else (word, none)
  | .fetchAdd => (word + 1, some (word + 1))
  | .nothing => (word, none)

/-- Where a thread stands in `monotonic_timestamp`. -/
inductive Pc where
  | idle
  | sampling
  | loading (now : UInt64)
  | updating (now last : UInt64)
  deriving DecidableEq, Repr

structure CassUuidGen where
  clockSeqAndNode : UInt64
  lastTimestamp : UInt64
  deriving DecidableEq, Repr

/-- A generator, its threads, and the timestamps returned so far, newest first. -/
structure SharedGen (T : Type) extends CassUuidGen where
  pc : T → Pc
  returned : List (T × UInt64)

inductive Event (T : Type) where
  | call (t : T)
  | sample (t : T) (millis : UInt64)
  | load (t : T)
  | update (t : T)

section Threads
variable {T : Type} [DecidableEq T]

def SharedGen.fresh (T : Type) (clockSeqAndNode : UInt64) : SharedGen T :=
  ⟨⟨clockSeqAndNode, 0⟩, fun _ => .idle, []⟩

def SharedGen.step (g : SharedGen T) : Event T → Option (SharedGen T)
  | .call t =>
    match g.pc t with
    | .idle => some { g with pc := Function.update g.pc t .sampling }
    | _ => none
  | .sample t millis =>
    match g.pc t with
    | .sampling =>
      some { g with pc := Function.update g.pc t (.loading (fromUnixTimestamp millis)) }
    | _ => none
  | .load t =>
    match g.pc t with
    | .loading now =>
      some { g with pc := Function.update g.pc t (.updating now g.lastTimestamp) }
    | _ => none
  | .update t =>
    match g.pc t with
    | .updating now last =>
      match (chooseUpdate last now).apply g.lastTimestamp with
      | (word, some timestamp) =>
        some { g with
          lastTimestamp := word
          pc := Function.update g.pc t .idle
          returned := (t, timestamp) :: g.returned }
      | (word, none) =>
        some { g with lastTimestamp := word, pc := Function.update g.pc t .sampling }
    | _ => none

/-- The UUID `cass_uuid_gen_time` writes for an allocated timestamp. -/
def CassUuidGen.genTime (gen : CassUuidGen) (timestamp : UInt64) : CassUuid :=
  ⟨setVersion timestamp 1, gen.clockSeqAndNode⟩

theorem update_outcome (last now word : UInt64) :
    (chooseUpdate last now).apply word = (word, none) ∨
    ∃ new, (chooseUpdate last now).apply word = (new, some new) ∧ (word < new ∨ new = word + 1) := by
  unfold chooseUpdate
  split
  · rename_i later
    by_cases current : word = last
    · exact .inr ⟨now, by simp [Update.apply, current], .inl (current ▸ later)⟩
    · exact .inl (by simp [Update.apply, current])
  · dsimp only
    split
    · exact .inr ⟨word + 1, rfl, .inr rfl⟩
    · split
      · by_cases current : word = last
        · exact .inr ⟨last + 1, by simp [Update.apply, current], .inr (current ▸ rfl)⟩
        · exact .inl (by simp [Update.apply, current])
      · exact .inl rfl

/-- Everything a step can do to the word and to the log of timestamps. -/
theorem step_outcome {g g' : SharedGen T} {e : Event T} (stepped : g.step e = some g') :
    (g'.returned = g.returned ∧ g'.lastTimestamp = g.lastTimestamp) ∨
    ∃ t, g'.returned = (t, g'.lastTimestamp) :: g.returned ∧
      (g.lastTimestamp < g'.lastTimestamp ∨ g'.lastTimestamp = g.lastTimestamp + 1) := by
  cases e with
  | call t | sample t _ | load t =>
    simp only [SharedGen.step] at stepped
    split at stepped
    · cases Option.some.inj stepped
      exact .inl ⟨rfl, rfl⟩
    · contradiction
  | update t =>
    simp only [SharedGen.step] at stepped
    split at stepped
    · rename_i now last _
      rcases update_outcome last now g.lastTimestamp with lost | ⟨new, won, later⟩
      · rw [lost] at stepped
        cases Option.some.inj stepped
        exact .inl ⟨rfl, rfl⟩
      · rw [won] at stepped
        cases Option.some.inj stepped
        exact .inr ⟨t, rfl, later⟩
    · contradiction

/-- All timestamps returned so far fit the 60 bits of a UUID. -/
def SharedGen.Bounded (g : SharedGen T) : Prop := ∀ entry ∈ g.returned, entry.2.toNat < 2 ^ 60

/-- The log is the history of the shared word: newest on top, strictly increasing. -/
structure SharedGen.Ordered (g : SharedGen T) : Prop where
  decreasing : g.returned.Pairwise (fun newer older => older.2 < newer.2)
  below : ∀ entry ∈ g.returned, entry.2 ≤ g.lastTimestamp
  fits : g.lastTimestamp.toNat < 2 ^ 60

theorem bounded_before {g g' : SharedGen T} {e : Event T} (stepped : g.step e = some g')
    (bounded : g'.Bounded) : g.Bounded := by
  rcases step_outcome stepped with ⟨same, _⟩ | ⟨t, log, _⟩
  · exact fun entry member => bounded entry (same ▸ member)
  · exact fun entry member => bounded entry (log ▸ List.mem_cons_of_mem _ member)

/- The next tick after a 60-bit word cannot wrap. -/
theorem lt_of_allocated {word new : UInt64} (fits : word.toNat < 2 ^ 60)
    (later : word < new ∨ new = word + 1) : word < new := by
  rcases later with h | rfl
  · exact h
  · rw [UInt64.lt_iff_toNat_lt, UInt64.toNat_add]
    change word.toNat < (word.toNat + 1) % 2 ^ 64
    omega

theorem step_ordered {g g' : SharedGen T} {e : Event T} (stepped : g.step e = some g')
    (bounded : g'.Bounded) (ordered : g.Ordered) : g'.Ordered := by
  rcases step_outcome stepped with ⟨same, word⟩ | ⟨t, log, later⟩
  · exact ⟨same ▸ ordered.decreasing, by rw [same, word]; exact ordered.below,
      word ▸ ordered.fits⟩
  · have grows := lt_of_allocated ordered.fits later
    refine ⟨?_, ?_, ?_⟩
    · rw [log, List.pairwise_cons]
      exact ⟨fun older member => UInt64.lt_of_le_of_lt (ordered.below older member) grows,
        ordered.decreasing⟩
    · intro entry member
      rw [log] at member
      rcases List.mem_cons.mp member with rfl | older
      · exact UInt64.le_refl _
      · exact UInt64.le_trans (ordered.below entry older) (UInt64.le_of_lt grows)
    · exact bounded (t, g'.lastTimestamp) (log ▸ List.mem_cons_self)

/-- Along every run whose timestamps stay below 2^60 the log is ordered. -/
theorem run_ordered {g : SharedGen T} {events : List (Event T)}
    {clockSeqAndNode : UInt64}
    (ran : run SharedGen.step (SharedGen.fresh T clockSeqAndNode) events = some g) :
    g.Bounded → g.Ordered := by
  have keeps : ∀ (g : SharedGen T) e g', (g.Bounded → g.Ordered) → g.step e = some g' →
      g'.Bounded → g'.Ordered := fun g e g' ih stepped bounded =>
    step_ordered stepped bounded (ih (bounded_before stepped bounded))
  refine run_invariant keeps ?_ ran
  have zero : (0 : UInt64).toNat < 2 ^ 60 := by decide
  exact fun _ => ⟨List.Pairwise.nil, fun _ member => (List.not_mem_nil member).elim, zero⟩

/-- Time UUIDs of one generator are pairwise distinct, each thread's timestamps
increase, and every allocation moves the shared word up, for any interleaving. -/
theorem time_uuids_unique (clockSeqAndNode : UInt64) (events : List (Event T)) (g : SharedGen T)
    (ran : run SharedGen.step (SharedGen.fresh T clockSeqAndNode) events = some g)
    (bounded : g.Bounded) :
    (g.returned.map (fun entry => g.genTime entry.2)).Nodup ∧
    (∀ t, (g.returned.filter (fun entry => entry.1 = t)).Pairwise
      (fun newer older => older.2 < newer.2)) ∧
    (∀ e g', g.step e = some g' → g'.Bounded →
      (g'.returned = g.returned ∧ g'.lastTimestamp = g.lastTimestamp) ∨
      ∃ t, g'.returned = (t, g'.lastTimestamp) :: g.returned ∧
        g.lastTimestamp < g'.lastTimestamp) := by
  have ordered := run_ordered ran bounded
  refine ⟨?_, ?_, ?_⟩
  · rw [List.Nodup, List.pairwise_map]
    refine ordered.decreasing.imp_of_mem ?_
    intro newer older hn ho less same
    have words := congrArg CassUuid.timeAndVersion same
    have equal := setVersion_injective 1 (bounded newer hn) (bounded older ho) words
    rw [equal] at less
    exact UInt64.lt_irrefl _ less
  · exact fun t => ordered.decreasing.filter _
  · intro e g' stepped _
    rcases step_outcome stepped with same | ⟨t, log, later⟩
    · exact .inl same
    · exact .inr ⟨t, log, lt_of_allocated ordered.fits later⟩

end Threads

/- Two threads: the second one's clock reads an earlier millisecond, and its third
attempt runs on a word it loaded before the first thread allocated again. -/
def rollbackRun : List (Event Bool) :=
  [.call false, .call true, .sample false 1600000000000, .sample true 1599999999000,
   .load false, .update false, .load true, .update true,
   .call false, .call true, .sample false 1600000000000, .sample true 1600000000000,
   .load false, .load true, .update false, .update true,
   .sample true 1600000000000, .load true, .update true]

theorem time_uuids_unique_rollback :
    (run SharedGen.step (SharedGen.fresh Bool 5) rollbackRun).map
        (fun g => g.returned.map (fun entry => g.genTime entry.2)) =
      some [⟨1291114432606846979, 5⟩, ⟨1291114432606846978, 5⟩, ⟨1291114432606846977, 5⟩,
        ⟨1291114432606846976, 5⟩] ∧
    [(⟨1291114432606846979, 5⟩ : CassUuid), ⟨1291114432606846978, 5⟩, ⟨1291114432606846977, 5⟩,
      ⟨1291114432606846976, 5⟩].Nodup := by
  have log : (run SharedGen.step (SharedGen.fresh Bool 5) rollbackRun).map
        (fun g => (g.returned, g.returned.map (fun entry => g.genTime entry.2))) =
      some ([(true, 138192928000000003), (false, 138192928000000002), (true, 138192928000000001),
          (false, 138192928000000000)],
        [⟨1291114432606846979, 5⟩, ⟨1291114432606846978, 5⟩, ⟨1291114432606846977, 5⟩,
          ⟨1291114432606846976, 5⟩]) := by decide
  obtain ⟨g, ran, same⟩ := Option.map_eq_some_iff.mp log
  obtain ⟨timestamps, uuids⟩ := Prod.mk.inj same
  have bounded : g.Bounded := by
    unfold SharedGen.Bounded
    rw [timestamps]
    simp
  refine ⟨by rw [ran, Option.map_some, uuids], ?_⟩
  exact uuids ▸ (time_uuids_unique 5 rollbackRun g ran bounded).1

end CppRsDriver.Uuid
