import CppRsDriver.Uuid.Bounds

/-! The millisecond a time UUID reads as. One thread calls the generator under a clock that
never goes back; a UUID is logged with the millisecond its iteration of the loop sampled. -/
namespace CppRsDriver.Uuid

open CppRsDriver.Lib

theorem reads_iff {ms tick : UInt64} {k : Nat} (fits : firstTick ms < 2 ^ 60) (within : k < 10000)
    (is : tick.toNat = firstTick ms + k) (clockSeqAndNode : UInt64) :
    cassUuidTimestamp ⟨setVersion tick 1, clockSeqAndNode⟩ = ms ↔ firstTick ms + k < 2 ^ 60 := by
  have value := cassUuidTimestamp_toNat ⟨setVersion tick 1, clockSeqAndNode⟩
  have complement : 2 ^ 64 - 122192928000000000 = 18324551145709551616 := by decide
  rw [timestampBits_setVersion, is, timeOffset_toNat, complement] at value
  rw [← UInt64.toNat_inj, value]
  clear value complement is
  simp only [firstTick, timeOffset_toNat] at fits ⊢
  by_cases inside : ms.toNat * 10000 + 122192928000000000 + k < 2 ^ 60
  · rw [Nat.mod_eq_of_lt inside]
    have least : ms.toNat * 10000 + k ≤ ms.toNat * 10000 + 122192928000000000 + k := by omega
    have below : ms.toNat * 10000 + k < 2 ^ 64 := (least.trans_lt inside).trans (by decide)
    have since : 18324551145709551616 + (ms.toNat * 10000 + 122192928000000000 + k) =
        2 ^ 64 + (ms.toNat * 10000 + k) := by omega
    rw [since, Nat.add_mod_left, Nat.mod_eq_of_lt below]
    omega
  · -- the version takes the place of the bit that is set, and what is left is before the epoch
    have low : (ms.toNat * 10000 + 122192928000000000 + k) % 2 ^ 60 < 10000 := by omega
    have below : 18324551145709551616 + (ms.toNat * 10000 + 122192928000000000 + k) % 2 ^ 60 <
        2 ^ 64 := by omega
    rw [Nat.mod_eq_of_lt below]
    omega

theorem fromUnixTimestamp_eq {ms : UInt64} (fits : firstTick ms < 2 ^ 60) :
    (fromUnixTimestamp ms).toNat = firstTick ms := by
  rw [fromUnixTimestamp_toNat]
  unfold firstTick at fits ⊢
  omega

theorem apply_later {word now : UInt64} (later : word < now) :
    (chooseUpdate word now).apply word = (now, some now) := by
  rw [chooseUpdate, if_pos later, Update.apply, if_pos rfl]

theorem toMilliseconds_toNat (tick : UInt64) : (toMilliseconds tick).toNat = tick.toNat / 10000 := by
  rw [toMilliseconds, UInt64.toNat_div]
  rfl

/- No tick of a millisecond that begins below 2^60 wraps. -/
theorem tick_succ {word ms : UInt64} {k : Nat} (fits : firstTick ms < 2 ^ 60) (within : k < 10000)
    (is : word.toNat = firstTick ms + k) : (word + 1).toNat = word.toNat + 1 := by
  rw [UInt64.toNat_add]
  change (word.toNat + 1) % 2 ^ 64 = _
  omega

theorem firstTick_pos (ms : UInt64) : 0 < firstTick ms := by
  rw [firstTick, timeOffset_toNat]
  exact Nat.lt_of_lt_of_le (by decide) (Nat.le_add_left _ _)

theorem apply_same {word ms : UInt64} {k : Nat} (fits : firstTick ms < 2 ^ 60) (within : k < 10000)
    (is : word.toNat = firstTick ms + k) :
    (chooseUpdate word (fromUnixTimestamp ms)).apply word =
      if k + 1 < 10000 then (word + 1, some (word + 1)) else (word, none) := by
  have now := fromUnixTimestamp_eq fits
  have next := tick_succ fits within is
  have notLater : ¬ fromUnixTimestamp ms > word := by
    rw [gt_iff_lt, UInt64.lt_iff_toNat_lt]
    omega
  have notBefore : ¬ toMilliseconds (fromUnixTimestamp ms) < toMilliseconds word := by
    rw [UInt64.lt_iff_toNat_lt, toMilliseconds_toNat, toMilliseconds_toNat, now, is]
    simp only [firstTick, timeOffset_toNat]
    omega
  have room : toMilliseconds (word + 1) = toMilliseconds word ↔ k + 1 < 10000 := by
    rw [← UInt64.toNat_inj, toMilliseconds_toNat, toMilliseconds_toNat, next, is]
    simp only [firstTick, timeOffset_toNat]
    omega
  simp only [chooseUpdate, if_neg notLater, if_neg notBefore, beq_iff_eq, room]
  split
  · rw [Update.apply, if_pos rfl]
  · rfl

/-- A generator with one thread, the millisecond sampled last and the UUIDs' ticks, newest
first, each with the millisecond sampled in the iteration that returned it. -/
structure Observed where
  gen : SharedGen Unit
  sampled : Option UInt64
  log : List (UInt64 × UInt64)

def Observed.fresh (clockSeqAndNode : UInt64) : Observed :=
  ⟨SharedGen.fresh Unit clockSeqAndNode, none, []⟩

/-- A step of the generator, and what is seen of it. -/
def Observed.step (o : Observed) (e : Event Unit) : Option Observed :=
  (o.gen.step e).map (fun gen =>
    { gen := gen
      sampled :=
        match e with
        | .sample _ millis => some millis
        | _ => o.sampled
      log :=
        if gen.returned.length = o.gen.returned.length then o.log
        else (o.sampled.getD 0, gen.lastTimestamp) :: o.log })

/-- The clock never goes back, and the ticks of its milliseconds begin below 2^60. -/
def Steady (o : Observed) : Event Unit → Prop
  | .sample _ millis => firstTick millis < 2 ^ 60 ∧ ∀ before ∈ o.sampled, before ≤ millis
  | _ => True

/-- How many UUIDs a log has of a millisecond. -/
def countOf (ms : UInt64) (log : List (UInt64 × UInt64)) : Nat := log.countP (fun e => e.1 = ms)

/-- The ticks of a log: those of a millisecond are numbered from its first one on, and no
millisecond comes before an earlier one. -/
def Numbered : List (UInt64 × UInt64) → Prop
  | [] => True
  | (ms, tick) :: rest =>
    (firstTick ms < 2 ^ 60 ∧ countOf ms rest < 10000 ∧ tick.toNat = firstTick ms + countOf ms rest ∧
      ∀ e ∈ rest, e.1 ≤ ms) ∧ Numbered rest

structure Observed.Inv (o : Observed) : Prop where
  numbered : Numbered o.log
  word : o.gen.lastTimestamp = (o.log.head?.map Prod.snd).getD 0
  returned : o.gen.returned.map Prod.snd = o.log.map Prod.snd
  fits : ∀ millis, o.sampled = some millis → firstTick millis < 2 ^ 60
  before : ∀ e ∈ o.log, ∃ millis, o.sampled = some millis ∧ e.1 ≤ millis
  held : ∀ now, (o.gen.pc ()).now = some now →
    ∃ millis, o.sampled = some millis ∧ now = fromUnixTimestamp millis
  loaded : ∀ now last, o.gen.pc () = .updating now last → last = o.gen.lastTimestamp

/-- What a step does to an observed generator. -/
inductive Observed.Next (o : Observed) : Event Unit → Observed → Prop where
  | call : Next o (.call ()) { o with gen := { o.gen with pc := fun _ => .sampling } }
  | sample (millis) : Next o (.sample () millis)
      { o with
        gen := { o.gen with pc := fun _ => .loading (fromUnixTimestamp millis) }
        sampled := some millis }
  | load (now) (at' : o.gen.pc () = .loading now) : Next o (.load ())
      { o with gen := { o.gen with pc := fun _ => .updating now o.gen.lastTimestamp } }
  | returns (now last word timestamp) (at' : o.gen.pc () = .updating now last)
      (applied : (chooseUpdate last now).apply o.gen.lastTimestamp = (word, some timestamp)) :
      Next o (.update ())
        { o with
          gen := { o.gen with
            lastTimestamp := word
            pc := fun _ => .idle
            returned := ((), timestamp) :: o.gen.returned }
          log := (o.sampled.getD 0, word) :: o.log }
  | retries (now last word) (at' : o.gen.pc () = .updating now last)
      (applied : (chooseUpdate last now).apply o.gen.lastTimestamp = (word, none)) :
      Next o (.update ())
        { o with gen := { o.gen with lastTimestamp := word, pc := fun _ => .sampling } }

theorem update_unit (pc : Unit → Pc) (new : Pc) : Function.update pc () new = fun _ => new := by
  funext t
  exact Function.update_self ..

theorem Observed.step_next {o o' : Observed} {e : Event Unit} (stepped : o.step e = some o') :
    o.Next e o' := by
  obtain ⟨gen, moved, rfl⟩ := Option.map_eq_some_iff.mp stepped
  clear stepped
  cases e with
  | call t =>
    simp only [SharedGen.step] at moved
    split at moved
    · cases moved
      rw [update_unit, if_pos rfl]
      exact .call
    · cases moved
  | sample t millis =>
    simp only [SharedGen.step] at moved
    split at moved
    · cases moved
      rw [update_unit, if_pos rfl]
      exact .sample millis
    · cases moved
  | load t =>
    simp only [SharedGen.step] at moved
    split at moved
    · rename_i now at'
      cases moved
      rw [update_unit, if_pos rfl]
      exact .load now at'
    · cases moved
  | update t =>
    simp only [SharedGen.step] at moved
    split at moved
    · rename_i now last at'
      split at moved
      · rename_i word timestamp applied
        cases moved
        have grows : ((t, timestamp) :: o.gen.returned).length ≠ o.gen.returned.length :=
          Nat.succ_ne_self _
        dsimp only
        rw [update_unit, if_neg grows]
        exact .returns now last word timestamp at' applied
      · rename_i word applied
        cases moved
        rw [update_unit, if_pos rfl]
        exact .retries now last word at' applied
    · cases moved

theorem countOf_cons (ms : UInt64) (e : UInt64 × UInt64) (log : List (UInt64 × UInt64)) :
    countOf ms (e :: log) = countOf ms log + if e.1 = ms then 1 else 0 := by
  simp only [countOf, List.countP_cons, decide_eq_true_eq]

theorem countOf_later {ms : UInt64} {log : List (UInt64 × UInt64)} (later : ∀ e ∈ log, e.1 < ms) :
    countOf ms log = 0 := by
  rw [countOf, List.countP_eq_zero]
  intro e member same
  rw [decide_eq_true_iff] at same
  exact UInt64.lt_irrefl ms (same ▸ later e member)

theorem Numbered.countOf_le {log : List (UInt64 × UInt64)} (numbered : Numbered log) (ms : UInt64) :
    countOf ms log ≤ 10000 := by
  induction log with
  | nil => exact Nat.zero_le _
  | cons e rest ih =>
    obtain ⟨⟨-, room, -, -⟩, numbered⟩ := numbered
    rw [countOf_cons]
    split
    · rename_i same
      rw [← same]
      exact room
    · exact ih numbered

theorem firstTick_lt {a b : UInt64} (less : a < b) : firstTick a + 10000 ≤ firstTick b := by
  rw [UInt64.lt_iff_toNat_lt] at less
  unfold firstTick
  omega

/-- What an attempt comes to: the next tick of the sampled millisecond, or, when it has none
left, another turn of the loop. -/
theorem Observed.Inv.attempt {o : Observed} (inv : o.Inv) {now last millis : UInt64}
    (at' : o.gen.pc () = .updating now last) (sampled : o.sampled = some millis) :
    (countOf millis o.log < 10000 ∧ ∃ tick : UInt64,
      (chooseUpdate last now).apply o.gen.lastTimestamp = (tick, some tick) ∧
      tick.toNat = firstTick millis + countOf millis o.log) ∨
    (countOf millis o.log = 10000 ∧
      (chooseUpdate last now).apply o.gen.lastTimestamp = (o.gen.lastTimestamp, none)) := by
  have fits := inv.fits millis sampled
  have held : now = fromUnixTimestamp millis := by
    obtain ⟨same, is, now⟩ := inv.held now (by rw [at']; rfl)
    cases Option.some.inj (sampled.symm.trans is)
    exact now
  have tick := fromUnixTimestamp_eq fits
  subst held
  rw [inv.loaded _ _ at']
  have starts (later : o.gen.lastTimestamp < fromUnixTimestamp millis)
      (none : countOf millis o.log = 0) :
      countOf millis o.log < 10000 ∧ ∃ tick : UInt64,
        (chooseUpdate o.gen.lastTimestamp (fromUnixTimestamp millis)).apply o.gen.lastTimestamp =
          (tick, some tick) ∧ tick.toNat = firstTick millis + countOf millis o.log := by
    rw [none, Nat.add_zero]
    exact ⟨by decide, _, apply_later later, tick⟩
  have word := inv.word
  have numbered := inv.numbered
  have before := inv.before
  cases log : o.log with
  | nil =>
    rw [log] at word starts
    refine .inl (starts ?_ rfl)
    rw [word, UInt64.lt_iff_toNat_lt, tick]
    exact firstTick_pos millis
  | cons e rest =>
    obtain ⟨ms, newest⟩ := e
    rw [log] at word starts numbered before
    obtain ⟨⟨-, room, number, earlier⟩, -⟩ := numbered
    have last : o.gen.lastTimestamp.toNat = firstTick ms + countOf ms rest := by
      rw [word]
      exact number
    obtain ⟨same, is, upTo⟩ := before _ List.mem_cons_self
    cases Option.some.inj (sampled.symm.trans is)
    dsimp only at upTo
    rcases UInt64.lt_or_eq_of_le upTo with less | rfl
    · refine .inl (starts ?_ ?_)
      · have gap := firstTick_lt less
        rw [UInt64.lt_iff_toNat_lt, tick, last]
        omega
      · apply countOf_later
        intro e member
        rcases List.mem_cons.mp member with rfl | old
        · exact less
        · exact UInt64.lt_of_le_of_lt (earlier e old) less
    · rw [apply_same fits room last, countOf_cons, if_pos rfl]
      split
      · rename_i more
        refine .inl ⟨more, _, rfl, ?_⟩
        rw [tick_succ fits room last, last, Nat.add_assoc]
      · rename_i full
        exact .inr ⟨by omega, rfl⟩

theorem Observed.Inv.fresh (clockSeqAndNode : UInt64) : (Observed.fresh clockSeqAndNode).Inv where
  numbered := trivial
  word := rfl
  returned := rfl
  fits _ is := by cases is
  before _ member := absurd member List.not_mem_nil
  held _ is := by cases is
  loaded _ _ is := by cases is

theorem Observed.Inv.next {o o' : Observed} {e : Event Unit} (inv : o.Inv) (steady : Steady o e)
    (next : o.Next e o') : o'.Inv := by
  cases next with
  | call =>
    refine { inv with held := ?_, loaded := ?_ }
    · intro now is
      cases is
    · intro now last is
      cases is
  | sample millis =>
    refine { inv with fits := ?_, before := ?_, held := ?_, loaded := ?_ }
    · rintro _ ⟨⟩
      exact steady.1
    · intro e member
      obtain ⟨old, is, upTo⟩ := inv.before e member
      exact ⟨millis, rfl, UInt64.le_trans upTo (steady.2 old is)⟩
    · intro now is
      exact ⟨millis, rfl, (Option.some.inj is).symm⟩
    · intro now last is
      cases is
  | load now at' =>
    refine { inv with held := ?_, loaded := ?_ }
    · rintro _ ⟨⟩
      exact inv.held now (by rw [at']; rfl)
    · rintro _ _ ⟨⟩
      rfl
  | returns now last word timestamp at' applied =>
    obtain ⟨millis, sampled, -⟩ := inv.held now (by rw [at']; rfl)
    rcases inv.attempt at' sampled with ⟨room, tick, next, number⟩ | ⟨-, next⟩
    · cases applied.symm.trans next
      rw [sampled, Option.getD_some]
      refine ⟨⟨⟨inv.fits millis sampled, room, number, ?_⟩, inv.numbered⟩, rfl, ?_, ?_, ?_, ?_, ?_⟩
      · intro e member
        obtain ⟨same, is, upTo⟩ := inv.before e member
        cases Option.some.inj (sampled.symm.trans is)
        exact upTo
      · exact congrArg (word :: ·) inv.returned
      · rintro _ ⟨⟩
        exact inv.fits millis sampled
      · intro e member
        rcases List.mem_cons.mp member with rfl | old
        · exact ⟨millis, rfl, UInt64.le_refl _⟩
        · obtain ⟨same, is, upTo⟩ := inv.before e old
          exact ⟨same, sampled.symm.trans is, upTo⟩
      · intro now is
        cases is
      · intro now last is
        cases is
    · cases applied.symm.trans next
  | retries now last word at' applied =>
    obtain ⟨millis, sampled, -⟩ := inv.held now (by rw [at']; rfl)
    rcases inv.attempt at' sampled with ⟨-, tick, next, -⟩ | ⟨-, next⟩
    · cases applied.symm.trans next
    · cases applied.symm.trans next
      refine { inv with held := ?_, loaded := ?_ }
      · intro now is
        cases is
      · intro now last is
        cases is

theorem run_numbered {clockSeqAndNode : UInt64} {events : List (Event Unit)} {o : Observed}
    (steady : Guarded Steady Observed.step (Observed.fresh clockSeqAndNode) events)
    (ran : run Observed.step (Observed.fresh clockSeqAndNode) events = some o) : o.Inv :=
  run_invariant_guarded (fun _ _ _ inv steady stepped => inv.next steady (Observed.step_next stepped))
    (.fresh clockSeqAndNode) steady ran

theorem observed_run {events : List (Event Unit)} {o : Observed} {g : SharedGen Unit}
    (ran : run SharedGen.step o.gen events = some g) :
    ∃ o', run Observed.step o events = some o' ∧ o'.gen = g := by
  induction events generalizing o with
  | nil =>
    cases ran
    exact ⟨o, rfl, rfl⟩
  | cons e events ih =>
    obtain ⟨next, stepped, rest⟩ := run_cons_some.mp ran
    obtain ⟨o', ran, is⟩ := ih (o := ⟨next, _, _⟩) rest
    exact ⟨o', run_cons_some.mpr ⟨_, Option.map_eq_some_iff.mpr ⟨next, stepped, rfl⟩, ran⟩, is⟩

theorem Numbered.at {newer older : List (UInt64 × UInt64)} {ms tick : UInt64}
    (numbered : Numbered (newer ++ (ms, tick) :: older)) :
    firstTick ms < 2 ^ 60 ∧ countOf ms older < 10000 ∧
      tick.toNat = firstTick ms + countOf ms older := by
  induction newer with
  | nil => exact ⟨numbered.1.1, numbered.1.2.1, numbered.1.2.2.1⟩
  | cons e newer ih => exact ih numbered.2

/-- What is seen of a run: the UUIDs of a millisecond have its ticks from the first one on,
and read as this millisecond as long as the tick fits 60 bits; there are at most 10000 of
them, and an attempt beyond these goes back to the clock. -/
structure Observed.Reads (o : Observed) : Prop where
  returned : o.gen.returned.map Prod.snd = o.log.map Prod.snd
  tick : ∀ newer ms tick older, o.log = newer ++ (ms, tick) :: older →
    tick.toNat = firstTick ms + countOf ms older ∧
    (cassUuidTimestamp (o.gen.genTime tick) = ms ↔ firstTick ms + countOf ms older < 2 ^ 60)
  atMost : ∀ ms, countOf ms o.log ≤ 10000
  waits : ∀ now last millis g', o.gen.pc () = .updating now last → o.sampled = some millis →
    o.gen.step (.update ()) = some g' →
    (g'.returned = o.gen.returned ∧ g'.pc () = .sampling ↔ countOf millis o.log = 10000)

theorem Observed.Inv.waits {o : Observed} (inv : o.Inv) {now last millis : UInt64}
    {g' : SharedGen Unit} (at' : o.gen.pc () = .updating now last)
    (sampled : o.sampled = some millis) (stepped : o.gen.step (.update ()) = some g') :
    g'.returned = o.gen.returned ∧ g'.pc () = .sampling ↔ countOf millis o.log = 10000 := by
  simp only [SharedGen.step, at'] at stepped
  rcases inv.attempt at' sampled with ⟨room, tick, next, -⟩ | ⟨full, next⟩
  · rw [next] at stepped
    cases stepped
    refine ⟨fun same => absurd same.1 (List.cons_ne_self _ _), fun full => ?_⟩
    omega
  · rw [next] at stepped
    cases stepped
    refine ⟨fun _ => full, fun _ => ⟨rfl, ?_⟩⟩
    dsimp only
    rw [update_unit]

theorem Observed.Inv.reads {o : Observed} (inv : o.Inv) : o.Reads where
  returned := inv.returned
  tick newer ms tick older is := by
    have numbered := inv.numbered
    rw [is] at numbered
    obtain ⟨fits, within, number⟩ := numbered.at
    exact ⟨number, reads_iff fits within number _⟩
  atMost := inv.numbered.countOf_le
  waits _ _ _ _ at' sampled stepped := inv.waits at' sampled stepped

/-- A UUID made from a time reads as that time; one made by the generator reads as the
millisecond sampled for it, unless its tick is one of those that do not fit 60 bits. -/
theorem time_uuids_read_sampled :
    (∀ (gen : CassUuidGen) (ts : UInt64), firstTick ts < 2 ^ 60 →
      cassUuidTimestamp (gen.genFromTime ts) = ts) ∧
    ∀ (clockSeqAndNode : UInt64) (events : List (Event Unit)) (g : SharedGen Unit),
      Guarded Steady Observed.step (Observed.fresh clockSeqAndNode) events →
      run SharedGen.step (SharedGen.fresh Unit clockSeqAndNode) events = some g →
      ∃ o, run Observed.step (Observed.fresh clockSeqAndNode) events = some o ∧ o.gen = g ∧
        o.Reads := by
  constructor
  · intro gen ts fits
    have first : (fromUnixTimestamp ts).toNat = firstTick ts + 0 := by
      rw [fromUnixTimestamp_eq fits, Nat.add_zero]
    refine (reads_iff fits (by decide) first _).mpr ?_
    rw [Nat.add_zero]
    exact fits
  · intro clockSeqAndNode events g steady ran
    obtain ⟨o, observed, is⟩ := observed_run (o := Observed.fresh clockSeqAndNode) ran
    exact ⟨o, observed, is, (run_numbered steady observed).reads⟩

/- A clock that stands still. -/

/-- One call that returns at once. -/
def oneCall (ms : UInt64) : List (Event Unit) := [.call (), .sample () ms, .load (), .update ()]

theorem guarded_still {ms : UInt64} (fits : firstTick ms < 2 ^ 60) {o : Observed}
    {events : List (Event Unit)} (samples : ∀ millis, .sample () millis ∈ events → millis = ms)
    (still : ∀ before ∈ o.sampled, before = ms) : Guarded Steady Observed.step o events := by
  induction events generalizing o with
  | nil => trivial
  | cons e events ih =>
    have later (millis : UInt64) (member : .sample () millis ∈ events) : millis = ms :=
      samples millis (List.mem_cons_of_mem _ member)
    constructor
    · cases e with
      | sample t millis =>
        cases samples millis List.mem_cons_self
        exact ⟨fits, fun before is => UInt64.le_of_eq (still before is)⟩
      | call | load | update => trivial
    · intro next stepped
      apply ih later
      cases Observed.step_next stepped with
      | sample millis =>
        rintro _ ⟨⟩
        exact samples _ List.mem_cons_self
      | call | load | returns | retries => exact still

theorem run_to_attempt (ms : UInt64) {o : Observed} (idle : o.gen.pc () = .idle) :
    run Observed.step o [.call (), .sample () ms, .load ()] = some
      { o with
        gen := { o.gen with
          pc := fun _ => .updating (fromUnixTimestamp ms) o.gen.lastTimestamp }
        sampled := some ms } := by
  simp only [run, Observed.step, SharedGen.step, idle, update_unit, Option.map_some,
    Option.bind_some, if_true]

theorem step_returns {o : Observed} {now last tick : UInt64} (at' : o.gen.pc () = .updating now last)
    (applied : (chooseUpdate last now).apply o.gen.lastTimestamp = (tick, some tick)) :
    o.step (.update ()) = some
      { o with
        gen := { o.gen with
          lastTimestamp := tick
          pc := fun _ => .idle
          returned := ((), tick) :: o.gen.returned }
        log := (o.sampled.getD 0, tick) :: o.log } := by
  have grows : (((), tick) :: o.gen.returned).length ≠ o.gen.returned.length := Nat.succ_ne_self _
  simp only [Observed.step, SharedGen.step, at', applied, update_unit, Option.map_some,
    if_neg grows]

theorem time_uuids_read_sampled_twice :
    cassUuidTimestamp ((⟨5, 0⟩ : CassUuidGen).genFromTime 1600000000000) = 1600000000000 ∧
    ∃ o, run Observed.step (Observed.fresh 5) sameMillisecond = some o ∧
      o.log = [(1600000000000, 138192928000000001), (1600000000000, 138192928000000000)] ∧
      o.Reads := by
  have steady : Guarded Steady Observed.step (Observed.fresh 5) sameMillisecond := by
    have fits : firstTick 1600000000000 < 2 ^ 60 := by decide
    refine guarded_still fits ?_ (by rintro _ ⟨⟩)
    intro millis member
    simpa [sameMillisecond] using member
  have seen : (run Observed.step (Observed.fresh 5) sameMillisecond).map Observed.log =
      some [(1600000000000, 138192928000000001), (1600000000000, 138192928000000000)] := by decide
  obtain ⟨o, observed, -, reads⟩ :=
    time_uuids_read_sampled.2 5 sameMillisecond _ steady rfl
  rw [observed] at seen
  exact ⟨time_uuids_read_sampled.1 ⟨5, 0⟩ _ (by decide), o, observed, Option.some.inj seen, reads⟩

/-- A call under a clock that stands still returns while its millisecond has a tick left. -/
theorem oneCall_returns {ms : UInt64} {o : Observed} (inv : o.Inv) (idle : o.gen.pc () = .idle)
    (fits : firstTick ms < 2 ^ 60) (still : ∀ before ∈ o.sampled, before = ms)
    (room : countOf ms o.log < 10000) :
    ∃ o' tick, run Observed.step o (oneCall ms) = some o' ∧ o'.Inv ∧ o'.gen.pc () = .idle ∧
      o'.sampled = some ms ∧ o'.log = (ms, tick) :: o.log := by
  have prepared := run_to_attempt ms idle
  have steady : Guarded Steady Observed.step o [.call (), .sample () ms, .load ()] := by
    refine guarded_still fits ?_ still
    intro millis member
    simpa using member
  have ready := run_invariant_guarded (fun _ _ _ inv steady stepped =>
    Observed.Inv.next inv steady (Observed.step_next stepped)) inv steady prepared
  rcases ready.attempt rfl rfl with ⟨-, tick, applied, -⟩ | ⟨full, -⟩
  · have returned := step_returns rfl applied
    have after := ready.next (e := .update ()) trivial (Observed.step_next returned)
    refine ⟨_, tick, ?_, after, rfl, rfl, rfl⟩
    change run Observed.step o ([.call (), .sample () ms, .load ()] ++ [.update ()]) = _
    rw [run_append, prepared, Option.bind_some, run, returned]
    rfl
  · exact absurd full room.ne

theorem calls_produce {ms : UInt64} (fits : firstTick ms < 2 ^ 60) (n : Nat) {o : Observed}
    (inv : o.Inv) (idle : o.gen.pc () = .idle) (still : ∀ before ∈ o.sampled, before = ms)
    (room : countOf ms o.log + n < 10000) :
    ∃ o' tick older, run Observed.step o (List.replicate (n + 1) (oneCall ms)).flatten = some o' ∧
      o'.log = (ms, tick) :: older ∧ countOf ms older = countOf ms o.log + n := by
  induction n generalizing o with
  | zero =>
    obtain ⟨o', tick, ran, -, -, -, log⟩ := oneCall_returns inv idle fits still room
    refine ⟨o', tick, o.log, ?_, log, rfl⟩
    rw [List.replicate_one, List.flatten_singleton]
    exact ran
  | succ n ih =>
    have free : countOf ms o.log < 10000 := by omega
    obtain ⟨next, tick, ran, inv', idle', sampled, log⟩ := oneCall_returns inv idle fits still free
    have counted : countOf ms next.log = countOf ms o.log + 1 := by
      rw [log, countOf_cons, if_pos rfl]
    have still' : ∀ before ∈ next.sampled, before = ms := by
      rw [sampled]
      rintro _ ⟨⟩
      rfl
    obtain ⟨last, tick, older, rest, is, count⟩ := ih inv' idle' still' (by omega)
    refine ⟨last, tick, older, ?_, is, by omega⟩
    rw [List.replicate_succ, List.flatten_cons, run_append, ran, Option.bind_some]
    exact rest

/-- The last millisecond whose first tick fits 60 bits; only 6976 of its ticks do. -/
def lastMillisecond : UInt64 := 103072857660684

/-- Its 6977th UUID reads as a time that was never sampled. -/
theorem uuid_past_sixty_bits :
    ∃ (events : List (Event Unit)) (o : Observed) (tick : UInt64) (older : List (UInt64 × UInt64)),
      Guarded Steady Observed.step (Observed.fresh 5) events ∧
      (∀ millis, .sample () millis ∈ events → millis = lastMillisecond) ∧
      run Observed.step (Observed.fresh 5) events = some o ∧
      o.log = (lastMillisecond, tick) :: older ∧
      cassUuidTimestamp (o.gen.genTime tick) ≠ lastMillisecond := by
  have fits : firstTick lastMillisecond < 2 ^ 60 := by decide
  have samples : ∀ millis, .sample () millis ∈
      (List.replicate 6977 (oneCall lastMillisecond)).flatten → millis = lastMillisecond := by
    intro millis member
    obtain ⟨call, inCalls, inCall⟩ := List.mem_flatten.mp member
    rw [List.eq_of_mem_replicate inCalls] at inCall
    simpa [oneCall] using inCall
  have steady := guarded_still (o := Observed.fresh 5) fits samples (by rintro _ ⟨⟩)
  obtain ⟨o, tick, older, ran, log, count⟩ :=
    calls_produce fits 6976 (Observed.Inv.fresh 5) rfl (by rintro _ ⟨⟩) (by decide)
  refine ⟨_, o, tick, older, steady, samples, ran, log, ?_⟩
  obtain ⟨-, reads⟩ := (run_numbered steady ran).reads.tick [] _ tick older log
  rw [Ne, reads, count]
  decide

end CppRsDriver.Uuid
