import Mathlib.Algebra.Group.Int.Defs
import Mathlib.Algebra.Group.Nat.Defs

/-! Seconds since the epoch as a CQL date and a CQL time, and back. The functions are
ported from C++, with the conversions that its promotion rules imply. -/
namespace CppRsDriver.Types

/-- What arithmetic does with a result that its type cannot hold: a build with overflow
checks panics, a release build wraps around. -/
inductive OverflowMode where
  | panics
  | wraps
  deriving DecidableEq, Repr

/-- The result of an `i64` operation whose exact result is given. -/
def OverflowMode.i64 (mode : OverflowMode) (exact : Int) : Option Int64 :=
  if mode = .panics ∧ ¬ (-2 ^ 63 ≤ exact ∧ exact < 2 ^ 63) then none else some (Int64.ofInt exact)

def OverflowMode.u64 (mode : OverflowMode) (exact : Int) : Option UInt64 :=
  if mode = .panics ∧ ¬ (0 ≤ exact ∧ exact < 2 ^ 64) then none else some (UInt64.ofInt exact)

def numSecondsPerDay : Int64 := 24 * 60 * 60

/-- 2^31, the day of the epoch. -/
def cassDateEpoch : UInt64 := 2147483648

def cassTimeNanosecondsPerSecond : Int64 := 1000000000

section Conversions
variable (mode : OverflowMode)

def cassDateFromEpoch (epochSecs : Int64) : Option UInt32 := do
  let days ← mode.i64 (epochSecs.toInt.tdiv numSecondsPerDay.toInt)
  let date ← mode.i64 (days.toInt + cassDateEpoch.toInt64.toInt)
  return date.toUInt64.toUInt32

def cassTimeFromEpoch (epochSecs : Int64) : Option Int64 := do
  let seconds ← mode.i64 (epochSecs.toInt.tmod numSecondsPerDay.toInt)
  mode.i64 (cassTimeNanosecondsPerSecond.toInt * seconds.toInt)

def cassDateTimeToEpoch (date : UInt32) (time : Int64) : Option Int64 := do
  let days ← mode.u64 (date.toUInt64.toNat - cassDateEpoch.toNat)
  let daySecs ← mode.u64 (days.toNat * numSecondsPerDay.toUInt64.toNat)
  let timeSecs ← mode.i64 (time.toInt.tdiv cassTimeNanosecondsPerSecond.toInt)
  let epochSecs ← mode.u64 (daySecs.toNat + timeSecs.toUInt64.toNat)
  return epochSecs.toInt64

end Conversions

section Words
variable {mode : OverflowMode}

theorem i64_eq_some (mode : OverflowMode) {x : Int} (fits : -2 ^ 63 ≤ x ∧ x < 2 ^ 63) :
    ∃ word, mode.i64 x = some word ∧ word.toInt = x := by
  refine ⟨Int64.ofInt x, ?_, Int64.toInt_ofInt_of_le fits.1 fits.2⟩
  rw [OverflowMode.i64, if_neg (fun overflow => overflow.2 fits)]

theorem u64_eq_some (mode : OverflowMode) {x : Int} (fits : 0 ≤ x ∧ x < 2 ^ 64) :
    ∃ word, mode.u64 x = some word ∧ (word.toNat : Int) = x := by
  refine ⟨UInt64.ofInt x, ?_, ?_⟩
  · rw [OverflowMode.u64, if_neg (fun overflow => overflow.2 fits)]
  · rw [UInt64.ofInt, UInt64.toNat_ofNat']
    omega

/- Without overflow checks a `u64` operation returns its result modulo 2^64. -/
theorem u64_wraps (x : Int) : ∃ word, OverflowMode.wraps.u64 x = some word ∧
    (word.toNat : Int) = x % (2 ^ 64 : Nat) := by
  refine ⟨UInt64.ofInt x, rfl, ?_⟩
  rw [UInt64.ofInt, UInt64.toNat_ofNat']
  omega

theorem toNat_toUInt64 (x : Int64) : (x.toUInt64.toNat : Int) = x.toInt % (2 ^ 64 : Nat) := by
  have bits : (x.toUInt64.toNat : Int) = (x.toBitVec.toNat : Int) := rfl
  have value : x.toInt = x.toBitVec.toInt := rfl
  have small := x.toBitVec.isLt
  have back : ((x.toBitVec.toNat : Int).bmod (2 ^ 64)) % ((2 ^ 64 : Nat) : Int) = _ := Int.bmod_emod
  rw [bits, value, BitVec.toInt_eq_toNat_bmod]
  omega

theorem toInt_toInt64 (x : UInt64) : x.toInt64.toInt = (x.toNat : Int).bmod (2 ^ 64) := by
  have bits : x.toInt64.toInt = x.toBitVec.toInt := rfl
  rw [bits, BitVec.toInt_eq_toNat_bmod]
  rfl

end Words

section Conversions
variable {mode : OverflowMode}

theorem numSecondsPerDay_toInt : numSecondsPerDay.toInt = 86400 := by decide

theorem cassTimeNanosecondsPerSecond_toInt : cassTimeNanosecondsPerSecond.toInt = 1000000000 := by
  decide

theorem tdiv_eq_ite (x n : Int) : x.tdiv n = if 0 ≤ x then x / n else -(-x / n) := by
  split
  · rename_i nonneg
    exact Int.tdiv_eq_ediv_of_nonneg nonneg
  · rename_i negative
    rw [← Int.tdiv_eq_ediv_of_nonneg (by omega : 0 ≤ -x), Int.neg_tdiv, Int.neg_neg]

theorem tmod_eq_ite (x n : Int) : x.tmod n = if 0 ≤ x then x % n else -(-x % n) := by
  split
  · rename_i nonneg
    exact Int.tmod_eq_emod_of_nonneg nonneg
  · rename_i negative
    rw [← Int.tmod_eq_emod_of_nonneg (by omega : 0 ≤ -x), Int.neg_tmod, Int.neg_neg]

/-- The date is 2^31 and the number of whole days, counted towards zero. -/
theorem cassDateFromEpoch_eq (mode : OverflowMode) (epochSecs : Int64) :
    ∃ date, cassDateFromEpoch mode epochSecs = some date ∧
      (date.toNat : Int) = (epochSecs.toInt.tdiv 86400 + 2 ^ 31) % 2 ^ 32 := by
  have lower := epochSecs.le_toInt
  have upper := epochSecs.toInt_lt
  have truncated := tdiv_eq_ite epochSecs.toInt 86400
  obtain ⟨days, divided, daysEq⟩ := i64_eq_some mode (x := epochSecs.toInt.tdiv 86400)
    (by split at truncated <;> omega)
  obtain ⟨date, added, dateEq⟩ := i64_eq_some mode (x := days.toInt + 2 ^ 31)
    (by split at truncated <;> omega)
  refine ⟨date.toUInt64.toUInt32, ?_, ?_⟩
  · have epoch : cassDateEpoch.toInt64.toInt = 2 ^ 31 := by decide
    simp only [cassDateFromEpoch, numSecondsPerDay_toInt, divided, epoch, added, Option.bind_eq_bind,
      Option.bind_some]
    rfl
  · have bits := toNat_toUInt64 date
    rw [UInt64.toNat_toUInt32]
    omega

theorem cassTimeFromEpoch_eq (mode : OverflowMode) (epochSecs : Int64) :
    ∃ time, cassTimeFromEpoch mode epochSecs = some time ∧
      time.toInt = 1000000000 * epochSecs.toInt.tmod 86400 := by
  have remainder := tmod_eq_ite epochSecs.toInt 86400
  obtain ⟨seconds, divided, secondsEq⟩ := i64_eq_some mode (x := epochSecs.toInt.tmod 86400)
    (by split at remainder <;> omega)
  obtain ⟨time, multiplied, timeEq⟩ := i64_eq_some mode (x := 1000000000 * seconds.toInt)
    (by split at remainder <;> omega)
  refine ⟨time, ?_, by rw [timeEq, secondsEq]⟩
  simp only [cassTimeFromEpoch, numSecondsPerDay_toInt, cassTimeNanosecondsPerSecond_toInt, divided,
    multiplied, Option.bind_eq_bind, Option.bind_some]

/- The subtraction of the epoch's day is the first to overflow. -/
theorem cassDateTimeToEpoch_before_epoch {date : UInt32} (before : date.toNat < 2 ^ 31) (time : Int64) :
    cassDateTimeToEpoch .panics date time = none := by
  have epoch : cassDateEpoch.toNat = 2 ^ 31 := by decide
  have underflow : OverflowMode.panics.u64 (date.toUInt64.toNat - cassDateEpoch.toNat) = none := by
    rw [OverflowMode.u64, if_pos]
    rw [UInt32.toNat_toUInt64, epoch]
    exact ⟨rfl, by omega⟩
  simp only [cassDateTimeToEpoch, underflow, Option.bind_eq_bind, Option.bind_none]

/- The four operations that may overflow, in the order they are done. -/
theorem cassDateTimeToEpoch_of_steps {date : UInt32} {time timeSecs : Int64} {days daySecs secs : UInt64}
    (subtracted : mode.u64 (date.toNat - (2 ^ 31 : Nat)) = some days)
    (multiplied : mode.u64 (days.toNat * (86400 : Nat)) = some daySecs)
    (divided : mode.i64 (time.toInt.tdiv 1000000000) = some timeSecs)
    (added : mode.u64 (daySecs.toNat + timeSecs.toUInt64.toNat) = some secs) :
    cassDateTimeToEpoch mode date time = some secs.toInt64 := by
  have epoch : cassDateEpoch.toNat = 2 ^ 31 := by decide
  have day : numSecondsPerDay.toUInt64.toNat = 86400 := by decide
  simp only [cassDateTimeToEpoch, UInt32.toNat_toUInt64, epoch, day,
    cassTimeNanosecondsPerSecond_toInt, subtracted, multiplied, divided, added,
    Option.bind_eq_bind, Option.bind_some]
  rfl

theorem cassDateTimeToEpoch_eq (mode : OverflowMode) {date : UInt32} {time : Int64}
    (date' : 2 ^ 31 ≤ date.toNat) (time' : 0 ≤ time.toInt) :
    ∃ epochSecs, cassDateTimeToEpoch mode date time = some epochSecs ∧
      epochSecs.toInt = (date.toNat - 2 ^ 31) * 86400 + time.toInt / 1000000000 := by
  have dateSmall := date.toNat_lt
  have timeSmall := time.toInt_lt
  have truncated := Int.tdiv_eq_ediv_of_nonneg (b := 1000000000) time'
  obtain ⟨days, subtracted, daysEq⟩ := u64_eq_some mode (x := date.toNat - (2 ^ 31 : Nat)) (by omega)
  obtain ⟨daySecs, multiplied, daySecsEq⟩ := u64_eq_some mode (x := days.toNat * (86400 : Nat))
    (by omega)
  obtain ⟨timeSecs, divided, timeSecsEq⟩ := i64_eq_some mode (x := time.toInt.tdiv 1000000000)
    (by omega)
  have bits := toNat_toUInt64 timeSecs
  obtain ⟨secs, added, secsEq⟩ := u64_eq_some mode
    (x := daySecs.toNat + timeSecs.toUInt64.toNat) (by omega)
  refine ⟨secs.toInt64, cassDateTimeToEpoch_of_steps subtracted multiplied divided added, ?_⟩
  rw [toInt_toInt64, Int.bmod_eq_of_le (by omega) (by omega)]
  omega

/-- Without overflow checks the second is computed modulo 2^64. -/
theorem cassDateTimeToEpoch_modulo (date : UInt32) (time : Int64) :
    ∃ epochSecs, cassDateTimeToEpoch .wraps date time = some epochSecs ∧
      epochSecs.toInt =
        ((date.toNat - (2 ^ 31 : Nat)) * 86400 + time.toInt.tdiv 1000000000).bmod (2 ^ 64) := by
  have lower := time.le_toInt
  have upper := time.toInt_lt
  have truncated := tdiv_eq_ite time.toInt 1000000000
  obtain ⟨days, subtracted, daysEq⟩ := u64_wraps (date.toNat - (2 ^ 31 : Nat))
  obtain ⟨daySecs, multiplied, daySecsEq⟩ := u64_wraps (days.toNat * (86400 : Nat))
  obtain ⟨timeSecs, divided, timeSecsEq⟩ := i64_eq_some .wraps (x := time.toInt.tdiv 1000000000)
    (by split at truncated <;> omega)
  have bits := toNat_toUInt64 timeSecs
  obtain ⟨secs, added, secsEq⟩ := u64_wraps (daySecs.toNat + timeSecs.toUInt64.toNat)
  refine ⟨secs.toInt64, cassDateTimeToEpoch_of_steps subtracted multiplied divided added, ?_⟩
  rw [toInt_toInt64, secsEq, bits, timeSecsEq, daySecsEq, daysEq]
  -- the inner reductions go away one by one under the outer one
  rw [Int.emod_bmod, Int.add_emod_bmod, Int.emod_add_bmod, ← Int.bmod_add_bmod, Int.emod_mul_bmod,
    Int.bmod_add_bmod]
  rfl

/-- A build without overflow checks gets back from the day and the remainder counted
towards zero to the second they were made from. -/
theorem cassDateTimeToEpoch_wraps (epochSecs : Int64)
    (fits : -2 ^ 31 ≤ epochSecs.toInt.tdiv 86400 ∧ epochSecs.toInt.tdiv 86400 < 2 ^ 31) :
    ∃ date time, cassDateFromEpoch .wraps epochSecs = some date ∧
      cassTimeFromEpoch .wraps epochSecs = some time ∧
      cassDateTimeToEpoch .wraps date time = some epochSecs := by
  obtain ⟨date, dated, dateEq⟩ := cassDateFromEpoch_eq .wraps epochSecs
  obtain ⟨time, timed, timeEq⟩ := cassTimeFromEpoch_eq .wraps epochSecs
  obtain ⟨secs, back, secsEq⟩ := cassDateTimeToEpoch_modulo date time
  have lower := epochSecs.le_toInt
  have upper := epochSecs.toInt_lt
  have days : (date.toNat : Int) - (2 ^ 31 : Nat) = epochSecs.toInt.tdiv 86400 := by omega
  have whole : time.toInt.tdiv 1000000000 = epochSecs.toInt.tmod 86400 := by
    rw [timeEq, Int.mul_tdiv_cancel_left _ (by decide)]
  have same : secs = epochSecs := by
    rw [← Int64.toInt_inj, secsEq, days, whole, Int.mul_comm, Int.mul_tdiv_add_tmod]
    exact Int.bmod_eq_of_le (by omega) (by omega)
  subst same
  exact ⟨date, time, dated, timed, back⟩

end Conversions

/-- Under checked arithmetic the second is converted to its day and a time of day, and
back: nothing overflows. -/
def Converts (epochSecs : Int64) : Prop :=
  ∃ date time, cassDateFromEpoch .panics epochSecs = some date ∧
    (date.toNat : Int) = epochSecs.toInt / 86400 + 2 ^ 31 ∧
    cassTimeFromEpoch .panics epochSecs = some time ∧
    0 ≤ time.toInt ∧ time.toInt ≤ 86399999999999 ∧
    cassDateTimeToEpoch .panics date time = some epochSecs

/-- A second whose day a date can hold is converted back and forth exactly if it is not
before the epoch. -/
theorem converts_iff_not_before_epoch (epochSecs : Int64)
    (fits : -2 ^ 31 ≤ epochSecs.toInt / 86400 ∧ epochSecs.toInt / 86400 < 2 ^ 31) :
    Converts epochSecs ↔ 0 ≤ epochSecs.toInt := by
  constructor
  · rintro ⟨date, time, -, day, -, -, -, back⟩
    apply Int.not_lt.mp
    intro before
    have early : date.toNat < 2 ^ 31 := by omega
    rw [cassDateTimeToEpoch_before_epoch early time] at back
    cases back
  · intro nonneg
    obtain ⟨date, dated, dateEq⟩ := cassDateFromEpoch_eq .panics epochSecs
    obtain ⟨time, timed, timeEq⟩ := cassTimeFromEpoch_eq .panics epochSecs
    rw [Int.tdiv_eq_ediv_of_nonneg nonneg] at dateEq
    rw [Int.tmod_eq_emod_of_nonneg nonneg] at timeEq
    have late : 2 ^ 31 ≤ date.toNat := by omega
    obtain ⟨secs, back, secsEq⟩ := cassDateTimeToEpoch_eq .panics late
      (by omega : 0 ≤ time.toInt)
    have same : secs = epochSecs := by
      rw [← Int64.toInt_inj, secsEq]
      omega
    subst same
    exact ⟨date, time, dated, by omega, timed, by omega, by omega, back⟩

/- 1970-01-02, half past noon. -/
theorem converts_on_second_day : (86400 + 45000 : Int64).toInt / 86400 = 1 ∧
    Converts (86400 + 45000) :=
  ⟨by decide, (converts_iff_not_before_epoch (86400 + 45000) (by decide)).mpr (by decide)⟩

/-- The last second before the epoch gets the day of the epoch and a time before midnight;
from its own day and time there is no way back. -/
theorem last_second_before_epoch :
    cassDateFromEpoch .panics (-1) = some 2147483648 ∧
      (-1 : Int64).toInt / 86400 + 2 ^ 31 = 2147483647 ∧
      cassTimeFromEpoch .panics (-1) = some (-1000000000) ∧
      cassDateTimeToEpoch .panics 2147483647 86399000000000 = none := by
  decide

end CppRsDriver.Types
