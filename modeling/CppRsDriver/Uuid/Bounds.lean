import Mathlib.Data.Int.ModEq
import Mathlib.Data.List.Forall2
import CppRsDriver.Uuid.Generator

/-! The least and the greatest time UUID of a millisecond, against the UUIDs a generator
makes in that millisecond. A millisecond has 10000 ticks; both are made from the first. -/
namespace CppRsDriver.Uuid

open CppRsDriver.Lib

def minClockSeqAndNode : UInt64 := 0x8080808080808080

def maxClockSeqAndNode : UInt64 := 0x7f7f7f7f7f7f7f7f

def timestampBits (uuid : CassUuid) : UInt64 := uuid.timeAndVersion &&& (0x0FFFFFFFFFFFFFFF : UInt64)

/-- `cass_uuid_timestamp`. -/
def cassUuidTimestamp (uuid : CassUuid) : UInt64 :=
  toMilliseconds (timestampBits uuid - timeOffsetBetweenUtcAndEpoch)

def minFromTime (timestamp : UInt64) : CassUuid :=
  ⟨setVersion (fromUnixTimestamp timestamp) 1, minClockSeqAndNode⟩

def maxFromTime (timestamp : UInt64) : CassUuid :=
  ⟨setVersion (fromUnixTimestamp timestamp) 1, maxClockSeqAndNode⟩

def CassUuidGen.genFromTime (gen : CassUuidGen) (timestamp : UInt64) : CassUuid :=
  ⟨setVersion (fromUnixTimestamp timestamp) 1, gen.clockSeqAndNode⟩

/-- A byte as a signed number. -/
def signedByte (byte : Nat) : Int := if byte < 128 then byte else byte - 256

/-- The bytes of a word, most significant first. -/
def signedBytes (word : UInt64) : List Int :=
  [7, 6, 5, 4, 3, 2, 1, 0].map (fun i => signedByte (word.toNat / 256 ^ i % 256))

/-- The order in which the first difference decides. -/
def lexLe : List Int → List Int → Bool
  | [], _ => true
  | _ :: _, [] => false
  | x :: xs, y :: ys => decide (x < y) || (x == y && lexLe xs ys)

/-- The order of the `timeuuid` type: the timestamps, then the low halves as signed bytes. -/
def TimeuuidLe (a b : CassUuid) : Prop :=
  timestampBits a < timestampBits b ∨
    timestampBits a = timestampBits b ∧
      lexLe (signedBytes a.clockSeqAndNode) (signedBytes b.clockSeqAndNode) = true

instance (a b : CassUuid) : Decidable (TimeuuidLe a b) :=
  inferInstanceAs (Decidable (_ ∨ _ ∧ _))

/-- Between the least and the greatest UUID of a millisecond. -/
def InMillisecond (ms : UInt64) (uuid : CassUuid) : Prop :=
  TimeuuidLe (minFromTime ms) uuid ∧ TimeuuidLe uuid (maxFromTime ms)

instance (ms : UInt64) (uuid : CassUuid) : Decidable (InMillisecond ms uuid) :=
  inferInstanceAs (Decidable (_ ∧ _))

theorem signedByte_range (byte : Nat) : -128 ≤ signedByte (byte % 256) ∧ signedByte (byte % 256) ≤ 127 := by
  unfold signedByte
  split <;> omega

theorem lexLe_of_pointwise {xs ys : List Int} (pointwise : List.Forall₂ (· ≤ ·) xs ys) :
    lexLe xs ys = true := by
  induction pointwise with
  | nil => rfl
  | cons head _ ih =>
    simp only [lexLe, ih, Bool.and_true, Bool.or_eq_true, decide_eq_true_eq, beq_iff_eq]
    omega

theorem signedBytes_le {a b : UInt64}
    (bytes : ∀ i ∈ [7, 6, 5, 4, 3, 2, 1, 0],
      signedByte (a.toNat / 256 ^ i % 256) ≤ signedByte (b.toNat / 256 ^ i % 256)) :
    lexLe (signedBytes a) (signedBytes b) = true := by
  apply lexLe_of_pointwise
  rw [signedBytes, signedBytes, List.forall₂_map_left_iff, List.forall₂_map_right_iff,
    List.forall₂_same]
  exact bytes

theorem min_le_signedBytes (word : UInt64) :
    lexLe (signedBytes minClockSeqAndNode) (signedBytes word) = true := by
  have least : ∀ i ∈ [7, 6, 5, 4, 3, 2, 1, 0],
      signedByte (minClockSeqAndNode.toNat / 256 ^ i % 256) = -128 := by decide
  exact signedBytes_le (fun i member => (least i member).le.trans (signedByte_range _).1)

theorem signedBytes_le_max (word : UInt64) :
    lexLe (signedBytes word) (signedBytes maxClockSeqAndNode) = true := by
  have greatest : ∀ i ∈ [7, 6, 5, 4, 3, 2, 1, 0],
      signedByte (maxClockSeqAndNode.toNat / 256 ^ i % 256) = 127 := by decide
  exact signedBytes_le (fun i member => (signedByte_range _).2.trans (greatest i member).ge)

theorem timestampBits_setVersion (timestamp clockSeqAndNode : UInt64) :
    (timestampBits ⟨setVersion timestamp 1, clockSeqAndNode⟩).toNat = timestamp.toNat % 2 ^ 60 := by
  have low := Nat.and_two_pow_sub_one_eq_mod (setVersion timestamp 1).toNat 60
  simp only [timestampBits, UInt64.toNat_and]
  change (setVersion timestamp 1).toNat &&& (2 ^ 60 - 1) = _
  rw [low, setVersion_toNat]
  omega

theorem fromUnixTimestamp_toNat (timestamp : UInt64) :
    (fromUnixTimestamp timestamp).toNat =
      (timestamp.toNat * 10000 + timeOffsetBetweenUtcAndEpoch.toNat) % 2 ^ 64 := by
  have factor : (10000 : UInt64).toNat = 10000 := rfl
  rw [fromUnixTimestamp, UInt64.toNat_add, UInt64.toNat_mul, factor, Nat.mod_add_mod]

theorem timeOffset_toNat : timeOffsetBetweenUtcAndEpoch.toNat = 122192928000000000 := by decide

/-- The first tick of a millisecond. -/
def firstTick (ms : UInt64) : Nat := ms.toNat * 10000 + timeOffsetBetweenUtcAndEpoch.toNat

theorem cassUuidTimestamp_toNat (uuid : CassUuid) :
    (cassUuidTimestamp uuid).toNat =
      (2 ^ 64 - timeOffsetBetweenUtcAndEpoch.toNat + (timestampBits uuid).toNat) % 2 ^ 64 / 10000 := by
  have divisor : (10000 : UInt64).toNat = 10000 := rfl
  rw [cassUuidTimestamp, toMilliseconds, UInt64.toNat_div, UInt64.toNat_sub, divisor]

theorem firstTick_le {ms : UInt64} {uuid : CassUuid} (fits : firstTick ms < 2 ^ 60)
    (bits : (timestampBits uuid).toNat < 2 ^ 60) (reads : cassUuidTimestamp uuid = ms) :
    firstTick ms ≤ (timestampBits uuid).toNat := by
  have value := cassUuidTimestamp_toNat uuid
  rw [reads, timeOffset_toNat] at value
  simp only [firstTick, timeOffset_toNat] at fits ⊢
  omega

theorem timestampBits_firstTick {ms : UInt64} (fits : firstTick ms < 2 ^ 60) (clockSeqAndNode : UInt64) :
    (timestampBits ⟨setVersion (fromUnixTimestamp ms) 1, clockSeqAndNode⟩).toNat = firstTick ms := by
  rw [timestampBits_setVersion, fromUnixTimestamp_toNat]
  unfold firstTick at fits ⊢
  omega

theorem timeuuidLe_iff (a b : CassUuid) :
    TimeuuidLe a b ↔ (timestampBits a).toNat < (timestampBits b).toNat ∨
      (timestampBits a).toNat = (timestampBits b).toNat ∧
        lexLe (signedBytes a.clockSeqAndNode) (signedBytes b.clockSeqAndNode) = true := by
  rw [TimeuuidLe, UInt64.lt_iff_toNat_lt, UInt64.toNat_inj]

/-- Of the UUIDs of a millisecond, those of its first tick are between the two. -/
theorem inMillisecond_iff {ms : UInt64} {uuid : CassUuid} (fits : firstTick ms < 2 ^ 60)
    (bits : (timestampBits uuid).toNat < 2 ^ 60) (reads : cassUuidTimestamp uuid = ms) :
    InMillisecond ms uuid ↔ (timestampBits uuid).toNat = firstTick ms := by
  have after := firstTick_le fits bits reads
  have least : (timestampBits (minFromTime ms)).toNat = firstTick ms := timestampBits_firstTick fits _
  have greatest : (timestampBits (maxFromTime ms)).toNat = firstTick ms :=
    timestampBits_firstTick fits _
  rw [InMillisecond, timeuuidLe_iff, timeuuidLe_iff, least, greatest]
  constructor
  · rintro ⟨-, before | ⟨same, -⟩⟩
    · omega
    · exact same
  · intro same
    exact ⟨.inr ⟨same.symm, min_le_signedBytes _⟩, .inr ⟨same, signedBytes_le_max _⟩⟩

theorem ticks_modEq_iff (m n offset : Nat) :
    n * 10000 + offset ≡ m * 10000 + offset [MOD 2 ^ 60] ↔ n ≡ m [MOD 2 ^ 56] := by
  have odd : Nat.gcd (2 ^ 56) 625 = 1 := by decide
  have ticks (k : Nat) : k * 10000 + offset = k * 625 * 16 + offset := by omega
  rw [ticks m, ticks n]
  constructor
  · intro same
    have scaled : n * 625 * 16 ≡ m * 625 * 16 [MOD 2 ^ 56 * 16] :=
      Nat.ModEq.add_right_cancel' offset same
    exact (Nat.ModEq.mul_right_cancel' (by decide) scaled).cancel_right_of_coprime odd
  · intro same
    exact ((same.mul_right 625).mul_right' 16).add_right offset

/-- A time in milliseconds has the first tick of `ms` when it is `ms`, up to what 60 bits
of ticks do not show. -/
theorem fromUnixTimestamp_firstTick {ms : UInt64} (fits : firstTick ms < 2 ^ 60) (timestamp : UInt64) :
    (fromUnixTimestamp timestamp).toNat % 2 ^ 60 = firstTick ms ↔
      timestamp.toNat % 2 ^ 56 = ms.toNat := by
  have small : ms.toNat < 2 ^ 56 := by
    unfold firstTick at fits
    omega
  have divides : 2 ^ 60 ∣ 2 ^ 64 := by decide
  rw [fromUnixTimestamp_toNat, Nat.mod_mod_of_dvd _ divides]
  calc (timestamp.toNat * 10000 + timeOffsetBetweenUtcAndEpoch.toNat) % 2 ^ 60 = firstTick ms
      ↔ timestamp.toNat * 10000 + timeOffsetBetweenUtcAndEpoch.toNat ≡ firstTick ms [MOD 2 ^ 60] := by
        rw [Nat.ModEq, Nat.mod_eq_of_lt fits]
    _ ↔ timestamp.toNat ≡ ms.toNat [MOD 2 ^ 56] := ticks_modEq_iff _ _ _
    _ ↔ timestamp.toNat % 2 ^ 56 = ms.toNat := by rw [Nat.ModEq, Nat.mod_eq_of_lt small]

/-- The clock reading a thread holds. -/
def Pc.now : Pc → Option UInt64
  | .idle => none
  | .sampling => none
  | .loading now => some now
  | .updating now _ => some now

theorem apply_eq {last now word result timestamp : UInt64}
    (applied : (chooseUpdate last now).apply word = (result, some timestamp)) :
    timestamp = if last < now then now else word + 1 := by
  unfold chooseUpdate at applied
  by_cases later : last < now
  · rw [if_pos later] at applied ⊢
    simp only [Update.apply] at applied
    split at applied
    · cases applied
      rfl
    · cases applied
  · rw [if_neg later] at applied ⊢
    dsimp only at applied
    split at applied
    · cases applied
      rfl
    · split at applied
      · simp only [Update.apply] at applied
        split at applied
        · rename_i current
          cases applied
          rw [current]
        · cases applied
      · cases applied

section Threads
variable {T : Type} [DecidableEq T] {g g' : SharedGen T} {e : Event T}

/-- Every clock reading a thread holds is a time in milliseconds. -/
def SharedGen.Sampled (g : SharedGen T) : Prop :=
  ∀ t now, (g.pc t).now = some now → ∃ millis, now = fromUnixTimestamp millis

theorem sampled_update (sampled : g.Sampled) {t : T} {pc : Pc}
    (held : ∀ now, pc.now = some now → ∃ millis, now = fromUnixTimestamp millis) :
    ∀ u now, (Function.update g.pc t pc u).now = some now → ∃ millis, now = fromUnixTimestamp millis := by
  intro u now holds
  by_cases same : u = t
  · subst same
    rw [Function.update_self] at holds
    exact held now holds
  · rw [Function.update_of_ne same] at holds
    exact sampled u now holds

theorem step_sampled (sampled : g.Sampled) (stepped : g.step e = some g') : g'.Sampled := by
  cases e with
  | call t =>
    simp only [SharedGen.step] at stepped
    split at stepped
    · cases Option.some.inj stepped
      apply sampled_update sampled
      intro now holds
      cases holds
    · contradiction
  | sample t millis =>
    simp only [SharedGen.step] at stepped
    split at stepped
    · cases Option.some.inj stepped
      exact sampled_update sampled (fun now holds => ⟨millis, (Option.some.inj holds).symm⟩)
    · contradiction
  | load t =>
    simp only [SharedGen.step] at stepped
    split at stepped
    · rename_i now at_loading
      cases Option.some.inj stepped
      exact sampled_update sampled (fun _ holds => sampled t _ (at_loading ▸ holds))
    · contradiction
  | update t =>
    simp only [SharedGen.step] at stepped
    split at stepped
    · split at stepped
      · cases Option.some.inj stepped
        apply sampled_update sampled
        intro now holds
        cases holds
      · cases Option.some.inj stepped
        apply sampled_update sampled
        intro now holds
        cases holds
    · contradiction

theorem run_sampled {clockSeqAndNode : UInt64} {events : List (Event T)}
    (ran : run SharedGen.step (SharedGen.fresh T clockSeqAndNode) events = some g) : g.Sampled := by
  have start : (SharedGen.fresh T clockSeqAndNode).Sampled := by
    intro t now holds
    cases holds
  exact run_invariant (fun _ _ _ sampled stepped => step_sampled sampled stepped) start ran

theorem returned_step {t : T} {timestamp : UInt64} (stepped : g.step e = some g')
    (returns : g'.returned = (t, timestamp) :: g.returned) :
    ∃ now last, g.pc t = .updating now last ∧
      timestamp = if last < now then now else g.lastTimestamp + 1 := by
  have grows : g'.returned ≠ g.returned := by
    rw [returns]
    exact List.cons_ne_self _ _
  cases e with
  | call u | sample u _ | load u =>
    simp only [SharedGen.step] at stepped
    split at stepped
    · cases Option.some.inj stepped
      exact absurd rfl grows
    · contradiction
  | update u =>
    simp only [SharedGen.step] at stepped
    split at stepped
    · rename_i now last at_updating
      split at stepped
      · rename_i word new applied
        cases Option.some.inj stepped
        obtain ⟨rfl, rfl⟩ := Prod.mk.inj (List.cons.inj returns).1
        exact ⟨now, last, at_updating, apply_eq applied⟩
      · cases Option.some.inj stepped
        exact absurd rfl grows
    · contradiction

/-- A UUID that reads as `ms` is between the least and the greatest one of `ms` when it was
made from the first tick: from a time that is `ms`, from a clock reading that is `ms` and
later than the word, or from the word just before it. -/
theorem time_uuids_bounded_iff (ms : UInt64) (fits : firstTick ms < 2 ^ 60) :
    (∀ (gen : CassUuidGen) (timestamp : UInt64), cassUuidTimestamp (gen.genFromTime timestamp) = ms →
      (InMillisecond ms (gen.genFromTime timestamp) ↔ timestamp.toNat % 2 ^ 56 = ms.toNat)) ∧
    ∀ (clockSeqAndNode : UInt64) (events : List (Event T)) (g g' : SharedGen T) (e : Event T) (t : T)
      (timestamp : UInt64),
      run SharedGen.step (SharedGen.fresh T clockSeqAndNode) events = some g →
      g.step e = some g' → g'.returned = (t, timestamp) :: g.returned →
      ∃ millis last, g.pc t = .updating (fromUnixTimestamp millis) last ∧
        (cassUuidTimestamp (g'.genTime timestamp) = ms →
          (InMillisecond ms (g'.genTime timestamp) ↔
            if last < fromUnixTimestamp millis then millis.toNat % 2 ^ 56 = ms.toNat
            else (g.lastTimestamp.toNat + 1) % 2 ^ 60 = firstTick ms)) := by
  have bounded (tick clockSeqAndNode : UInt64)
      (reads : cassUuidTimestamp ⟨setVersion tick 1, clockSeqAndNode⟩ = ms) :
      InMillisecond ms ⟨setVersion tick 1, clockSeqAndNode⟩ ↔ tick.toNat % 2 ^ 60 = firstTick ms := by
    have bits := timestampBits_setVersion tick clockSeqAndNode
    rw [inMillisecond_iff fits (bits ▸ Nat.mod_lt _ (by decide)) reads, bits]
  refine ⟨fun gen timestamp reads => ?_, ?_⟩
  · exact (bounded _ _ reads).trans (fromUnixTimestamp_firstTick fits timestamp)
  · intro clockSeqAndNode events g g' e t timestamp ran stepped returns
    obtain ⟨now, last, at_updating, allocated⟩ := returned_step stepped returns
    obtain ⟨millis, rfl⟩ := run_sampled ran t now (by rw [at_updating]; rfl)
    refine ⟨millis, last, at_updating, fun reads => (bounded _ _ reads).trans ?_⟩
    rw [allocated]
    split
    · exact fromUnixTimestamp_firstTick fits millis
    · have next : (g.lastTimestamp + 1).toNat % 2 ^ 60 = (g.lastTimestamp.toNat + 1) % 2 ^ 60 := by
        rw [UInt64.toNat_add]
        exact Nat.mod_mod_of_dvd _ (by decide)
      rw [next]

end Threads

theorem time_uuids_bounded_iff_first :
    InMillisecond 1600000000000 ((⟨5, 0⟩ : CassUuidGen).genFromTime 1600000000000) :=
  ((time_uuids_bounded_iff (T := Unit) 1600000000000 (by decide)).1 ⟨5, 0⟩ 1600000000000
    (by decide)).mpr (by decide)

/- Two calls in one millisecond. -/
def sameMillisecond : List (Event Unit) :=
  [.call (), .sample () 1600000000000, .load (), .update (),
   .call (), .sample () 1600000000000, .load (), .update ()]

/-- The second UUID has the next tick and is above the greatest one of its millisecond. -/
theorem time_uuid_above_max :
    (run SharedGen.step (SharedGen.fresh Unit 5) sameMillisecond).map (fun g =>
      g.returned.map (fun entry => (cassUuidTimestamp (g.genTime entry.2),
        decide (TimeuuidLe (g.genTime entry.2) (maxFromTime 1600000000000))))) =
      some [(1600000000000, false), (1600000000000, true)] := by
  decide

end CppRsDriver.Uuid
