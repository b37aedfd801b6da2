import CppRsDriver.Lib.Bytes
import Mathlib.Tactic.IntervalCases

/-! Unsigned variable-length integers: the leading ones of the first byte count the
bytes that follow it. -/
namespace CppRsDriver.Wire

open CppRsDriver.Lib

def leadingZeros (v : UInt64) : Nat := if v = 0 then 64 else 63 - v.toNat.log2

def numberOfBytes (v : UInt64) : Nat := (639 - 9 * leadingZeros v) >>> 6

def lengthBits (extraBytes : Nat) : UInt8 := ~~~((0xff : UInt8) >>> UInt8.ofNat extraBytes)

def unsignedVintEncode (v : UInt64) : List UInt8 :=
  if numberOfBytes v ≤ 1 then [v.toUInt8]
  else if numberOfBytes v ≠ 9 then
    let extraBytes := numberOfBytes v - 1
    let marked := v ||| ((lengthBits extraBytes).toUInt64 <<< UInt64.ofNat (8 * extraBytes))
    beBytes (numberOfBytes v) marked.toNat
  else 0xff :: beBytes 8 v.toNat

/- The leading zeros of the complement. -/
def leadingOnes (b : UInt8) : Nat := if b = 0xff then 8 else 7 - (255 - b.toNat).log2

def readUnsignedVint : Reader Nat :=
  Reader.byte.andThen (fun b =>
    let extraBytes := leadingOnes b
    (readNat extraBytes).filterMap (fun low =>
      some (b.toNat % 2 ^ (8 - extraBytes) * 256 ^ extraBytes + low)))

theorem lt_two_pow_leadingZeros (v : UInt64) :
    leadingZeros v ≤ 64 ∧ v.toNat < 2 ^ (64 - leadingZeros v) := by
  unfold leadingZeros
  split
  · rename_i zero
    simp [zero]
  · rename_i nonzero
    have positive : v.toNat ≠ 0 := fun h => nonzero (UInt64.toNat_inj.mp (by simpa using h))
    have bits : v.toNat.log2 < 64 := (Nat.log2_lt positive).mpr v.toNat_lt
    have width : 64 - (63 - v.toNat.log2) = v.toNat.log2 + 1 := by omega
    refine ⟨by omega, ?_⟩
    rw [width]
    exact Nat.lt_log2_self

/- Every byte but the ninth carries seven bits of the number. -/
theorem numberOfBytes_bound (v : UInt64) :
    numberOfBytes v ≤ 9 ∧ (numberOfBytes v ≤ 8 → v.toNat < 2 ^ (7 * numberOfBytes v)) := by
  obtain ⟨le, bound⟩ := lt_two_pow_leadingZeros v
  have eq : numberOfBytes v = (639 - 9 * leadingZeros v) / 64 := Nat.shiftRight_eq_div_pow _ 6
  refine ⟨by omega, fun short => ?_⟩
  have width : 64 - leadingZeros v ≤ 7 * numberOfBytes v := by omega
  exact Nat.lt_of_lt_of_le bound (Nat.pow_le_pow_right (by decide) width)

theorem marked_toNat {extra : Nat} (le : extra ≤ 7) (v : UInt64)
    (small : v.toNat < 2 ^ (7 * (extra + 1))) :
    (v ||| ((lengthBits extra).toUInt64 <<< UInt64.ofNat (8 * extra))).toNat =
      2 ^ (8 + 7 * extra) * (2 ^ extra - 1) + v.toNat := by
  have mark : ((lengthBits extra).toUInt64 <<< UInt64.ofNat (8 * extra)).toNat =
      2 ^ (8 + 7 * extra) * (2 ^ extra - 1) := by
    interval_cases extra <;> decide
  have below : v.toNat < 2 ^ (8 + 7 * extra) :=
    Nat.lt_of_lt_of_le small (Nat.pow_le_pow_right (by decide) (by omega))
  rw [UInt64.toNat_or, mark, Nat.or_comm, ← Nat.two_pow_add_eq_or_of_lt below]

/- The first byte of a marked number: `extra` ones, a zero, and the high bits `high`. -/
theorem leadingOnes_marked {extra high : Nat} (le : extra ≤ 7) (small : high < 2 ^ (7 - extra)) :
    leadingOnes (UInt8.ofNat (2 ^ (8 - extra) * (2 ^ extra - 1) + high)) = extra ∧
      (UInt8.ofNat (2 ^ (8 - extra) * (2 ^ extra - 1) + high)).toNat % 2 ^ (8 - extra) = high := by
  have all : ∀ extra < 8, ∀ high < 128, high < 2 ^ (7 - extra) →
      leadingOnes (UInt8.ofNat (2 ^ (8 - extra) * (2 ^ extra - 1) + high)) = extra ∧
        (UInt8.ofNat (2 ^ (8 - extra) * (2 ^ extra - 1) + high)).toNat % 2 ^ (8 - extra) = high := by
    decide +kernel
  have room : 2 ^ (7 - extra) ≤ 2 ^ 7 := Nat.pow_le_pow_right (by decide) (by omega)
  exact all extra (by omega) high (by omega) small

theorem reads_firstByte (b : UInt8) (v : Nat) :
    Reads readUnsignedVint (b :: beBytes (leadingOnes b) v)
      (b.toNat % 2 ^ (8 - leadingOnes b) * 256 ^ leadingOnes b + v % 256 ^ leadingOnes b) :=
  (Reads.byte b).andThen ((reads_readNat _ v).filterMap rfl)

theorem reads_marked {extra : Nat} (le : extra ≤ 7) (v : Nat) (small : v < 2 ^ (7 * (extra + 1))) :
    Reads readUnsignedVint (beBytes (extra + 1) (2 ^ (8 + 7 * extra) * (2 ^ extra - 1) + v)) v := by
  have bytes : ∀ k, 256 ^ extra * 2 ^ k = 2 ^ (8 * extra + k) := by
    intro k
    rw [show (256 : Nat) = 2 ^ 8 by decide, ← Nat.pow_mul, ← Nat.pow_add]
  have power : 2 ^ (8 + 7 * extra) = 256 ^ extra * 2 ^ (8 - extra) := by
    rw [bytes, show 8 + 7 * extra = 8 * extra + (8 - extra) by omega]
  have high : v / 256 ^ extra < 2 ^ (7 - extra) := by
    apply Nat.div_lt_of_lt_mul
    rw [bytes, show 8 * extra + (7 - extra) = 7 * (extra + 1) by omega]
    exact small
  obtain ⟨ones, value⟩ := leadingOnes_marked le high
  have positive : 0 < 256 ^ extra := Nat.pow_pos (by decide)
  have reads := reads_firstByte (UInt8.ofNat (2 ^ (8 - extra) * (2 ^ extra - 1) + v / 256 ^ extra))
    (2 ^ (8 + 7 * extra) * (2 ^ extra - 1) + v)
  rw [ones, value, power, Nat.mul_assoc, Nat.mul_add_mod, Nat.div_add_mod'] at reads
  rw [beBytes, power, Nat.mul_assoc, Nat.mul_add_div positive]
  exact reads

/-- What the encoder writes is read back, and nothing after it is touched. -/
theorem reads_unsignedVint (v : UInt64) : Reads readUnsignedVint (unsignedVintEncode v) v.toNat := by
  obtain ⟨most, bound⟩ := numberOfBytes_bound v
  unfold unsignedVintEncode
  split
  · -- a single byte is marked by no ones at all
    have small : v.toNat < 2 ^ 7 := Nat.lt_of_lt_of_le (bound (by omega))
      (Nat.pow_le_pow_right (by decide) (by omega))
    have reads := reads_marked (Nat.zero_le 7) v.toNat small
    simpa [beBytes] using reads
  · split
    · obtain ⟨extra, count⟩ : ∃ extra, numberOfBytes v = extra + 1 := ⟨numberOfBytes v - 1, by omega⟩
      have le : extra ≤ 7 := by omega
      have small := bound (by omega)
      rw [count] at small
      simp only [count, Nat.add_sub_cancel, marked_toNat le v small]
      exact reads_marked le v.toNat small
    · have reads := reads_firstByte 0xff v.toNat
      have ones : leadingOnes 0xff = 8 := by decide
      have whole : v.toNat % 256 ^ 8 = v.toNat := Nat.mod_eq_of_lt v.toNat_lt
      rw [ones, whole] at reads
      simpa using reads

theorem numberOfBytes_le {v : UInt64} {n : Nat} (positive : 1 ≤ n) (small : v.toNat < 2 ^ (7 * n)) :
    numberOfBytes v ≤ n := by
  have eq : numberOfBytes v = (639 - 9 * leadingZeros v) / 64 := Nat.shiftRight_eq_div_pow _ 6
  have width : 64 - leadingZeros v ≤ 7 * n := by
    unfold leadingZeros
    split
    · omega
    · rename_i nonzero
      have positive : v.toNat ≠ 0 := fun h => nonzero (UInt64.toNat_inj.mp (by simpa using h))
      have bits : v.toNat.log2 < 7 * n := (Nat.log2_lt positive).mpr small
      omega
  omega

theorem length_unsignedVint (v : UInt64) :
    (unsignedVintEncode v).length = max 1 (numberOfBytes v) := by
  obtain ⟨most, -⟩ := numberOfBytes_bound v
  unfold unsignedVintEncode
  split
  · rw [List.length_singleton]
    omega
  · split
    · rw [length_beBytes]
      omega
    · rw [List.length_cons, length_beBytes]
      omega

/-- An encoding of up to eight bytes holds seven bits of the number in each. -/
theorem length_unsignedVint_le_iff {v : UInt64} {n : Nat} (positive : 1 ≤ n) (few : n ≤ 8) :
    (unsignedVintEncode v).length ≤ n ↔ v.toNat < 2 ^ (7 * n) := by
  rw [length_unsignedVint]
  constructor
  · intro short
    have bound := (numberOfBytes_bound v).2 (by omega)
    exact Nat.lt_of_lt_of_le bound (Nat.pow_le_pow_right (by decide) (by omega))
  · intro small
    have enough := numberOfBytes_le positive small
    omega

/- Behind its leading ones a first byte has a zero, unless it has nothing but ones. -/
theorem payload_lt (b : UInt8) : leadingOnes b ≤ 8 ∧
    (leadingOnes b ≤ 7 → b.toNat % 2 ^ (8 - leadingOnes b) < 2 ^ (7 - leadingOnes b)) := by
  revert b
  apply forall_byte
  decide +kernel

theorem readUnsignedVint_inv {bytes rest : List UInt8} {v : Nat}
    (read : readUnsignedVint bytes = some (v, rest)) :
    ∃ b low, bytes = b :: low ++ rest ∧ low.length = leadingOnes b ∧
      v = b.toNat % 2 ^ (8 - leadingOnes b) * 256 ^ leadingOnes b + ofBeBytes low := by
  obtain ⟨b, more, first, next⟩ := Reader.andThen_eq_some.mp read
  obtain ⟨number, following, value⟩ := Reader.filterMap_eq_some.mp next
  obtain ⟨low, taken, is⟩ := Reader.filterMap_eq_some.mp following
  obtain ⟨rfl, length⟩ := Reader.take_eq_some.mp taken
  cases Option.some.inj is
  exact ⟨b, low, Reader.byte_eq_some.mp first, length, (Option.some.inj value).symm⟩

theorem lt_of_read {bytes rest : List UInt8} {v : Nat}
    (read : readUnsignedVint (bytes ++ rest) = some (v, rest)) :
    1 ≤ bytes.length ∧ (bytes.length ≤ 8 → v < 2 ^ (7 * bytes.length)) := by
  obtain ⟨b, low, is, length, rfl⟩ := readUnsignedVint_inv read
  cases List.append_cancel_right is
  rw [List.length_cons, length]
  refine ⟨by omega, fun short => ?_⟩
  have high := (payload_lt b).2 (by omega)
  have below := ofBeBytes_lt low
  rw [length] at below
  have width : 7 * (leadingOnes b + 1) = (7 - leadingOnes b) + 8 * leadingOnes b := by omega
  calc b.toNat % 2 ^ (8 - leadingOnes b) * 256 ^ leadingOnes b + ofBeBytes low
    _ < (b.toNat % 2 ^ (8 - leadingOnes b) + 1) * 256 ^ leadingOnes b := by
      rw [Nat.add_mul, Nat.one_mul]
      exact Nat.add_lt_add_left below _
    _ ≤ 2 ^ (7 - leadingOnes b) * 256 ^ leadingOnes b := Nat.mul_le_mul_right _ high
    _ = 2 ^ (7 * (leadingOnes b + 1)) := by
      rw [width, Nat.pow_add, Nat.pow_mul]

/-- The encoding of a number, among all byte strings that are read as that number and among
the encodings of all numbers. -/
structure Canonical (v : UInt64) : Prop where
  reads : ∀ rest, readUnsignedVint (unsignedVintEncode v ++ rest) = some (v.toNat, rest)
  length : 1 ≤ (unsignedVintEncode v).length ∧ (unsignedVintEncode v).length ≤ 9
  least : ∀ bytes rest, readUnsignedVint (bytes ++ rest) = some (v.toNat, rest) →
    (unsignedVintEncode v).length ≤ bytes.length
  monotone : ∀ w, v ≤ w → (unsignedVintEncode v).length ≤ (unsignedVintEncode w).length

theorem unsigned_vint_canonical (v : UInt64) : Canonical v where
  reads := reads_unsignedVint v
  length := by
    have most := (numberOfBytes_bound v).1
    rw [length_unsignedVint]
    omega
  least bytes rest read := by
    obtain ⟨positive, small⟩ := lt_of_read read
    by_cases few : bytes.length ≤ 8
    · exact (length_unsignedVint_le_iff positive few).mpr (small few)
    · have most := (numberOfBytes_bound v).1
      rw [length_unsignedVint]
      omega
  monotone w le := by
    have most := (numberOfBytes_bound v).1
    by_cases few : (unsignedVintEncode w).length ≤ 8
    · have positive : 1 ≤ (unsignedVintEncode w).length := by
        rw [length_unsignedVint]
        omega
      have small := (length_unsignedVint_le_iff positive few).mp (Nat.le_refl _)
      exact (length_unsignedVint_le_iff positive few).mpr
        (Nat.lt_of_le_of_lt (UInt64.le_iff_toNat_le.mp le) small)
    · rw [length_unsignedVint v]
      omega

end CppRsDriver.Wire
