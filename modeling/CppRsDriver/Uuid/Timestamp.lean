import Mathlib.Data.Nat.Bitwise
import Mathlib.Data.UInt

/-! Time UUIDs: the 60-bit timestamp in 100-nanosecond ticks and the version
nibble above it, as unsigned 64-bit words that wrap. -/
namespace CppRsDriver.Uuid

structure CassUuid where
  timeAndVersion : UInt64
  clockSeqAndNode : UInt64
  deriving DecidableEq, Repr

def timeOffsetBetweenUtcAndEpoch : UInt64 := 0x01B21DD213814000

def toMilliseconds (timestamp : UInt64) : UInt64 := timestamp / 10000

def fromUnixTimestamp (timestamp : UInt64) : UInt64 :=
  timestamp * 10000 + timeOffsetBetweenUtcAndEpoch

def setVersion (timestamp : UInt64) (version : UInt8) : UInt64 :=
  (timestamp &&& (0x0FFFFFFFFFFFFFFF : UInt64)) ||| (version.toUInt64 <<< (60 : UInt64))

/- A word of `w + k` bits made of two parts: what does not fit above the low part is lost. -/
theorem shiftLeft_or {k low : Nat} (high w : Nat) (small : low < 2 ^ k) :
    high <<< k % 2 ^ (w + k) ||| low = high % 2 ^ w * 2 ^ k + low := by
  have shifted : high <<< k % 2 ^ (w + k) = 2 ^ k * (high % 2 ^ w) := by
    rw [Nat.shiftLeft_eq, Nat.pow_add, Nat.mul_mod_mul_right, Nat.mul_comm]
  rw [shifted, ← Nat.two_pow_add_eq_or_of_lt small, Nat.mul_comm]

theorem setVersion_toNat (timestamp : UInt64) (version : UInt8) :
    (setVersion timestamp version).toNat =
      (version.toNat % 16) * 2 ^ 60 + timestamp.toNat % 2 ^ 60 := by
  have low : timestamp.toNat &&& (2 ^ 60 - 1) = timestamp.toNat % 2 ^ 60 :=
    Nat.and_two_pow_sub_one_eq_mod _ 60
  have below : timestamp.toNat % 2 ^ 60 < 2 ^ 60 := Nat.mod_lt _ (by decide)
  simp only [setVersion, UInt64.toNat_or, UInt64.toNat_and, UInt64.toNat_shiftLeft,
    UInt8.toNat_toUInt64]
  change (timestamp.toNat &&& (2 ^ 60 - 1)) ||| (version.toNat <<< 60 % 2 ^ 64) = _
  rw [low, Nat.or_comm]
  exact shiftLeft_or version.toNat 4 below

theorem setVersion_injective {a b : UInt64} (version : UInt8) (ha : a.toNat < 2 ^ 60)
    (hb : b.toNat < 2 ^ 60) (same : setVersion a version = setVersion b version) : a = b := by
  have words := congrArg UInt64.toNat same
  rw [setVersion_toNat, setVersion_toNat, Nat.mod_eq_of_lt ha, Nat.mod_eq_of_lt hb] at words
  exact UInt64.toNat_inj.mp (by omega)

end CppRsDriver.Uuid
