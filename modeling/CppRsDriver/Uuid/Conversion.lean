import CppRsDriver.Lib.Bytes
import CppRsDriver.Uuid.Timestamp

/-! The two representations of a UUID: the standard one, whose first eight bytes hold the
timestamp from its low part to its high part with the version in front of the latter, and the
one of the C API, whose first word is the timestamp with the version above it. -/
namespace CppRsDriver.Uuid

open CppRsDriver.Lib

/-- A UUID of the `uuid` crate, as the number that `as_u128` makes of its bytes. -/
abbrev StandardUuid := BitVec 128

def rotateLeft (x : UInt32) (n : Nat) : UInt32 := UInt32.ofBitVec (x.toBitVec.rotateLeft n)

/-- `From<CassUuid> for Uuid`. -/
def CassUuid.toUuid (uuid : CassUuid) : StandardUuid :=
  let timeAndVersionMsb := uuid.timeAndVersion &&& (0xFFFFFFFF : UInt64)
  let timeAndVersionLsb :=
    (rotateLeft ((uuid.timeAndVersion &&& (0xFFFFFFFF00000000 : UInt64)) >>> (32 : UInt64)).toUInt32
      16).toUInt64
  let msb := ((timeAndVersionMsb <<< (32 : UInt64)) ||| timeAndVersionLsb).toBitVec.setWidth 128
  let lsb := uuid.clockSeqAndNode.toBitVec.setWidth 128
  (msb <<< 64) ||| lsb

/-- `From<Uuid> for CassUuid`. -/
def CassUuid.ofUuid (uuid : StandardUuid) : CassUuid :=
  let upperU64 := UInt64.ofBitVec ((uuid >>> 64).setWidth 64)
  let lowerU64 := UInt64.ofBitVec ((uuid &&& 0xFFFFFFFFFFFFFFFF#128).setWidth 64)
  let msb := (rotateLeft (upperU64 &&& (0xFFFFFFFF : UInt64)).toUInt32 16).toUInt64
  let lsb := (upperU64 &&& (0xFFFFFFFF00000000 : UInt64)) >>> (32 : UInt64)
  ⟨(msb <<< (32 : UInt64)) ||| lsb, lowerU64⟩

def cassUuidVersion (uuid : CassUuid) : UInt8 :=
  ((uuid.timeAndVersion >>> (60 : UInt64)) &&& (0x0F : UInt64)).toUInt8

namespace StandardUuid
variable (uuid : StandardUuid)

def asBytes : List UInt8 := beBytes 16 uuid.toNat

/- The fields of RFC 4122, over the bytes in their order. -/

def timeLow : Nat := ofBeBytes (uuid.asBytes.take 4)

def timeMid : Nat := ofBeBytes ((uuid.asBytes.drop 4).take 2)

def timeHiAndVersion : Nat := ofBeBytes ((uuid.asBytes.drop 6).take 2)

def version : Nat := uuid.timeHiAndVersion / 2 ^ 12

def timestamp : Nat :=
  uuid.timeHiAndVersion % 2 ^ 12 * 2 ^ 48 + uuid.timeMid * 2 ^ 32 + uuid.timeLow

end StandardUuid

section Words

theorem and_low_half (x : UInt64) : (x &&& (0xFFFFFFFF : UInt64)).toNat = x.toNat % 2 ^ 32 :=
  Nat.and_two_pow_sub_one_eq_mod _ 32

theorem and_high_half (x : UInt64) :
    ((x &&& (0xFFFFFFFF00000000 : UInt64)) >>> (32 : UInt64)).toNat = x.toNat / 2 ^ 32 := by
  have mask : (0xFFFFFFFF00000000 : Nat) >>> 32 = 2 ^ 32 - 1 := by decide
  have below : x.toNat / 2 ^ 32 < 2 ^ 32 := by
    have := x.toNat_lt
    omega
  rw [UInt64.toNat_shiftRight, UInt64.toNat_and]
  change (x.toNat &&& 0xFFFFFFFF00000000) >>> 32 = _
  rw [Nat.shiftRight_and_distrib, mask, Nat.and_two_pow_sub_one_eq_mod, Nat.shiftRight_eq_div_pow,
    Nat.mod_eq_of_lt below]

theorem or_halves (high low : UInt64) (small : low.toNat < 2 ^ 32) :
    ((high <<< (32 : UInt64)) ||| low).toNat = high.toNat % 2 ^ 32 * 2 ^ 32 + low.toNat := by
  rw [UInt64.toNat_or, UInt64.toNat_shiftLeft]
  exact shiftLeft_or high.toNat 32 small

theorem rotateLeft_toNat (x : UInt32) :
    (rotateLeft x 16).toNat = x.toNat % 2 ^ 16 * 2 ^ 16 + x.toNat / 2 ^ 16 := by
  have below : x.toNat / 2 ^ 16 < 2 ^ 16 := by
    have := x.toNat_lt
    omega
  change (x.toBitVec.rotateLeft 16).toNat = _
  rw [BitVec.toNat_rotateLeft]
  change x.toNat <<< 16 % 2 ^ 32 ||| x.toNat >>> 16 = _
  rw [Nat.shiftRight_eq_div_pow]
  exact shiftLeft_or x.toNat 16 below

theorem or_words (high low : UInt64) :
    ((high.toBitVec.setWidth 128 <<< 64) ||| low.toBitVec.setWidth 128).toNat =
      high.toNat * 2 ^ 64 + low.toNat := by
  have highFits : high.toNat < 2 ^ 64 := high.toNat_lt
  have lowFits : low.toNat < 2 ^ 64 := low.toNat_lt
  have joined := shiftLeft_or high.toNat 64 lowFits
  rw [Nat.mod_eq_of_lt highFits] at joined
  rw [BitVec.toNat_or, BitVec.toNat_shiftLeft, BitVec.toNat_setWidth, BitVec.toNat_setWidth,
    UInt64.toNat_toBitVec, UInt64.toNat_toBitVec,
    Nat.mod_eq_of_lt (by omega : high.toNat < 2 ^ 128),
    Nat.mod_eq_of_lt (by omega : low.toNat < 2 ^ 128), ← joined]

end Words

/-- What a UUID consists of. The high part of the timestamp has the version in front of it. -/
structure Parts where
  low : Nat
  mid : Nat
  hiAndVersion : Nat
  node : Nat
  low_lt : low < 2 ^ 32
  mid_lt : mid < 2 ^ 16
  hiAndVersion_lt : hiAndVersion < 2 ^ 16
  node_lt : node < 2 ^ 64

namespace Parts

def cass (p : Parts) : CassUuid :=
  ⟨UInt64.ofNat (p.hiAndVersion * 2 ^ 48 + p.mid * 2 ^ 32 + p.low), UInt64.ofNat p.node⟩

def standard (p : Parts) : StandardUuid :=
  BitVec.ofNat 128 (p.low * 2 ^ 96 + p.mid * 2 ^ 80 + p.hiAndVersion * 2 ^ 64 + p.node)

variable (p : Parts)

theorem bounds : p.low < 2 ^ 32 ∧ p.mid < 2 ^ 16 ∧ p.hiAndVersion < 2 ^ 16 ∧ p.node < 2 ^ 64 :=
  ⟨p.low_lt, p.mid_lt, p.hiAndVersion_lt, p.node_lt⟩

theorem time_toNat :
    p.cass.timeAndVersion.toNat = p.hiAndVersion * 2 ^ 48 + p.mid * 2 ^ 32 + p.low := by
  obtain ⟨low, mid, high, -⟩ := p.bounds
  have fits : p.hiAndVersion * 2 ^ 48 + p.mid * 2 ^ 32 + p.low < 2 ^ 64 := by omega
  exact UInt64.toNat_ofNat_of_lt' fits

theorem node_toNat : p.cass.clockSeqAndNode.toNat = p.node := UInt64.toNat_ofNat_of_lt' p.node_lt

theorem standard_toNat : p.standard.toNat =
    p.low * 2 ^ 96 + p.mid * 2 ^ 80 + p.hiAndVersion * 2 ^ 64 + p.node := by
  obtain ⟨low, mid, high, node⟩ := p.bounds
  rw [standard, BitVec.toNat_ofNat, Nat.mod_eq_of_lt (by omega)]

end Parts

theorem exists_cass (c : CassUuid) : ∃ p : Parts, p.cass = c := by
  have time : c.timeAndVersion.toNat < 2 ^ 64 := c.timeAndVersion.toNat_lt
  refine ⟨⟨c.timeAndVersion.toNat % 2 ^ 32, c.timeAndVersion.toNat / 2 ^ 32 % 2 ^ 16,
    c.timeAndVersion.toNat / 2 ^ 48, c.clockSeqAndNode.toNat, by omega, by omega, by omega,
    c.clockSeqAndNode.toNat_lt⟩, ?_⟩
  have sum : c.timeAndVersion.toNat / 2 ^ 48 * 2 ^ 48 + c.timeAndVersion.toNat / 2 ^ 32 % 2 ^ 16 * 2 ^ 32 +
      c.timeAndVersion.toNat % 2 ^ 32 = c.timeAndVersion.toNat := by omega
  rw [Parts.cass, sum, UInt64.ofNat_toNat, UInt64.ofNat_toNat]

theorem exists_standard (u : StandardUuid) : ∃ p : Parts, p.standard = u := by
  have fits : u.toNat < 2 ^ 128 := u.isLt
  refine ⟨⟨u.toNat / 2 ^ 96, u.toNat / 2 ^ 80 % 2 ^ 16, u.toNat / 2 ^ 64 % 2 ^ 16, u.toNat % 2 ^ 64,
    by omega, by omega, by omega, by omega⟩, ?_⟩
  have sum : u.toNat / 2 ^ 96 * 2 ^ 96 + u.toNat / 2 ^ 80 % 2 ^ 16 * 2 ^ 80 +
      u.toNat / 2 ^ 64 % 2 ^ 16 * 2 ^ 64 + u.toNat % 2 ^ 64 = u.toNat := by omega
  rw [Parts.standard, sum, BitVec.ofNat_toNat, BitVec.setWidth_eq]

/- The rotation brings the middle part of the timestamp in front of the high one. -/
theorem toUuid_cass (p : Parts) : p.cass.toUuid = p.standard := by
  obtain ⟨low, mid, high, -⟩ := p.bounds
  let half := ((p.cass.timeAndVersion &&& (0xFFFFFFFF00000000 : UInt64)) >>> (32 : UInt64)).toUInt32
  have upper : half.toNat = p.hiAndVersion * 2 ^ 16 + p.mid := by
    rw [UInt64.toNat_toUInt32, and_high_half, p.time_toNat]
    omega
  have rotated : (rotateLeft half 16).toNat = p.mid * 2 ^ 16 + p.hiAndVersion := by
    rw [rotateLeft_toNat, upper]
    omega
  have below : (rotateLeft half 16).toUInt64.toNat < 2 ^ 32 := (rotateLeft half 16).toNat_lt
  apply BitVec.eq_of_toNat_eq
  unfold CassUuid.toUuid
  dsimp only
  rw [or_words, or_halves _ _ below, and_low_half, UInt32.toNat_toUInt64, rotated, p.time_toNat,
    p.node_toNat, p.standard_toNat]
  omega

theorem ofUuid_standard (p : Parts) : CassUuid.ofUuid p.standard = p.cass := by
  obtain ⟨low, mid, high, node⟩ := p.bounds
  let upper := UInt64.ofBitVec ((p.standard >>> 64).setWidth 64)
  have word : upper.toNat = p.low * 2 ^ 32 + p.mid * 2 ^ 16 + p.hiAndVersion := by
    rw [UInt64.toNat_ofBitVec, BitVec.toNat_setWidth, BitVec.toNat_ushiftRight,
      Nat.shiftRight_eq_div_pow, p.standard_toNat]
    omega
  let half := (upper &&& (0xFFFFFFFF : UInt64)).toUInt32
  have lower : half.toNat = p.mid * 2 ^ 16 + p.hiAndVersion := by
    rw [UInt64.toNat_toUInt32, and_low_half, word]
    omega
  have rotated : (rotateLeft half 16).toNat = p.hiAndVersion * 2 ^ 16 + p.mid := by
    rw [rotateLeft_toNat, lower]
    omega
  have rest : ((upper &&& (0xFFFFFFFF00000000 : UInt64)) >>> (32 : UInt64)).toNat = p.low := by
    rw [and_high_half, word]
    omega
  have mask : (0xFFFFFFFFFFFFFFFF#128).toNat = 2 ^ 64 - 1 := by decide
  have time : (CassUuid.ofUuid p.standard).timeAndVersion = p.cass.timeAndVersion := by
    apply UInt64.toNat_inj.mp
    unfold CassUuid.ofUuid
    dsimp only
    rw [or_halves _ _ (by rw [rest]; exact low), rest, UInt32.toNat_toUInt64, rotated, p.time_toNat]
    omega
  have clock : (CassUuid.ofUuid p.standard).clockSeqAndNode = p.cass.clockSeqAndNode := by
    apply UInt64.toNat_inj.mp
    unfold CassUuid.ofUuid
    dsimp only
    rw [UInt64.toNat_ofBitVec, BitVec.toNat_setWidth, BitVec.toNat_and, mask,
      Nat.and_two_pow_sub_one_eq_mod, p.standard_toNat, p.node_toNat]
    omega
  exact congrArg₂ CassUuid.mk time clock

section Fields
variable (p : Parts)

theorem timeLow_standard : p.standard.timeLow = p.low := by
  obtain ⟨low, mid, high, node⟩ := p.bounds
  rw [StandardUuid.timeLow, StandardUuid.asBytes, take_beBytes 4 12, ofBeBytes_beBytes,
    p.standard_toNat]
  omega

theorem timeMid_standard : p.standard.timeMid = p.mid := by
  obtain ⟨-, mid, high, node⟩ := p.bounds
  rw [StandardUuid.timeMid, StandardUuid.asBytes, drop_beBytes 4 12, take_beBytes 2 10,
    ofBeBytes_beBytes, p.standard_toNat]
  omega

theorem timeHiAndVersion_standard : p.standard.timeHiAndVersion = p.hiAndVersion := by
  obtain ⟨-, -, high, node⟩ := p.bounds
  rw [StandardUuid.timeHiAndVersion, StandardUuid.asBytes, drop_beBytes 6 10, take_beBytes 2 8,
    ofBeBytes_beBytes, p.standard_toNat]
  omega

theorem cassUuidVersion_cass : (cassUuidVersion p.cass).toNat = p.hiAndVersion / 2 ^ 12 := by
  obtain ⟨low, mid, high, -⟩ := p.bounds
  have masked : ((p.cass.timeAndVersion >>> (60 : UInt64)) &&& (0x0F : UInt64)).toNat =
      p.cass.timeAndVersion.toNat / 2 ^ 60 % 2 ^ 4 := by
    rw [UInt64.toNat_and, UInt64.toNat_shiftRight, ← Nat.shiftRight_eq_div_pow]
    exact Nat.and_two_pow_sub_one_eq_mod _ 4
  rw [cassUuidVersion, UInt64.toNat_toUInt8, masked, p.time_toNat]
  omega

end Fields

/-- Both representations have the same version, timestamp and low half. -/
structure Represents (c : CassUuid) (u : StandardUuid) : Prop where
  version : (cassUuidVersion c).toNat = u.version
  timestamp : c.timeAndVersion.toNat % 2 ^ 60 = u.timestamp
  clockSeqAndNode : c.clockSeqAndNode.toNat = ofBeBytes (u.asBytes.drop 8)

theorem represents_parts (p : Parts) : Represents p.cass p.standard := by
  obtain ⟨low, mid, high, node⟩ := p.bounds
  refine ⟨?_, ?_, ?_⟩
  · rw [cassUuidVersion_cass, StandardUuid.version, timeHiAndVersion_standard]
  · rw [StandardUuid.timestamp, timeHiAndVersion_standard, timeMid_standard, timeLow_standard,
      p.time_toNat]
    omega
  · rw [StandardUuid.asBytes, drop_beBytes 8 8, ofBeBytes_beBytes, p.standard_toNat, p.node_toNat]
    omega

theorem Represents.unique {c c' : CassUuid} {u : StandardUuid} (left : Represents c u)
    (right : Represents c' u) : c = c' := by
  obtain ⟨p, rfl⟩ := exists_cass c
  obtain ⟨q, rfl⟩ := exists_cass c'
  have version := left.version.trans right.version.symm
  have timestamp := left.timestamp.trans right.timestamp.symm
  have node := left.clockSeqAndNode.trans right.clockSeqAndNode.symm
  obtain ⟨low, mid, high, -⟩ := p.bounds
  obtain ⟨low', mid', high', -⟩ := q.bounds
  rw [cassUuidVersion_cass, cassUuidVersion_cass] at version
  rw [p.time_toNat, q.time_toNat] at timestamp
  have time : p.cass.timeAndVersion = q.cass.timeAndVersion := by
    apply UInt64.toNat_inj.mp
    rw [p.time_toNat, q.time_toNat]
    omega
  exact congrArg₂ CassUuid.mk time (UInt64.toNat_inj.mp node)

/-- The conversions are inverse to each other, and they relate exactly the representations
with the same version, timestamp and low half. -/
theorem uuid_conversions_correspond (c : CassUuid) (u : StandardUuid) :
    (CassUuid.ofUuid u).toUuid = u ∧ CassUuid.ofUuid c.toUuid = c ∧
      (c.toUuid = u ↔ Represents c u) := by
  obtain ⟨p, rfl⟩ := exists_cass c
  obtain ⟨q, rfl⟩ := exists_standard u
  rw [toUuid_cass, ofUuid_standard, toUuid_cass, ofUuid_standard]
  refine ⟨rfl, rfl, ?_, ?_⟩
  · intro same
    rw [← same]
    exact represents_parts p
  · intro represents
    rw [← toUuid_cass, represents.unique (represents_parts q), toUuid_cass]

example : CassUuid.ofUuid 0x550e8400e29b41d4a716446655440000#128 =
    ⟨0x41d4e29b550e8400, 0xa716446655440000⟩ := by decide

end CppRsDriver.Uuid
