import CppRsDriver.Basic
import CppRsDriver.Lib.Bytes

/-! Addresses as clients have them: sixteen bytes and how many of them are used. -/
namespace CppRsDriver.Types

open CppRsDriver.Lib

inductive CassInetLength where
  | v4
  | v6
  deriving DecidableEq, Repr

def CassInetLength.toNat : CassInetLength → Nat
  | .v4 => 4
  | .v6 => 16

def CassInetLength.fromU8 (n : UInt8) : Option CassInetLength :=
  if n = 4 then some .v4 else if n = 16 then some .v6 else none

structure CassInet where
  address : List UInt8
  addressLength : UInt8
  whole : address.length = 16
  deriving DecidableEq

/-- `cass_inet_init` with the bytes at the caller's pointer; the others are zero. -/
def cassInetInit (length : CassInetLength) (address : List UInt8)
    (enough : address.length = length.toNat) : CassInet where
  address := address ++ List.replicate (16 - length.toNat) 0
  addressLength := UInt8.ofNat length.toNat
  whole := by
    rw [List.length_append, List.length_replicate, enough]
    cases length <;> rfl

def cassInetInitV4 (address : List UInt8) (enough : address.length = 4) : CassInet :=
  cassInetInit .v4 address enough

def cassInetInitV6 (address : List UInt8) (enough : address.length = 16) : CassInet :=
  cassInetInit .v6 address enough

/-- `TryFrom<CassInet> for IpAddr`. -/
def CassInet.toIpAddr (inet : CassInet) : Option IpAddr :=
  match CassInetLength.fromU8 inet.addressLength with
  | some .v4 => some (.v4 (BitVec.ofNat 32 (ofBeBytes (inet.address.take 4))))
  | some .v6 => some (.v6 (BitVec.ofNat 128 (ofBeBytes (inet.address.take 16))))
  | none => none

/-- `From<IpAddr> for CassInet`. -/
def CassInet.fromIpAddr : IpAddr → CassInet
  | .v4 addr => cassInetInit .v4 (beBytes 4 addr.toNat) (length_beBytes 4 addr.toNat)
  | .v6 addr => cassInetInit .v6 (beBytes 16 addr.toNat) (length_beBytes 16 addr.toNat)

section Words
variable {n : Nat}

theorem ofNat_ofBeBytes (v : BitVec (8 * n)) :
    BitVec.ofNat (8 * n) (ofBeBytes (beBytes n v.toNat)) = v := by
  have small : v.toNat < 256 ^ n := by
    have bound := v.isLt
    rwa [Nat.pow_mul] at bound
  rw [ofBeBytes_beBytes, Nat.mod_eq_of_lt small, BitVec.ofNat_toNat, BitVec.setWidth_eq]

theorem beBytes_ofNat {bytes : List UInt8} (length : bytes.length = n) :
    beBytes n (BitVec.ofNat (8 * n) (ofBeBytes bytes)).toNat = bytes := by
  subst length
  have bound := ofBeBytes_lt bytes
  rw [BitVec.toNat_ofNat, Nat.pow_mul, Nat.mod_eq_of_lt bound, beBytes_ofBeBytes]

end Words

namespace CassInet

theorem toIpAddr_fromIpAddr (addr : IpAddr) : (fromIpAddr addr).toIpAddr = some addr := by
  cases addr with
  | v4 addr =>
    have taken : (fromIpAddr (.v4 addr)).address.take 4 = beBytes 4 addr.toNat :=
      List.take_left' (length_beBytes 4 addr.toNat)
    have length : CassInetLength.fromU8 (fromIpAddr (.v4 addr)).addressLength = some .v4 := rfl
    simp only [toIpAddr, length, taken]
    exact congrArg (fun a => some (IpAddr.v4 a)) (@ofNat_ofBeBytes 4 addr)
  | v6 addr =>
    have taken : (fromIpAddr (.v6 addr)).address.take 16 = beBytes 16 addr.toNat :=
      List.take_left' (length_beBytes 16 addr.toNat)
    have length : CassInetLength.fromU8 (fromIpAddr (.v6 addr)).addressLength = some .v6 := rfl
    simp only [toIpAddr, length, taken]
    exact congrArg (fun a => some (IpAddr.v6 a)) (@ofNat_ofBeBytes 16 addr)

/-- The bytes of an address that are used. -/
def used (inet : CassInet) : List UInt8 := inet.address.take inet.addressLength.toNat

/-- The same address with zeros behind the bytes that are used. -/
def cleared (inet : CassInet) : CassInet where
  address := inet.used ++ List.replicate (16 - inet.used.length) 0
  addressLength := inet.addressLength
  whole := by
    have length := inet.whole
    simp only [used, List.length_append, List.length_replicate, List.length_take]
    omega

theorem length_of_toIpAddr {inet : CassInet} {addr : IpAddr} (is : inet.toIpAddr = some addr) :
    (inet.addressLength = 4 ∧ addr = .v4 (BitVec.ofNat 32 (ofBeBytes (inet.address.take 4)))) ∨
      (inet.addressLength = 16 ∧
        addr = .v6 (BitVec.ofNat 128 (ofBeBytes (inet.address.take 16)))) := by
  unfold toIpAddr CassInetLength.fromU8 at is
  split at is
  · rename_i v4
    split at v4
    · rename_i length
      exact .inl ⟨length, (Option.some.inj is).symm⟩
    · split at v4 <;> cases v4
  · rename_i v6
    split at v6
    · cases v6
    · split at v6
      · rename_i length
        exact .inr ⟨length, (Option.some.inj is).symm⟩
      · cases v6
  · cases is

theorem fromIpAddr_toIpAddr {inet : CassInet} {addr : IpAddr} (is : inet.toIpAddr = some addr) :
    fromIpAddr addr = inet.cleared := by
  have whole := inet.whole
  rcases length_of_toIpAddr is with ⟨four, rfl⟩ | ⟨sixteen, rfl⟩
  · have used : inet.used = inet.address.take 4 := by
      rw [used, four]
      rfl
    have bytes : (inet.address.take 4).length = 4 := by
      rw [List.length_take, whole]
      rfl
    simp only [fromIpAddr, cassInetInit, cleared, CassInet.mk.injEq, used, bytes, four]
    exact ⟨congrArg (· ++ List.replicate 12 0) (@beBytes_ofNat 4 _ bytes), rfl⟩
  · have used : inet.used = inet.address.take 16 := by
      rw [used, sixteen]
      rfl
    have bytes : (inet.address.take 16).length = 16 := by
      rw [List.length_take, whole]
      rfl
    simp only [fromIpAddr, cassInetInit, cleared, CassInet.mk.injEq, used, bytes, sixteen]
    exact ⟨congrArg (· ++ List.replicate 0 0) (@beBytes_ofNat 16 _ bytes), rfl⟩

end CassInet

end CppRsDriver.Types
