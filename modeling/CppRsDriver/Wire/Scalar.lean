import CppRsDriver.Types.Value
import CppRsDriver.Wire.Vint

/-! The standard CQL bytes of scalar values, as the driver's serializers for simple
types write them, and how a column of a native type is read. -/
namespace CppRsDriver.Wire

open CppRsDriver.Lib CppRsDriver.Types

def zigZag (v : Int) : Nat := if 0 ≤ v then (2 * v).toNat else (-2 * v - 1).toNat

def unZigZag (n : Nat) : Int := if n % 2 = 0 then (n / 2 : Nat) else -((n + 1) / 2 : Nat)

theorem unZigZag_zigZag (v : Int) : unZigZag (zigZag v) = v := by
  unfold unZigZag zigZag
  split <;> split <;> omega

def signedVintBytes {w : Nat} (v : BitVec w) : List UInt8 :=
  unsignedVintEncode (UInt64.ofNat (zigZag v.toInt))

def readSignedVint (w : Nat) : Reader (BitVec w) :=
  readUnsignedVint.filterMap (fun n => some (BitVec.ofInt w (unZigZag n)))

theorem reads_signedVint {w : Nat} (fits : w ≤ 64) (v : BitVec w) :
    Reads (readSignedVint w) (signedVintBytes v) v := by
  have lower := BitVec.le_toInt v
  have upper := BitVec.toInt_lt (x := v)
  have power : (2 : Int) ^ (w - 1) ≤ 2 ^ 63 := by
    exact_mod_cast Nat.pow_le_pow_right (by decide : 0 < 2) (by omega : w - 1 ≤ 63)
  have small : zigZag v.toInt < 2 ^ 64 := by
    unfold zigZag
    split <;> omega
  apply (reads_unsignedVint _).filterMap
  rw [UInt64.toNat_ofNat_of_lt' small, unZigZag_zigZag, BitVec.ofInt_toInt]

def utf8 (s : String) : List UInt8 := s.toUTF8.data.toList

def inetBytes : IpAddr → List UInt8
  | .v4 addr => beBytes 4 addr.toNat
  | .v6 addr => beBytes 16 addr.toNat

def scalarBytes : CassScalar → List UInt8
  | .tinyInt v => beBytes 1 v.toNat
  | .smallInt v => beBytes 2 v.toNat
  | .int v => beBytes 4 v.toNat
  | .bigInt v => beBytes 8 v.toNat
  | .float v => beBytes 4 v.toNat
  | .double v => beBytes 8 v.toNat
  | .boolean v => [if v then 1 else 0]
  | .text v => utf8 v
  | .blob v => v
  | .uuid v => beBytes 16 v.toNat
  | .date v => beBytes 4 v.toNat
  | .inet v => inetBytes v
  | .duration v =>
    signedVintBytes v.months ++ (signedVintBytes v.days ++ signedVintBytes v.nanoseconds)
  | .decimal v => beBytes 4 v.scale.toNat ++ v.unscaled

/-- The width of the native types all of whose values are equally long. -/
def standardSize : NativeType → Option Nat
  | .boolean | .tinyInt => some 1
  | .smallInt => some 2
  | .int | .float | .date => some 4
  | .bigInt | .counter | .timestamp | .time | .double => some 8
  | .uuid | .timeuuid => some 16
  | _ => none

def readBits (w : Nat) : Reader (BitVec w) :=
  (readNat (w / 8)).filterMap (fun n => some (BitVec.ofNat w n))

theorem reads_readBits {w n : Nat} (whole : w = 8 * n) (v : BitVec w) :
    Reads (readBits w) (beBytes n v.toNat) v := by
  subst whole
  have small : v.toNat < 256 ^ n := by
    have bound := v.isLt
    rwa [Nat.pow_mul] at bound
  rw [readBits, Nat.mul_div_cancel_left n (by decide)]
  apply (reads_readNat n v.toNat).filterMap
  rw [Nat.mod_eq_of_lt small, BitVec.ofNat_toNat, BitVec.setWidth_eq]

def readDuration : Reader CqlDuration :=
  (readSignedVint 32).andThen (fun months =>
    (readSignedVint 32).andThen (fun days =>
      (readSignedVint 64).filterMap (fun nanoseconds => some ⟨months, days, nanoseconds⟩)))

def decodeInet (bytes : List UInt8) : Option IpAddr :=
  if bytes.length = 4 then ((readBits 32).complete bytes).map .v4
  else ((readBits 128).complete bytes).map .v6

def decodeDecimal (bytes : List UInt8) : Option CqlDecimal :=
  (readBits 32 bytes).map (fun (scale, unscaled) => ⟨unscaled, scale⟩)

/-- A column of a native type; the content of the types that hold any bytes is the
bytes themselves. -/
def decodeScalar (t : NativeType) (bytes : List UInt8) : Option CassScalar :=
  match t with
  | .tinyInt => ((readBits 8).complete bytes).map .tinyInt
  | .smallInt => ((readBits 16).complete bytes).map .smallInt
  | .int => ((readBits 32).complete bytes).map .int
  | .bigInt | .counter | .timestamp | .time => ((readBits 64).complete bytes).map .bigInt
  | .float => ((readBits 32).complete bytes).map .float
  | .double => ((readBits 64).complete bytes).map .double
  | .boolean => (Reader.byte.complete bytes).map (fun b => .boolean (b != 0))
  | .text | .ascii | .blob | .varint => some (.blob bytes)
  | .uuid | .timeuuid => ((readBits 128).complete bytes).map .uuid
  | .date => ((readBits 32).complete bytes).map .date
  | .inet => (decodeInet bytes).map .inet
  | .duration => (readDuration.complete bytes).map .duration
  | .decimal => (decodeDecimal bytes).map .decimal

/-- A text is the bytes of its encoding: it may be bound to a blob or varint column. -/
def plain : CassScalar → CassScalar
  | .text s => .blob (utf8 s)
  | s => s

theorem complete_readBits {w n : Nat} (whole : w = 8 * n) (v : BitVec w) :
    (readBits w).complete (beBytes n v.toNat) = some v :=
  (reads_readBits whole v).complete

theorem decodeInet_inetBytes (addr : IpAddr) : decodeInet (inetBytes addr) = some addr := by
  cases addr with
  | v4 addr => simp [decodeInet, inetBytes, complete_readBits]
  | v6 addr => simp [decodeInet, inetBytes, complete_readBits]

theorem complete_readDuration (v : CqlDuration) :
    readDuration.complete (scalarBytes (.duration v)) = some v := by
  have months := reads_signedVint (by decide) v.months
  have days := reads_signedVint (by decide) v.days
  have nanoseconds := reads_signedVint (by decide) v.nanoseconds
  have last : Reads ((readSignedVint 64).filterMap (fun n => some ⟨v.months, v.days, n⟩))
      (signedVintBytes v.nanoseconds) v := nanoseconds.filterMap rfl
  exact (months.andThen (days.andThen last)).complete

theorem decodeDecimal_bytes (v : CqlDecimal) :
    decodeDecimal (scalarBytes (.decimal v)) = some v := by
  have reads : readBits 32 (beBytes 4 v.scale.toNat ++ v.unscaled) = some (v.scale, v.unscaled) :=
    reads_readBits (by decide : 32 = 8 * 4) v.scale v.unscaled
  simp only [decodeDecimal, scalarBytes, reads, Option.map_some]

theorem decodeScalar_scalarBytes (s : CassScalar) (t : NativeType)
    (compatible : s.isTypeCompatible t.toValueType = true) :
    decodeScalar t (scalarBytes s) = some (plain s) := by
  cases s with
  | boolean v => cases t <;> first | contradiction | (cases v <;> rfl)
  | text v => cases t <;> first | contradiction | rfl
  | blob v => cases t <;> first | contradiction | rfl
  | inet v =>
    cases t <;> first | contradiction | simp only [decodeScalar, scalarBytes, decodeInet_inetBytes]; rfl
  | duration v =>
    cases t <;> first | contradiction | simp only [decodeScalar, complete_readDuration]; rfl
  | decimal v =>
    cases t <;> first | contradiction | simp only [decodeScalar, decodeDecimal_bytes]; rfl
  | _ v => cases t <;> first
    | contradiction
    | simp (disch := decide) only [decodeScalar, scalarBytes, complete_readBits, Option.map_some, plain]

theorem length_scalarBytes (s : CassScalar) (t : NativeType) (size : Nat)
    (compatible : s.isTypeCompatible t.toValueType = true) (fixed : standardSize t = some size) :
    (scalarBytes s).length = size := by
  cases s <;> cases t <;> first
    | contradiction
    | (cases Option.some.inj fixed; simp [scalarBytes])

end CppRsDriver.Wire
