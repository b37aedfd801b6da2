import CppRsDriver.Types.Inet
import CppRsDriver.Types.Value
import CppRsDriver.Uuid.Conversion

/-! The arguments of the functions that bind scalars, from C. -/
namespace CppRsDriver.Types

open CppRsDriver.Uuid

/-- A pointer into the memory of the client: null, or the bytes that can be read from there. -/
abbrev Pointer := Option (List UInt8)

def fromUtf8 (bytes : List UInt8) : CassStr :=
  (String.fromUTF8? bytes.toByteArray).elim (.error .invalidUtf8) .ok

def strlen : Pointer → Nat
  | none => 0
  | some bytes => (bytes.takeWhile (· ≠ 0)).length

structure CassStrNulTerminated where
  ptr : Pointer

structure CassStrLenDelimited where
  ptr : Pointer

def CassStrNulTerminated.toStr (v : CassStrNulTerminated) : CassStr :=
  match v.ptr with
  | none => .error .nullPointer
  | some bytes => fromUtf8 (bytes.takeWhile (· ≠ 0))

def CassStrLenDelimited.toStr (v : CassStrLenDelimited) (len : Nat) : CassStr :=
  match v.ptr with
  | none => .error .nullPointer
  | some bytes => fromUtf8 (bytes.take len)

def CassStrNulTerminated.asLenDelimited (v : CassStrNulTerminated) : CassStrLenDelimited × Nat :=
  match v.ptr with
  | none => (⟨none⟩, 0)
  | some bytes => (⟨some bytes⟩, strlen (some bytes))

theorem take_length_takeWhile {α : Type} (p : α → Bool) (xs : List α) :
    xs.take (xs.takeWhile p).length = xs.takeWhile p :=
  (List.prefix_iff_eq_take.mp (List.takeWhile_prefix p)).symm

/-- The functions for strings that end with a NUL may hand them on to those that take a length. -/
theorem CassStrNulTerminated.toStr_asLenDelimited (v : CassStrNulTerminated) :
    v.asLenDelimited.1.toStr v.asLenDelimited.2 = v.toStr := by
  obtain ⟨ptr⟩ := v
  cases ptr with
  | none => rfl
  | some bytes =>
    simp only [asLenDelimited, strlen, CassStrLenDelimited.toStr, toStr, take_length_takeWhile]

/-- What is handed to the binders, appenders and setters of scalars. -/
inductive ScalarArgument where
  | int8 (v : BitVec 8)
  | int16 (v : BitVec 16)
  | int32 (v : BitVec 32)
  | uint32 (v : BitVec 32)
  | int64 (v : BitVec 64)
  | float (v : BitVec 32)
  | double (v : BitVec 64)
  | bool (v : BitVec 32)
  | string (v : CassStrNulTerminated)
  | stringN (v : CassStrLenDelimited) (n : Nat)
  | bytes (v : Pointer) (size : Nat)
  | uuid (v : CassUuid)
  | inet (v : CassInet)
  | duration (months days : BitVec 32) (nanoseconds : BitVec 64)
  | decimal (v : Pointer) (size : Nat) (scale : BitVec 32)

/- `from_raw_parts`, with a null pointer only for nothing. -/
def pointedBytes (v : Pointer) (size : Nat) : Except CassError (List UInt8) :=
  match v with
  | none => if size ≠ 0 then .error .libBadParams else .ok []
  | some bytes => .ok (bytes.take size)

/-- The value made of the arguments. Null is an empty string, if it is not said to be longer. -/
def ScalarArgument.toCql : ScalarArgument → Except CassError CassScalar
  | .int8 v => .ok (.tinyInt v)
  | .int16 v => .ok (.smallInt v)
  | .int32 v => .ok (.int v)
  | .uint32 v => .ok (.date v)
  | .int64 v => .ok (.bigInt v)
  | .float v => .ok (.float v)
  | .double v => .ok (.double v)
  | .bool v => .ok (.boolean (v ≠ 0))
  | .string v =>
    match v.toStr with
    | .ok s => .ok (.text s)
    | .error .nullPointer => .ok (.text "")
    | .error .invalidUtf8 => .error .libBadParams
  | .stringN v n =>
    match v.toStr n with
    | .ok s => .ok (.text s)
    | .error .nullPointer => if n = 0 then .ok (.text "") else .error .libBadParams
    | .error .invalidUtf8 => .error .libBadParams
  | .bytes v size => (pointedBytes v size).map .blob
  | .uuid v => .ok (.uuid v.toUuid)
  | .inet v =>
    match v.toIpAddr with
    | some addr => .ok (.inet addr)
    | none => .error .libInvalidValueType
  | .duration months days nanoseconds => .ok (.duration ⟨months, days, nanoseconds⟩)
  | .decimal v size scale => (pointedBytes v size).map (fun varint => .decimal ⟨varint, scale⟩)

theorem ScalarArgument.toCql_string (v : CassStrNulTerminated) :
    (ScalarArgument.string v).toCql =
      (ScalarArgument.stringN v.asLenDelimited.1 v.asLenDelimited.2).toCql := by
  simp only [toCql, v.toStr_asLenDelimited]
  obtain ⟨ptr⟩ := v
  cases ptr with
  | none => rfl
  | some bytes =>
    simp only [CassStrNulTerminated.toStr, fromUtf8]
    cases String.fromUTF8? (bytes.takeWhile (· ≠ 0)).toByteArray <;> rfl

end CppRsDriver.Types
