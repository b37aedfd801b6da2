import CppRsDriver.Errors.Code
import CppRsDriver.Result.Iterator
import CppRsDriver.Types.Inet
import CppRsDriver.Uuid.Conversion
import CppRsDriver.Wire.Scalar

/-! The getters of values. Each has one type it reads, or a few; `none` stands for a panic. -/
namespace CppRsDriver.Result

open CppRsDriver.Lib CppRsDriver.Types CppRsDriver.Wire CppRsDriver.Uuid

/-- How the driver underneath deserializes the bytes of a value that is not null, for each of
the types the getters ask for. A `str` of an ASCII column is checked for that as well. -/
structure ScalarDecoder (ε : Type) where
  f32 : List UInt8 → Except ε (BitVec 32)
  f64 : List UInt8 → Except ε (BitVec 64)
  bool : List UInt8 → Except ε Bool
  i8 : List UInt8 → Except ε (BitVec 8)
  i16 : List UInt8 → Except ε (BitVec 16)
  i32 : List UInt8 → Except ε (BitVec 32)
  i64 : List UInt8 → Except ε (BitVec 64)
  counter : List UInt8 → Except ε (BitVec 64)
  time : List UInt8 → Except ε (BitVec 64)
  timestamp : List UInt8 → Except ε (BitVec 64)
  date : List UInt8 → Except ε (BitVec 32)
  uuid : List UInt8 → Except ε StandardUuid
  timeuuid : List UInt8 → Except ε StandardUuid
  ipAddr : List UInt8 → Except ε IpAddr
  decimal : List UInt8 → Except ε CqlDecimal
  str : (ascii : Bool) → List UInt8 → Except ε String
  duration : List UInt8 → Except ε CqlDuration

def NonNullDeserializationError.toCassError {ε : Type} :
    NonNullDeserializationError ε → CassError
  | .isNull => .libNullValue
  | .typecheck => .libInvalidValueType
  | .deserialization _ => .libInvalidData

section Getters
variable {ε α : Type}

/-- A type that deserializes the values of one native type. -/
def nativeTarget (t : NativeType) (deserialize : List UInt8 → Except ε α) :
    ColumnType → Option (List UInt8 → Except ε α)
  | .native typ => if typ = t then some deserialize else none
  | _ => none

def strTarget (s : ScalarDecoder ε) : ColumnType → Option (List UInt8 → Except ε String)
  | .native .ascii => some (s.str true)
  | .native .text => some (s.str false)
  | _ => none

/-- The getters that leave the check of the type to `get_non_null`. A null pointer is
answered like a null. -/
def getChecked (target : ColumnType → Option (List UInt8 → Except ε α)) (value : Option CassValue) :
    Except CassError α :=
  match value with
  | none => .error .libNullValue
  | some val => (val.getNonNull target).mapError NonNullDeserializationError.toCassError

/-- `get_non_null` behind a match on the type: the check of the type cannot fail any more. -/
def getMatched (target : ColumnType → Option (List UInt8 → Except ε α)) (val : CassValue) :
    Option (Except CassError α) :=
  match val.getNonNull target with
  | .ok v => some (.ok v)
  | .error .typecheck => none
  | .error e => some (.error e.toCassError)

variable (s : ScalarDecoder ε)

def cassValueGetFloat : Option CassValue → Except CassError (BitVec 32) :=
  getChecked (nativeTarget .float s.f32)

def cassValueGetDouble : Option CassValue → Except CassError (BitVec 64) :=
  getChecked (nativeTarget .double s.f64)

def cassValueGetBool : Option CassValue → Except CassError Bool :=
  getChecked (nativeTarget .boolean s.bool)

def cassValueGetInt8 : Option CassValue → Except CassError (BitVec 8) :=
  getChecked (nativeTarget .tinyInt s.i8)

def cassValueGetInt16 : Option CassValue → Except CassError (BitVec 16) :=
  getChecked (nativeTarget .smallInt s.i16)

def cassValueGetUint32 : Option CassValue → Except CassError (BitVec 32) :=
  getChecked (nativeTarget .date s.date)

def cassValueGetInt32 : Option CassValue → Except CassError (BitVec 32) :=
  getChecked (nativeTarget .int s.i32)

def cassValueGetInt64 (value : Option CassValue) : Option (Except CassError (BitVec 64)) :=
  match value with
  | none => some (.error .libNullValue)
  | some val =>
    match val.value.typ with
    | .native .bigInt => getMatched (nativeTarget .bigInt s.i64) val
    | .native .counter => getMatched (nativeTarget .counter s.counter) val
    | .native .time => getMatched (nativeTarget .time s.time) val
    | .native .timestamp => getMatched (nativeTarget .timestamp s.timestamp) val
    | _ => some (.error .libInvalidValueType)

def cassValueGetUuid (value : Option CassValue) : Option (Except CassError CassUuid) :=
  match value with
  | none => some (.error .libNullValue)
  | some val =>
    let uuid : Option (Except CassError StandardUuid) := match val.value.typ with
      | .native .uuid => getMatched (nativeTarget .uuid s.uuid) val
      | .native .timeuuid => getMatched (nativeTarget .timeuuid s.timeuuid) val
      | _ => some (.error .libInvalidValueType)
    uuid.map (·.map CassUuid.ofUuid)

def cassValueGetInet (value : Option CassValue) : Except CassError CassInet :=
  (getChecked (nativeTarget .inet s.ipAddr) value).map CassInet.fromIpAddr

def cassValueGetDecimal : Option CassValue → Except CassError CqlDecimal :=
  getChecked (nativeTarget .decimal s.decimal)

def cassValueGetString (value : Option CassValue) : Option (Except CassError String) :=
  match value with
  | none => some (.error .libNullValue)
  | some val =>
    match val.value.typ with
    | .native .ascii | .native .text => getMatched (strTarget s) val
    | _ => some (.error .libInvalidValueType)

def cassValueGetDuration : Option CassValue → Except CassError CqlDuration :=
  getChecked (nativeTarget .duration s.duration)

/- Values of all types have bytes. -/
def cassValueGetBytes (value : Option CassValue) : Except CassError (List UInt8) :=
  match value with
  | none => .error .libNullValue
  | some val =>
    match val.value.slice with
    | none => .error .libNullValue
    | some slice => .ok slice

def cassValueIsNull : Option CassValue → Bool
  | none => false
  | some val => val.value.slice.isNone

end Getters

/-- What a getter writes to the pointers of its caller. -/
inductive Output where
  | float (v : BitVec 32)
  | double (v : BitVec 64)
  | bool (v : Bool)
  | int8 (v : BitVec 8)
  | int16 (v : BitVec 16)
  | uint32 (v : BitVec 32)
  | int32 (v : BitVec 32)
  | int64 (v : BitVec 64)
  | uuid (v : CassUuid)
  | inet (v : CassInet)
  | decimal (v : CqlDecimal)
  | string (v : List UInt8)
  | duration (v : CqlDuration)
  | bytes (v : List UInt8)
  deriving DecidableEq

inductive ValueGetter where
  | float
  | double
  | bool
  | int8
  | int16
  | uint32
  | int32
  | int64
  | uuid
  | inet
  | decimal
  | string
  | duration
  | bytes
  deriving DecidableEq, Repr

section Call
variable {ε : Type} (s : ScalarDecoder ε)

def ValueGetter.call (value : Option CassValue) : ValueGetter → Option (Except CassError Output)
  | .float => some ((cassValueGetFloat s value).map .float)
  | .double => some ((cassValueGetDouble s value).map .double)
  | .bool => some ((cassValueGetBool s value).map .bool)
  | .int8 => some ((cassValueGetInt8 s value).map .int8)
  | .int16 => some ((cassValueGetInt16 s value).map .int16)
  | .uint32 => some ((cassValueGetUint32 s value).map .uint32)
  | .int32 => some ((cassValueGetInt32 s value).map .int32)
  | .int64 => (cassValueGetInt64 s value).map (·.map .int64)
  | .uuid => (cassValueGetUuid s value).map (·.map .uuid)
  | .inet => some ((cassValueGetInet s value).map .inet)
  | .decimal => some ((cassValueGetDecimal s value).map .decimal)
  | .string => (cassValueGetString s value).map (·.map (fun v => .string (utf8 v)))
  | .duration => some ((cassValueGetDuration s value).map .duration)
  | .bytes => some ((cassValueGetBytes value).map .bytes)

/-- What the getters read: the types of column each of them takes, and the bytes under it. -/
def ValueGetter.reads (g : ValueGetter) (typ : ColumnType) : Option (List UInt8 → Except ε Output) :=
  match g with
  | .float => nativeTarget .float (fun bytes => (s.f32 bytes).map .float) typ
  | .double => nativeTarget .double (fun bytes => (s.f64 bytes).map .double) typ
  | .bool => nativeTarget .boolean (fun bytes => (s.bool bytes).map .bool) typ
  | .int8 => nativeTarget .tinyInt (fun bytes => (s.i8 bytes).map .int8) typ
  | .int16 => nativeTarget .smallInt (fun bytes => (s.i16 bytes).map .int16) typ
  | .uint32 => nativeTarget .date (fun bytes => (s.date bytes).map .uint32) typ
  | .int32 => nativeTarget .int (fun bytes => (s.i32 bytes).map .int32) typ
  | .int64 =>
    match typ with
    | .native .bigInt => some (fun bytes => (s.i64 bytes).map .int64)
    | .native .counter => some (fun bytes => (s.counter bytes).map .int64)
    | .native .time => some (fun bytes => (s.time bytes).map .int64)
    | .native .timestamp => some (fun bytes => (s.timestamp bytes).map .int64)
    | _ => none
  | .uuid =>
    match typ with
    | .native .uuid => some (fun bytes => (s.uuid bytes).map (fun v => .uuid (CassUuid.ofUuid v)))
    | .native .timeuuid =>
      some (fun bytes => (s.timeuuid bytes).map (fun v => .uuid (CassUuid.ofUuid v)))
    | _ => none
  | .inet =>
    nativeTarget .inet (fun bytes => (s.ipAddr bytes).map (fun v => .inet (CassInet.fromIpAddr v))) typ
  | .decimal => nativeTarget .decimal (fun bytes => (s.decimal bytes).map .decimal) typ
  | .string =>
    match typ with
    | .native .ascii => some (fun bytes => (s.str true bytes).map (fun v => .string (utf8 v)))
    | .native .text => some (fun bytes => (s.str false bytes).map (fun v => .string (utf8 v)))
    | _ => none
  | .duration => nativeTarget .duration (fun bytes => (s.duration bytes).map .duration) typ
  | .bytes => some (fun bytes => .ok (.bytes bytes))

/-- The getters that look at the type before they look for a null. -/
def ValueGetter.typeFirst : ValueGetter → Bool
  | .int64 | .uuid | .string => true
  | _ => false

end Call

section Answers
variable {ε α : Type} {s : ScalarDecoder ε}

/-- The answer to a call, from what is read and whether there is a value. -/
def answer (typeFirst : Bool) (read : Option (List UInt8 → Except ε α))
    (slice : Option (List UInt8)) : Except CassError α :=
  match slice, read with
  | some bytes, some deserialize => (deserialize bytes).mapError (fun _ => .libInvalidData)
  | some _, none => .error .libInvalidValueType
  | none, some _ => .error .libNullValue
  | none, none => .error (if typeFirst then .libInvalidValueType else .libNullValue)

theorem map_answer {β : Type} (typeFirst : Bool) (read : Option (List UInt8 → Except ε α))
    (slice : Option (List UInt8)) (f : α → β) :
    (answer typeFirst read slice).map f =
      answer typeFirst (read.map (fun deserialize bytes => (deserialize bytes).map f)) slice := by
  cases slice with
  | none => cases read <;> rfl
  | some bytes =>
    cases read with
    | none => rfl
    | some deserialize =>
      simp only [answer, Option.map_some]
      cases deserialize bytes <;> rfl

theorem getChecked_eq (target : ColumnType → Option (List UInt8 → Except ε α)) (v : CassValue) :
    getChecked target (some v) = answer false (target v.value.typ) v.value.slice := by
  simp only [getChecked, CassValue.getNonNull]
  cases v.value.slice with
  | none => cases target v.value.typ <;> rfl
  | some bytes =>
    cases target v.value.typ with
    | none => rfl
    | some deserialize =>
      simp only [answer]
      cases deserialize bytes <;> rfl

theorem getMatched_eq {target : ColumnType → Option (List UInt8 → Except ε α)} {v : CassValue}
    {deserialize : List UInt8 → Except ε α} (matched : target v.value.typ = some deserialize) :
    getMatched target v = some (answer true (some deserialize) v.value.slice) := by
  simp only [getMatched, CassValue.getNonNull, matched]
  cases v.value.slice with
  | none => rfl
  | some bytes =>
    simp only [answer]
    cases deserialize bytes <;> rfl

theorem checked_call (t : NativeType) (deserialize : List UInt8 → Except ε α) (out : α → Output)
    (v : CassValue) :
    (getChecked (nativeTarget t deserialize) (some v)).map out =
      answer false (nativeTarget t (fun bytes => (deserialize bytes).map out) v.value.typ)
        v.value.slice := by
  rw [getChecked_eq, map_answer]
  congr 1
  unfold nativeTarget
  split
  · split <;> rfl
  · rfl

theorem matched_call {target : ColumnType → Option (List UInt8 → Except ε α)} {v : CassValue}
    {deserialize : List UInt8 → Except ε α} (out : α → Output)
    (matched : target v.value.typ = some deserialize) :
    (getMatched target v).map (·.map out) =
      some (answer true (some (fun bytes => (deserialize bytes).map out)) v.value.slice) := by
  rw [getMatched_eq matched, Option.map_some, map_answer, Option.map_some]

theorem refused_call (out : α → Output) (slice : Option (List UInt8)) :
    Option.map (fun got => Except.map out got) (some (Except.error CassError.libInvalidValueType)) =
      some (answer true (none : Option (List UInt8 → Except ε Output)) slice) := by
  cases slice <;> rfl

theorem call_int64 (v : CassValue) : ValueGetter.int64.call s (some v) =
    some (answer true (ValueGetter.int64.reads s v.value.typ) v.value.slice) := by
  simp only [ValueGetter.call, cassValueGetInt64, ValueGetter.reads]
  split
  · rename_i is
    exact matched_call .int64 (by rw [is]; rfl)
  · rename_i is
    exact matched_call .int64 (by rw [is]; rfl)
  · rename_i is
    exact matched_call .int64 (by rw [is]; rfl)
  · rename_i is
    exact matched_call .int64 (by rw [is]; rfl)
  · exact refused_call .int64 _

theorem call_uuid (v : CassValue) : ValueGetter.uuid.call s (some v) =
    some (answer true (ValueGetter.uuid.reads s v.value.typ) v.value.slice) := by
  simp only [ValueGetter.call, cassValueGetUuid, ValueGetter.reads, Option.map_map]
  have converted : (fun got : Except CassError CassUuid => got.map Output.uuid) ∘
      (fun got : Except CassError StandardUuid => got.map CassUuid.ofUuid) =
      fun got => got.map (fun v => Output.uuid (CassUuid.ofUuid v)) := by
    funext got
    cases got <;> rfl
  rw [converted]
  split
  · rename_i is
    exact matched_call _ (by rw [is]; rfl)
  · rename_i is
    exact matched_call _ (by rw [is]; rfl)
  · exact refused_call _ _

theorem call_string (v : CassValue) : ValueGetter.string.call s (some v) =
    some (answer true (ValueGetter.string.reads s v.value.typ) v.value.slice) := by
  simp only [ValueGetter.call, cassValueGetString, ValueGetter.reads]
  split
  · rename_i is
    exact matched_call _ (by rw [is]; rfl)
  · rename_i is
    exact matched_call _ (by rw [is]; rfl)
  · exact refused_call _ _

theorem call_inet (v : CassValue) : ValueGetter.inet.call s (some v) =
    some (answer false (ValueGetter.inet.reads s v.value.typ) v.value.slice) := by
  have converted (got : Except CassError IpAddr) :
      (got.map CassInet.fromIpAddr).map Output.inet =
        got.map (fun v => Output.inet (CassInet.fromIpAddr v)) := by
    cases got <;> rfl
  simp only [ValueGetter.call, cassValueGetInet, converted, checked_call, ValueGetter.reads]

theorem call_bytes (v : CassValue) : ValueGetter.bytes.call s (some v) =
    some (answer false (ValueGetter.bytes.reads s v.value.typ) v.value.slice) := by
  simp only [ValueGetter.call, cassValueGetBytes, ValueGetter.reads]
  cases v.value.slice <;> rfl

/-- Every getter follows the table: it never panics, refuses the types it does not read, and
answers for the others by the bytes alone. -/
theorem ValueGetter.call_eq (g : ValueGetter) (v : CassValue) :
    g.call s (some v) = some (answer g.typeFirst (g.reads s v.value.typ) v.value.slice) := by
  cases g with
  | int64 => exact call_int64 v
  | uuid => exact call_uuid v
  | string => exact call_string v
  | inet => exact call_inet v
  | bytes => exact call_bytes v
  | _ => exact congrArg some (checked_call _ _ _ v)

end Answers

def nanosecondsPerDay : Nat := 86400 * 10 ^ 9

/-- The scalars a column holds: a time of day is less than a day, the text of an ASCII column
is ASCII. -/
structure Stored (t : NativeType) (x : CassScalar) : Prop where
  compatible : x.isTypeCompatible t.toValueType = true
  time : ∀ v, t = .time → x = .bigInt v → v.toNat < nanosecondsPerDay
  ascii : ∀ v, t = .ascii → x = .text v → ∀ b ∈ utf8 v, b < 128

/-- The driver underneath deserializes what a column holds. -/
structure ReadsScalars {ε : Type} (s : ScalarDecoder ε) : Prop where
  f32 : ∀ v, s.f32 (scalarBytes (.float v)) = .ok v
  f64 : ∀ v, s.f64 (scalarBytes (.double v)) = .ok v
  bool : ∀ v, s.bool (scalarBytes (.boolean v)) = .ok v
  i8 : ∀ v, s.i8 (scalarBytes (.tinyInt v)) = .ok v
  i16 : ∀ v, s.i16 (scalarBytes (.smallInt v)) = .ok v
  i32 : ∀ v, s.i32 (scalarBytes (.int v)) = .ok v
  i64 : ∀ v, s.i64 (scalarBytes (.bigInt v)) = .ok v
  counter : ∀ v, s.counter (scalarBytes (.bigInt v)) = .ok v
  time : ∀ v, v.toNat < nanosecondsPerDay → s.time (scalarBytes (.bigInt v)) = .ok v
  timestamp : ∀ v, s.timestamp (scalarBytes (.bigInt v)) = .ok v
  date : ∀ v, s.date (scalarBytes (.date v)) = .ok v
  uuid : ∀ v, s.uuid (scalarBytes (.uuid v)) = .ok v
  timeuuid : ∀ v, s.timeuuid (scalarBytes (.uuid v)) = .ok v
  ipAddr : ∀ v, s.ipAddr (scalarBytes (.inet v)) = .ok v
  decimal : ∀ v, s.decimal (scalarBytes (.decimal v)) = .ok v
  ascii : ∀ v, (∀ b ∈ utf8 v, b < 128) → s.str true (utf8 v) = .ok v
  text : ∀ v, s.str false (utf8 v) = .ok v
  duration : ∀ v, s.duration (scalarBytes (.duration v)) = .ok v

/-- The getter for a type; the types without one of their own have their bytes. -/
def getterOf : NativeType → ValueGetter
  | .ascii | .text => .string
  | .boolean => .bool
  | .blob | .varint => .bytes
  | .bigInt | .counter | .time | .timestamp => .int64
  | .date => .uint32
  | .decimal => .decimal
  | .double => .double
  | .duration => .duration
  | .float => .float
  | .int => .int32
  | .inet => .inet
  | .smallInt => .int16
  | .tinyInt => .int8
  | .timeuuid | .uuid => .uuid

/-- What a client sees of a scalar in a column of this type. -/
def outputOf (t : NativeType) : CassScalar → Output
  | .tinyInt v => .int8 v
  | .smallInt v => .int16 v
  | .int v => .int32 v
  | .bigInt v => .int64 v
  | .float v => .float v
  | .double v => .double v
  | .boolean v => .bool v
  | .text v => if getterOf t = .string then .string (utf8 v) else .bytes (utf8 v)
  | .blob v => if getterOf t = .string then .string v else .bytes v
  | .uuid v => .uuid (CassUuid.ofUuid v)
  | .date v => .uint32 v
  | .inet v => .inet (CassInet.fromIpAddr v)
  | .duration v => .duration v
  | .decimal v => .decimal v

section Stored
variable {ε α : Type} {s : ScalarDecoder ε} {t : NativeType} {x : CassScalar}

theorem map_ok {β : Type} {read : Except ε α} {v : α} (f : α → β) (is : read = .ok v) :
    read.map f = .ok (f v) := by
  rw [is]
  rfl

/- Text may be held by columns of strings and of bytes. -/
theorem reads_text (reads : ReadsScalars s) {v : String} (stored : Stored t (.text v)) :
    ∃ read, (getterOf t).reads s (.native t) = some read ∧
      read (scalarBytes (.text v)) = .ok (outputOf t (.text v)) := by
  have compatible := stored.compatible
  cases t with
  | ascii => exact ⟨_, rfl, map_ok _ (reads.ascii v (stored.ascii v rfl rfl))⟩
  | text => exact ⟨_, rfl, map_ok _ (reads.text v)⟩
  | blob | varint => exact ⟨_, rfl, rfl⟩
  | _ => cases compatible

theorem reads_bigInt (reads : ReadsScalars s) {v : BitVec 64} (stored : Stored t (.bigInt v)) :
    ∃ read, (getterOf t).reads s (.native t) = some read ∧
      read (scalarBytes (.bigInt v)) = .ok (outputOf t (.bigInt v)) := by
  have compatible := stored.compatible
  cases t with
  | bigInt => exact ⟨_, rfl, map_ok _ (reads.i64 v)⟩
  | counter => exact ⟨_, rfl, map_ok _ (reads.counter v)⟩
  | time => exact ⟨_, rfl, map_ok _ (reads.time v (stored.time v rfl rfl))⟩
  | timestamp => exact ⟨_, rfl, map_ok _ (reads.timestamp v)⟩
  | _ => cases compatible

theorem getterOf_reads (reads : ReadsScalars s) (stored : Stored t x) :
    ∃ read, (getterOf t).reads s (.native t) = some read ∧
      read (scalarBytes x) = .ok (outputOf t x) := by
  have compatible := stored.compatible
  cases x with
  | text v => exact reads_text reads stored
  | bigInt v => exact reads_bigInt reads stored
  | blob v => cases t <;> first | (cases compatible; done) | exact ⟨_, rfl, rfl⟩
  | tinyInt v => cases t <;> first | (cases compatible; done) | exact ⟨_, rfl, map_ok _ (reads.i8 v)⟩
  | smallInt v => cases t <;> first | (cases compatible; done) | exact ⟨_, rfl, map_ok _ (reads.i16 v)⟩
  | int v => cases t <;> first | (cases compatible; done) | exact ⟨_, rfl, map_ok _ (reads.i32 v)⟩
  | float v => cases t <;> first | (cases compatible; done) | exact ⟨_, rfl, map_ok _ (reads.f32 v)⟩
  | double v => cases t <;> first | (cases compatible; done) | exact ⟨_, rfl, map_ok _ (reads.f64 v)⟩
  | boolean v => cases t <;> first | (cases compatible; done) | exact ⟨_, rfl, map_ok _ (reads.bool v)⟩
  | uuid v =>
    cases t with
    | uuid => exact ⟨_, rfl, map_ok _ (reads.uuid v)⟩
    | timeuuid => exact ⟨_, rfl, map_ok _ (reads.timeuuid v)⟩
    | _ => cases compatible
  | date v => cases t <;> first | (cases compatible; done) | exact ⟨_, rfl, map_ok _ (reads.date v)⟩
  | inet v => cases t <;> first | (cases compatible; done) | exact ⟨_, rfl, map_ok _ (reads.ipAddr v)⟩
  | duration v =>
    cases t <;> first | (cases compatible; done) | exact ⟨_, rfl, map_ok _ (reads.duration v)⟩
  | decimal v =>
    cases t <;> first | (cases compatible; done) | exact ⟨_, rfl, map_ok _ (reads.decimal v)⟩

/-- A varint given without bytes: its cell is empty. -/
def isHollow (t : NativeType) (x : CassScalar) : Bool := t == .varint && (scalarBytes x).isEmpty

theorem scalarBytes_nonempty (compatible : x.isTypeCompatible t.toValueType = true)
    (drops : keepsEmpty (.native t) = false) (other : t ≠ .varint) : scalarBytes x ≠ [] := by
  intro empty
  have length := congrArg List.length empty
  cases x with
  | text | blob | duration => cases t <;> contradiction
  | inet addr => cases addr <;> simp [scalarBytes, inetBytes] at length
  | _ => simp [scalarBytes] at length

theorem emptyToNull_stored (compatible : x.isTypeCompatible t.toValueType = true) :
    emptyToNull (.native t) (some (scalarBytes x)) =
      if isHollow t x then none else some (scalarBytes x) := by
  unfold emptyToNull isHollow
  by_cases drops : keepsEmpty (.native t) = false
  · rw [drops, if_neg Bool.false_ne_true, Option.filter_some]
    by_cases is : t = .varint
    · subst is
      cases (scalarBytes x).isEmpty <;> rfl
    · have full : (scalarBytes x).isEmpty = false := by
        rw [List.isEmpty_eq_false_iff]
        exact scalarBytes_nonempty compatible drops is
      rw [full, Bool.and_false]
      rfl
  · have keeps : keepsEmpty (.native t) = true := Bool.not_eq_false _ ▸ drops
    have other : (t == .varint) = false := by
      cases t <;> first | rfl | cases keeps
    rw [keeps, if_pos rfl, other, Bool.false_and]
    rfl

theorem emptyToNull_none (c : ColumnType) : emptyToNull c none = none := by
  unfold emptyToNull
  split <;> rfl

theorem emptyToNull_empty {c : ColumnType} (emptiable : keepsEmpty c = false) :
    emptyToNull c (some []) = none := by
  rw [emptyToNull, emptiable, if_neg Bool.false_ne_true]
  rfl

theorem deserialize_native (t : NativeType) (slice : Option (List UInt8)) :
    CassRawValue.deserialize (.native t) slice =
      .ok ⟨.native t, emptyToNull (.native t) slice, none⟩ := by
  unfold CassRawValue.deserialize
  dsimp only
  cases emptyToNull (.native t) slice <;> rfl

theorem reads_other {g : ValueGetter} (other : g ≠ getterOf t) (typed : g ≠ .bytes) :
    g.reads s (.native t) = none := by
  cases g <;> cases t <;> first | rfl | exact absurd rfl other | exact absurd rfl typed

variable (s t) in
theorem reads_own : ∃ read, (getterOf t).reads s (.native t) = some read := by
  cases t <;> exact ⟨_, rfl⟩

end Stored

/-- The answers for a cell of a column. -/
def expected (t : NativeType) (g : ValueGetter) : Option CassScalar → Except CassError Output
  | some x =>
    if g = getterOf t then .ok (outputOf t x)
    else if g = .bytes then .ok (.bytes (scalarBytes x))
    else .error .libInvalidValueType
  | none => .error (if g.typeFirst ∧ g ≠ getterOf t then .libInvalidValueType else .libNullValue)

section Expected
variable {ε : Type} {s : ScalarDecoder ε} {t : NativeType}

theorem answer_stored (reads : ReadsScalars s) {x : CassScalar} (stored : Stored t x) (g : ValueGetter) :
    answer g.typeFirst (g.reads s (.native t)) (some (scalarBytes x)) = expected t g (some x) := by
  rw [expected]
  by_cases own : g = getterOf t
  · obtain ⟨read, is, got⟩ := getterOf_reads reads stored
    rw [own, is, if_pos rfl]
    simp only [answer, got]
    rfl
  · rw [if_neg own]
    by_cases bytes : g = .bytes
    · subst bytes
      rfl
    · rw [if_neg bytes, reads_other own bytes]
      rfl

end Expected

/-! The readers of the format as a decoder. -/

def readOr {α : Type} (read : Option α) : Except Unit α := read.elim (.error ()) .ok

def decodeStr (ascii : Bool) (bytes : List UInt8) : Option String :=
  if ascii && !bytes.all (· < 128) then none else String.fromUTF8? bytes.toByteArray

def formatScalars : ScalarDecoder Unit where
  f32 bytes := readOr ((readBits 32).complete bytes)
  f64 bytes := readOr ((readBits 64).complete bytes)
  bool bytes := readOr ((Reader.byte.complete bytes).map (· != 0))
  i8 bytes := readOr ((readBits 8).complete bytes)
  i16 bytes := readOr ((readBits 16).complete bytes)
  i32 bytes := readOr ((readBits 32).complete bytes)
  i64 bytes := readOr ((readBits 64).complete bytes)
  counter bytes := readOr ((readBits 64).complete bytes)
  time bytes := readOr (((readBits 64).complete bytes).filter (fun v => v.toNat < nanosecondsPerDay))
  timestamp bytes := readOr ((readBits 64).complete bytes)
  date bytes := readOr ((readBits 32).complete bytes)
  uuid bytes := readOr ((readBits 128).complete bytes)
  timeuuid bytes := readOr ((readBits 128).complete bytes)
  ipAddr bytes := readOr (decodeInet bytes)
  decimal bytes := readOr (decodeDecimal bytes)
  str ascii bytes := readOr (decodeStr ascii bytes)
  duration bytes := readOr (readDuration.complete bytes)

theorem readOr_some {α : Type} {read : Option α} {v : α} (is : read = some v) :
    readOr read = .ok v := by
  rw [is]
  rfl

theorem readOr_bits {w n : Nat} (whole : w = 8 * n) (v : BitVec w) :
    readOr ((readBits w).complete (beBytes n v.toNat)) = .ok v :=
  readOr_some (complete_readBits whole v)

theorem decodeStr_utf8 (ascii : Bool) (v : String) (fits : ascii = true → ∀ b ∈ utf8 v, b < 128) :
    decodeStr ascii (utf8 v) = some v := by
  have bytes : (utf8 v).toByteArray = v.toByteArray := by
    apply ByteArray.ext
    apply Array.toList_inj.mp
    rw [List.toList_data_toByteArray, utf8, String.toUTF8_eq_toByteArray]
  have passes : (ascii && !(utf8 v).all (· < 128)) = false := by
    cases ascii with
    | false => rfl
    | true =>
      have all : (utf8 v).all (· < 128) = true := by
        rw [List.all_eq_true]
        intro b member
        exact decide_eq_true (fits rfl b member)
      rw [all]
      rfl
  rw [decodeStr, passes, bytes, if_neg Bool.false_ne_true, String.fromUTF8?, dif_pos v.isValidUTF8]
  rfl

theorem formatScalars_reads : ReadsScalars formatScalars where
  f32 v := readOr_bits (n := 4) rfl v
  f64 v := readOr_bits (n := 8) rfl v
  bool v := by cases v <;> rfl
  i8 v := readOr_bits (n := 1) rfl v
  i16 v := readOr_bits (n := 2) rfl v
  i32 v := readOr_bits (n := 4) rfl v
  i64 v := readOr_bits (n := 8) rfl v
  counter v := readOr_bits (n := 8) rfl v
  time v small := by
    refine readOr_some ?_
    rw [scalarBytes, complete_readBits (n := 8) rfl v, Option.filter_some, if_pos (decide_eq_true small)]
  timestamp v := readOr_bits (n := 8) rfl v
  date v := readOr_bits (n := 4) rfl v
  uuid v := readOr_bits (n := 16) rfl v
  timeuuid v := readOr_bits (n := 16) rfl v
  ipAddr v := readOr_some (decodeInet_inetBytes v)
  decimal v := readOr_some (decodeDecimal_bytes v)
  ascii v small := readOr_some (decodeStr_utf8 true v (fun _ => small))
  text v := readOr_some (decodeStr_utf8 false v (by rintro ⟨⟩))
  duration v := readOr_some (complete_readDuration v)

end CppRsDriver.Result
