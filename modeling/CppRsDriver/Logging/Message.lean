import CppRsDriver.Basic
import CppRsDriver.Lib.Utf8

/-! Log messages for C: the text of an event cut to the array it is handed out in, and what the
callback that prints messages reads from the array again. -/
namespace CppRsDriver.Logging

open CppRsDriver.Lib

/-- `u8::is_utf8_char_boundary` of the standard library. -/
def isUtf8CharBoundary (b : UInt8) : Bool := decide (-0x40 ≤ b.toInt8.toInt)

/-- `str::is_char_boundary` of the standard library. -/
def isCharBoundary (s : String) (index : Nat) : Bool :=
  if index = 0 then true
  else
    match (utf8Bytes s)[index]? with
    | none => index == (utf8Bytes s).length
    | some b => isUtf8CharBoundary b

/-- The loop that looks for the boundary; `none` if `max_len` would underflow. -/
def backToBoundary (s : String) : Nat → Option Nat
  | 0 => if isCharBoundary s 0 then some 0 else none
  | maxLen + 1 =>
    if isCharBoundary s (maxLen + 1) then some (maxLen + 1) else backToBoundary s maxLen

/-- `result[i] = c`, which panics behind the end of the array. -/
def assign (result : List UInt8) (i : Nat) (c : UInt8) : Option (List UInt8) :=
  if i < result.length then some (result.set i c) else none

/-- `str_to_arr`. A `c_char` is kept as the byte it is cast from; `none` is a panic. -/
def strToArr (n : Nat) (s : String) : Option (List UInt8) :=
  if n = 0 then none
  else do
    let maxLen ← backToBoundary s (min (n - 1) (utf8Bytes s).length)
    ((utf8Bytes s).zipIdx.take maxLen).foldlM (fun result item => assign result item.2 item.1)
      (List.replicate n 0)

section Truncation
variable {s : String}

theorem isUtf8CharBoundary_eq (b : UInt8) : isUtf8CharBoundary b = !isContinuation b := by
  revert b
  apply forall_byte
  decide +kernel

theorem isCharBoundary_iff {index : Nat} : isCharBoundary s index = true ↔ Boundary s index := by
  unfold isCharBoundary
  split
  · rename_i zero
    rw [zero]
    exact ⟨fun _ => boundary_zero, fun _ => rfl⟩
  · rw [boundary_iff]
    split
    · rename_i behind
      simp [behind]
    · rename_i b at'
      have inside := (List.getElem?_eq_some_iff.mp at').1
      rw [at', isUtf8CharBoundary_eq]
      constructor
      · intro begins
        exact .inr ⟨b, rfl, by simpa using begins⟩
      · rintro (last | ⟨b', same, begins⟩)
        · omega
        · cases same
          simpa using begins

/-- The loop stops at the last boundary, at the latest in front of the first byte. -/
theorem backToBoundary_eq (maxLen : Nat) : ∃ k, backToBoundary s maxLen = some k ∧
    Boundary s k ∧ k ≤ maxLen ∧ ∀ j, Boundary s j → j ≤ maxLen → j ≤ k := by
  induction maxLen with
  | zero =>
    have start := isCharBoundary_iff.mpr (boundary_zero (s := s))
    exact ⟨0, by rw [backToBoundary, if_pos start], boundary_zero, Nat.le_refl 0, fun _ _ le => le⟩
  | succ maxLen ih =>
    rw [backToBoundary]
    split
    · rename_i boundary
      exact ⟨maxLen + 1, rfl, isCharBoundary_iff.mp boundary, Nat.le_refl _, fun _ _ le => le⟩
    · rename_i inside
      obtain ⟨k, found, boundary, le, greatest⟩ := ih
      refine ⟨k, found, boundary, Nat.le_succ_of_le le, fun j other within => ?_⟩
      have ne : j ≠ maxLen + 1 := by
        rintro rfl
        exact inside (isCharBoundary_iff.mpr other)
      exact greatest j other (by omega)

/- The loop that copies writes behind what is done and leaves what is further behind. -/
theorem copy_eq (bytes : List UInt8) : ∀ (k : Nat) (done slots : List UInt8),
    (bytes.take k).length ≤ slots.length →
    ((bytes.zipIdx done.length).take k).foldlM (fun result item => assign result item.2 item.1)
      (done ++ slots) = some (done ++ bytes.take k ++ slots.drop (bytes.take k).length) := by
  induction bytes with
  | nil =>
    intro k done slots fits
    simp
  | cons b bytes ih =>
    intro k done slots fits
    cases k with
    | zero => simp
    | succ k =>
      cases slots with
      | nil => cases fits
      | cons slot slots =>
        have inside : done.length < (done ++ slot :: slots).length := by simp
        have written : (done ++ slot :: slots).set done.length b = (done ++ [b]) ++ slots := by simp
        have position : done.length + 1 = (done ++ [b]).length := by simp
        rw [List.zipIdx_cons, List.take_succ_cons, List.foldlM_cons, assign, if_pos inside, written,
          position, Option.bind_eq_bind, Option.bind_some, ih k _ _ (Nat.le_of_succ_le_succ fits),
          List.take_succ_cons, List.length_cons, List.drop_succ_cons, List.append_assoc done [b]]
        rfl

theorem strToArr_eq {n : Nat} (positive : 1 ≤ n) (s : String) :
    ∃ front, LongestWithin (n - 1) s front ∧ strToArr n s =
      some (utf8Bytes front ++ List.replicate (n - (utf8Bytes front).length) 0) := by
  obtain ⟨k, found, ⟨front, back, rfl, rfl⟩, le, greatest⟩ :=
    backToBoundary_eq (s := s) (min (n - 1) (utf8Bytes s).length)
  have within : (utf8Bytes front).length ≤ n - 1 := Nat.le_trans le (Nat.min_le_left _ _)
  refine ⟨front, ⟨⟨back, rfl⟩, within, ?_⟩, ?_⟩
  · intro other rest is fits
    have boundary : Boundary (front ++ back) (utf8Bytes other).length := ⟨other, rest, is, rfl⟩
    exact greatest _ boundary (Nat.le_min.mpr ⟨fits, boundary.le⟩)
  · have taken : (utf8Bytes (front ++ back)).take (utf8Bytes front).length = utf8Bytes front := by
      rw [utf8Bytes_append, List.take_left]
    have copied := copy_eq (utf8Bytes (front ++ back)) (utf8Bytes front).length []
      (List.replicate n 0) (by rw [taken, List.length_replicate]; omega)
    rw [taken, List.drop_replicate] at copied
    rw [strToArr, if_neg (by omega), found]
    exact copied

end Truncation

/-- `CassStrNulTerminated::to_str` at the start of memory that ends with the array; `none` if the
scan for the terminator runs out of it. -/
def toStr (memory : List UInt8) : Option CassStr :=
  if 0 ∈ memory then
    match String.fromUTF8? (memory.takeWhile (· ≠ 0)).toByteArray with
    | some text => some (.ok text)
    | none => some (.error .invalidUtf8)
  else none

theorem fromUTF8?_utf8Bytes (s : String) : String.fromUTF8? (utf8Bytes s).toByteArray = some s := by
  rw [toByteArray_utf8Bytes, String.fromUTF8?, dif_pos s.isValidUTF8]
  rfl

theorem toStr_padded (text : String) {padding : Nat} (positive : 0 < padding) :
    toStr (utf8Bytes text ++ List.replicate padding 0) = some (.ok (beforeNul text)) := by
  have terminated : 0 ∈ utf8Bytes text ++ List.replicate padding 0 :=
    List.mem_append_right _ (List.mem_replicate.mpr ⟨by omega, rfl⟩)
  have front : (utf8Bytes text ++ List.replicate padding 0).takeWhile (· ≠ 0) =
      utf8Bytes (beforeNul text) := by
    have zeros : (List.replicate padding (0 : UInt8)).takeWhile (· ≠ 0) = [] := by
      cases padding <;> rfl
    rw [List.takeWhile_append, zeros, List.append_nil, ← takeWhile_utf8Bytes]
    split
    · rename_i all
      exact ((List.takeWhile_prefix _).eq_of_length all).symm
    · rfl
  rw [toStr, if_pos terminated, front, fromUTF8?_utf8Bytes]

/-- The array holds the longest text in front of the string that leaves room for a zero, and
nothing but zeros behind it; as a C string it is read without an error. -/
theorem str_to_arr_truncates (n : Nat) (positive : 1 ≤ n) (s : String) :
    ∃ arr front, strToArr n s = some arr ∧ arr.length = n ∧ LongestWithin (n - 1) s front ∧
      arr = utf8Bytes front ++ List.replicate (n - (utf8Bytes front).length) 0 ∧
      toStr arr = some (.ok (beforeNul front)) := by
  obtain ⟨front, longest, is⟩ := strToArr_eq positive s
  have fits := longest.fits
  refine ⟨_, front, is, ?_, longest, rfl, toStr_padded front (by omega)⟩
  rw [List.length_append, List.length_replicate]
  omega

/- Two bytes of the character that does not fit are dropped. -/
theorem str_to_arr_truncates_mid_character :
    ∃ arr front, strToArr 4 "a€" = some arr ∧ arr.length = 4 ∧ LongestWithin 3 "a€" front ∧
      arr = utf8Bytes front ++ List.replicate (4 - (utf8Bytes front).length) 0 ∧
      toStr arr = some (.ok (beforeNul front)) :=
  str_to_arr_truncates 4 (by decide) "a€"

example : strToArr 4 "a€" = some [0x61, 0, 0, 0] := by decide

/-- `tracing::Level`. -/
inductive Level where
  | trace
  | debug
  | info
  | warn
  | error
  deriving DecidableEq, Repr

inductive CassLogLevel where
  | disabled
  | critical
  | error
  | warn
  | info
  | debug
  | trace
  | lastEntry
  deriving DecidableEq, Repr

/-- `From<Level> for CassLogLevel`. -/
def CassLogLevel.ofLevel : Level → CassLogLevel
  | .trace => .trace
  | .debug => .debug
  | .info => .info
  | .warn => .warn
  | .error => .error

def cassLogLevelString : CassLogLevel → String
  | .trace => "TRACE"
  | .debug => "DEBUG"
  | .info => "INFO"
  | .warn => "WARN"
  | .error => "ERROR"
  | .critical => "CRITICAL"
  | .disabled => "DISABLED"
  | .lastEntry => ""

/-- What the layer reads of a tracing event; the values are given as their `Debug` texts. -/
structure Event where
  target : String
  level : Level
  line : Option UInt32
  fields : List (String × String)

/-- A message; pointers are given as the memory they point to. -/
structure CassLogMessage where
  timeMs : UInt64
  severity : CassLogLevel
  file : List UInt8
  line : Int32
  function : List UInt8
  message : List UInt8

def cassLogMaxMessageSize : Nat := 1024

/-- `PrintlnVisitor::record_debug`. -/
def recordDebug (logMessage : String) (field : String × String) : String :=
  if logMessage.isEmpty then logMessage ++ field.1 ++ ": " ++ field.2
  else logMessage ++ ", " ++ field.1 ++ ": " ++ field.2

def Event.text (event : Event) : String := event.fields.foldl recordDebug ""

/-- `CustomLayer::on_event` up to the call of the callback, at so many milliseconds since the
epoch; `none` is a clock before it, and a panic. -/
def onEvent (sinceTheEpoch : Option Nat) (event : Event) : Option CassLogMessage := do
  let logTimeMs := UInt64.ofNat (← sinceTheEpoch)
  let empty ← strToArr cassLogMaxMessageSize ""
  let logMessage : CassLogMessage :=
    { timeMs := logTimeMs
      severity := .ofLevel event.level
      file := utf8Bytes (event.target ++ "\x00")
      line := (event.line.getD 0).toInt32
      function := utf8Bytes "\x00"
      message := empty }
  let message ← strToArr cassLogMaxMessageSize (event.text ++ "\x00")
  return { logMessage with message := message }

/-- A string that `expect` finds at the memory. -/
def expectStr (memory : List UInt8) : Option String := (toStr memory).bind Except.toOption

/-- `stderr_log_callback`: the line it prints, or `none` for a panic. -/
def stderrLogCallback (message : CassLogMessage) : Option String := do
  let level ← expectStr (utf8Bytes (cassLogLevelString message.severity ++ "\x00"))
  let file ← expectStr message.file
  let text ← expectStr message.message
  return toString message.timeMs.toNat ++ " [" ++ level ++ "] (" ++ file ++ ":" ++
    toString message.line.toInt ++ ") " ++ text

theorem expectStr_padded (text : String) {padding : Nat} (positive : 0 < padding) :
    expectStr (utf8Bytes text ++ List.replicate padding 0) = some (beforeNul text) := by
  rw [expectStr, toStr_padded text positive]
  rfl

theorem expectStr_terminated (text : String) :
    expectStr (utf8Bytes (text ++ "\x00")) = some (beforeNul text) := by
  rw [utf8Bytes_append]
  exact expectStr_padded text Nat.one_pos

/-- The callback prints a line for every event, with as much of its text as the array holds. -/
theorem stderr_log_callback_prints (millis : Nat) (event : Event) :
    ∃ front, LongestWithin 1023 (event.text ++ "\x00") front ∧
      (onEvent (some millis) event).bind stderrLogCallback =
        some (toString (UInt64.ofNat millis).toNat ++ " [" ++
          cassLogLevelString (.ofLevel event.level) ++ "] (" ++ beforeNul event.target ++ ":" ++
          toString (event.line.getD 0).toInt32.toInt ++ ") " ++ beforeNul front) := by
  obtain ⟨_, -, empty⟩ := strToArr_eq (n := cassLogMaxMessageSize) (by decide) ""
  obtain ⟨front, longest, is⟩ :=
    strToArr_eq (n := cassLogMaxMessageSize) (by decide) (event.text ++ "\x00")
  refine ⟨front, longest, ?_⟩
  have fits : (utf8Bytes front).length ≤ 1023 := longest.fits
  have room : 0 < cassLogMaxMessageSize - (utf8Bytes front).length := Nat.sub_pos_of_lt (by
    rw [cassLogMaxMessageSize]
    omega)
  have level : beforeNul (cassLogLevelString (.ofLevel event.level)) =
      cassLogLevelString (.ofLevel event.level) := by
    cases event.level <;> rfl
  simp only [onEvent, empty, is, Option.bind_eq_bind, Option.bind_some, Option.pure_def,
    stderrLogCallback, expectStr_terminated, expectStr_padded front room, level]

end CppRsDriver.Logging
