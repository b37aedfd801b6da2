import CppRsDriver.Lib.Bytes

/-! Strings as the bytes of their characters: where one text ends and the next begins, and the
text in front of the first NUL. -/
namespace CppRsDriver.Lib

def utf8Bytes (s : String) : List UInt8 := s.toByteArray.data.toList

/-- A byte that does not begin a character. -/
def isContinuation (b : UInt8) : Bool := 0x80 ≤ b.toNat && b.toNat < 0xC0

/-- The string is cut between characters after this many bytes. -/
def Boundary (s : String) (k : Nat) : Prop :=
  ∃ front back, s = front ++ back ∧ (utf8Bytes front).length = k

/-- The string starts with this text, and with no longer one of so many bytes. -/
structure LongestWithin (limit : Nat) (s front : String) : Prop where
  starts : ∃ back, s = front ++ back
  fits : (utf8Bytes front).length ≤ limit
  longest : ∀ other back, s = other ++ back → (utf8Bytes other).length ≤ limit →
    (utf8Bytes other).length ≤ (utf8Bytes front).length

/-- The text in front of the first NUL. -/
def beforeNul (s : String) : String := String.ofList (s.toList.takeWhile (· ≠ '\x00'))

section Bytes

theorem utf8Bytes_append (s t : String) : utf8Bytes (s ++ t) = utf8Bytes s ++ utf8Bytes t := by
  rw [utf8Bytes, String.toByteArray_append, ByteArray.toList_data_append, utf8Bytes, utf8Bytes]

theorem utf8Bytes_ofList (text : List Char) :
    utf8Bytes (String.ofList text) = text.flatMap String.utf8EncodeChar := by
  rw [utf8Bytes, String.toByteArray_ofList, List.utf8Encode, List.toList_data_toByteArray]

theorem utf8Bytes_eq_flatMap (s : String) :
    utf8Bytes s = s.toList.flatMap String.utf8EncodeChar := by
  rw [← utf8Bytes_ofList, String.ofList_toList]

theorem toByteArray_utf8Bytes (s : String) : (utf8Bytes s).toByteArray = s.toByteArray := by
  apply ByteArray.ext
  apply Array.toList_inj.mp
  rw [List.toList_data_toByteArray, utf8Bytes]

/- A character of one byte is that byte; the bytes of the others begin with a one, but with no
more than four of them. -/
theorem mem_encodeChar {c : Char} {b : UInt8} (member : b ∈ String.utf8EncodeChar c) :
    b.toNat = c.val.toNat ∧ b.toNat < 128 ∨ 128 ≤ b.toNat ∧ b.toNat < 248 := by
  have above (n : Nat) (low : 128 ≤ n) (high : n < 248) (is : b = UInt8.ofNat n) :
      128 ≤ b.toNat ∧ b.toNat < 248 := by
    rw [is, UInt8.toNat_ofNat', Nat.mod_eq_of_lt (by omega)]
    exact ⟨low, high⟩
  rw [String.utf8EncodeChar.eq_1] at member
  split at member
  · rename_i ascii
    left
    rw [List.mem_singleton.mp member, UInt8.toNat_ofNat', Nat.mod_eq_of_lt (by omega)]
    exact ⟨rfl, by omega⟩
  · right
    split at member
    · simp only [List.mem_cons, List.not_mem_nil, or_false] at member
      rcases member with is | is <;> exact above _ (by omega) (by omega) is
    · split at member
      · simp only [List.mem_cons, List.not_mem_nil, or_false] at member
        rcases member with is | is | is <;> exact above _ (by omega) (by omega) is
      · simp only [List.mem_cons, List.not_mem_nil, or_false] at member
        rcases member with is | is | is | is <;> exact above _ (by omega) (by omega) is

theorem mem_utf8Bytes_lt {s : String} {b : UInt8} (member : b ∈ utf8Bytes s) : b.toNat < 248 := by
  rw [utf8Bytes_eq_flatMap] at member
  obtain ⟨c, -, inside⟩ := List.mem_flatMap.mp member
  rcases mem_encodeChar inside with ⟨-, ascii⟩ | ⟨-, high⟩
  · omega
  · exact high

end Bytes

section Boundaries
variable {s : String}

theorem isUTF8FirstByte_iff {b : UInt8} (small : b.toNat < 248) :
    b.IsUTF8FirstByte ↔ isContinuation b = false := by
  revert b
  apply forall_byte
  decide +kernel

theorem boundary_iff_isValid {k : Nat} : Boundary s k ↔ String.Pos.Raw.IsValid s ⟨k⟩ := by
  rw [String.Pos.Raw.isValid_iff_exists_append]
  constructor
  · rintro ⟨front, back, is, rfl⟩
    exact ⟨front, back, is, rfl⟩
  · rintro ⟨front, back, is, same⟩
    exact ⟨front, back, is, (congrArg String.Pos.Raw.byteIdx same).symm⟩

/-- A cut is between characters at the end and in front of a byte that begins one. -/
theorem boundary_iff {k : Nat} : Boundary s k ↔
    k = (utf8Bytes s).length ∨ ∃ b, (utf8Bytes s)[k]? = some b ∧ isContinuation b = false := by
  rw [boundary_iff_isValid, String.Pos.Raw.isValid_iff_isUTF8FirstByte]
  apply or_congr
  · exact ⟨congrArg String.Pos.Raw.byteIdx, congrArg String.Pos.Raw.mk⟩
  · constructor
    · rintro ⟨inside, first⟩
      have at' : (utf8Bytes s)[k]? = some (s.getUTF8Byte ⟨k⟩ inside) := List.getElem?_eq_getElem inside
      exact ⟨_, at', (isUTF8FirstByte_iff (mem_utf8Bytes_lt (List.mem_of_getElem? at'))).mp first⟩
    · rintro ⟨b, at', begins⟩
      have first := (isUTF8FirstByte_iff (mem_utf8Bytes_lt (List.mem_of_getElem? at'))).mpr begins
      obtain ⟨inside, rfl⟩ := List.getElem?_eq_some_iff.mp at'
      exact ⟨inside, first⟩

theorem boundary_zero : Boundary s 0 := ⟨"", s, String.empty_append.symm, rfl⟩

theorem Boundary.le {k : Nat} (boundary : Boundary s k) : k ≤ (utf8Bytes s).length := by
  obtain ⟨front, back, rfl, rfl⟩ := boundary
  rw [utf8Bytes_append, List.length_append]
  exact Nat.le_add_right _ _

end Boundaries

section Nul

theorem zero_mem_encodeChar {c : Char} (other : c ≠ '\x00') : ∀ b ∈ String.utf8EncodeChar c, b ≠ 0 := by
  rintro b member rfl
  rcases mem_encodeChar member with ⟨same, -⟩ | ⟨low, -⟩
  · exact other (Char.ext (UInt32.toNat_inj.mp same.symm))
  · cases low

theorem takeWhile_utf8Bytes (s : String) :
    (utf8Bytes s).takeWhile (· ≠ 0) = utf8Bytes (beforeNul s) := by
  rw [utf8Bytes_eq_flatMap, beforeNul, utf8Bytes_ofList]
  induction s.toList with
  | nil => rfl
  | cons c text ih =>
    rw [List.flatMap_cons]
    by_cases nul : c = '\x00'
    · subst nul
      rfl
    · rw [List.takeWhile_append_of_pos, ih, List.takeWhile_cons_of_pos (by simpa using nul),
        List.flatMap_cons]
      intro b member
      simpa using zero_mem_encodeChar nul b member

end Nul

end CppRsDriver.Lib
