import CppRsDriver.Result.Aligned
import CppRsDriver.Wire.RoundTrip

/-! The cells of a frame as the serializer writes them, and the fields of a tuple read
back from them. -/
namespace CppRsDriver.Result.Iteration

open CppRsDriver.Lib CppRsDriver.Types CppRsDriver.Wire

variable {ε : Type}

/-- A cell on the wire: its length and its bytes, or a negative length. -/
def frameCell : Option (List UInt8) → List UInt8
  | none => nullCell
  | some bytes => beBytes 4 bytes.length ++ bytes

/-- `read_cql_bytes` reads a length as an `i32` and that many bytes; a negative length
means null. -/
structure ReadsCells (d : Decoder ε) : Prop where
  bytes : ∀ bytes rest, bytes.length < 2 ^ 31 →
    d.readCqlBytes (beBytes 4 bytes.length ++ bytes ++ rest) = (.ok (some bytes), rest)
  null : ∀ length rest, 2 ^ 31 ≤ length → length < 2 ^ 32 →
    d.readCqlBytes (beBytes 4 length ++ rest) = (.ok none, rest)

/-- A cell that fits a frame. -/
def Framable (cell : Option (List UInt8)) : Prop := ∀ bytes, cell = some bytes → bytes.length < 2 ^ 31

theorem ReadsCells.frameCell {d : Decoder ε} (reads : ReadsCells d) {cell : Option (List UInt8)}
    (small : Framable cell) (rest : List UInt8) :
    d.readCqlBytes (frameCell cell ++ rest) = (.ok cell, rest) := by
  cases cell with
  | none => exact reads.null (2 ^ 32 - 1) rest (by decide) (by decide)
  | some bytes => exact reads.bytes bytes rest (small bytes rfl)

theorem frameCell_nonempty (cell : Option (List UInt8)) (rest : List UInt8) :
    (frameCell cell ++ rest).isEmpty = false := by
  cases cell <;> rfl

section Written
variable {D : Type} (variableLength : D → Bool)

/-- What a cell holds when the value of a field was written into it. -/
inductive Holds : Option (CassCqlValue D) → Option (List UInt8) → Prop where
  | null : Holds none none
  | value (v bytes) (written : content variableLength v = .ok bytes) (small : bytes.length < 2 ^ 31) :
      Holds (some v) (some bytes)

variable {variableLength}

theorem Holds.small {field : Option (CassCqlValue D)} {cell : Option (List UInt8)}
    (holds : Holds variableLength field cell) : Framable cell := by
  cases holds with
  | null => exact nofun
  | value v bytes written small =>
    rintro _ ⟨⟩
    exact small

theorem holds_of_sized {v : CassCqlValue D} {chunk : List UInt8}
    (written : doSerialize variableLength v .sized = .ok chunk) :
    ∃ cell, Holds variableLength (some v) cell ∧ chunk = frameCell cell := by
  obtain ⟨bytes, inner, small, rfl⟩ := sized_eq_ok written
  exact ⟨some bytes, .value v bytes inner small, rfl⟩

theorem holds_of_tupleCell {index : Nat} {field : Option (CassCqlValue D)} {chunk : List UInt8}
    (written : tupleCell index (field.map (doSerialize variableLength)) = .ok chunk) :
    ∃ cell, Holds variableLength field cell ∧ chunk = frameCell cell := by
  cases field with
  | none => exact ⟨none, .null, (Except.ok.inj written).symm⟩
  | some v => exact holds_of_sized (mapError_eq_ok.mp written)

theorem tuple_cells {fields : List (Option (CassCqlValue D))} {bytes : List UInt8}
    (written : serializeTupleLike (fields.map (Option.map (doSerialize variableLength))) = .ok bytes) :
    ∃ cells, bytes = (cells.map frameCell).flatten ∧
      List.Forall₂ (Holds variableLength) fields cells := by
  rw [serializeTupleLike, writeEach_map] at written
  exact writeEach_pieces (fun i field _ chunk wrote => holds_of_tupleCell wrote) written

end Written

section Fields
variable {D : Type} {variableLength : D → Bool} {d : Decoder ε}

theorem nextBytes_frameCell (reads : ReadsCells d) {cell : Option (List UInt8)} (small : Framable cell)
    (rest : List UInt8) : nextBytes d (frameCell cell ++ rest) = (some (.ok cell), rest) := by
  simp only [nextBytes, frameCell_nonempty, reads.frameCell small]
  rfl

/-- The iterator after some steps. -/
def tupleAfter (d : Decoder ε) (k : Nat) (it : TupleIterator) : TupleIterator :=
  (fun it => (it.next d).2)^[k] it

/-- What a step over the fields of a tuple yields: the type and the cell at its place, an
error where the value has no field, nothing behind the last type. -/
def yieldedAt (types : List ColumnType) (cells : List (Option (List UInt8))) (place position : Nat) :
    Option (Except (TupleDeserializationError ε) (ColumnType × Option (List UInt8))) :=
  types[place]?.map (fun typ =>
    match cells[place]? with
    | some cell => .ok (typ, cell)
    | none => .error (.tupleMissingValue position))

/- One step: the two cursors move on together, and the one over the bytes stays at the end. -/
theorem tuple_step (reads : ReadsCells d) {fields : List (Option (CassCqlValue D))}
    {cells : List (Option (List UInt8))} (holds : List.Forall₂ (Holds variableLength) fields cells)
    {all : List ColumnType} (typ : ColumnType) (types : List ColumnType) {passed : Nat}
    (split : all.length = passed + (types.length + 1)) :
    TupleIterator.next d ⟨all, typ :: types, (cells.map frameCell).flatten⟩ =
      (yieldedAt (typ :: types) cells 0 passed, ⟨all, types, (cells.tail.map frameCell).flatten⟩) := by
  have position : all.length - (types.length + 1) = passed := by omega
  cases holds with
  | nil =>
    have ended : nextBytes d [] = (none, []) := rfl
    simp only [TupleIterator.next, List.map_nil, List.flatten_nil, ended, List.length_cons, position]
    rfl
  | cons head tail =>
    simp only [TupleIterator.next, List.map_cons, List.flatten_cons,
      nextBytes_frameCell reads head.small]
    rfl

theorem tuple_yields (reads : ReadsCells d) {all : List ColumnType} (k : Nat) :
    ∀ {fields : List (Option (CassCqlValue D))} {cells : List (Option (List UInt8))}
      {types : List ColumnType} {passed : Nat}, List.Forall₂ (Holds variableLength) fields cells →
      all.length = passed + types.length →
      ((tupleAfter d k ⟨all, types, (cells.map frameCell).flatten⟩).next d).1 =
        yieldedAt types cells k (passed + k) := by
  induction k with
  | zero =>
    intro fields cells types passed holds split
    cases types with
    | nil => rfl
    | cons typ types => exact congrArg Prod.fst (tuple_step reads holds typ types split)
  | succ k ih =>
    intro fields cells types passed holds split
    cases types with
    | nil => exact ih holds split
    | cons typ types =>
      have moved := tuple_step reads holds typ types split
      rw [tupleAfter, Function.iterate_succ_apply, moved, ← tupleAfter]
      have later : all.length = passed + 1 + types.length := by
        rw [split, List.length_cons]
        omega
      have position : passed + (k + 1) = passed + 1 + k := by omega
      rw [position]
      cases holds with
      | nil => exact ih .nil later
      | cons head tail => exact ih tail later

/-- Whatever fields were written and whatever tuple type they are read with: step by step
the iterator yields the bytes of the fields, then an error for every type that is left, and
then it has ended. -/
theorem tuple_decoding_inverts_encoding (reads : ReadsCells d)
    (fields : List (Option (CassCqlValue D))) (types : List ColumnType) {bytes : List UInt8}
    (written : serializeTupleLike (fields.map (Option.map (doSerialize variableLength))) = .ok bytes) :
    ∃ cells, List.Forall₂ (Holds variableLength) fields cells ∧
      ∀ k, ((tupleAfter d k ⟨types, types, bytes⟩).next d).1 =
        if k < min fields.length types.length then
          (do return .ok (← types[k]?, ← cells[k]?))
        else if k < types.length then some (.error (.tupleMissingValue k))
        else none := by
  obtain ⟨cells, rfl, holds⟩ := tuple_cells written
  refine ⟨cells, holds, fun k => ?_⟩
  have length := holds.length_eq
  rw [tuple_yields reads k holds (Nat.zero_add types.length).symm, yieldedAt, Nat.zero_add]
  by_cases inType : k < types.length
  · by_cases inFields : k < fields.length
    · have inCells : k < cells.length := length ▸ inFields
      rw [if_pos (Nat.lt_min.mpr ⟨inFields, inType⟩), List.getElem?_eq_getElem inType,
        List.getElem?_eq_getElem inCells]
      rfl
    · have outside : cells[k]? = none := List.getElem?_eq_none (length ▸ Nat.not_lt.mp inFields)
      rw [if_neg (fun both => inFields (Nat.lt_min.mp both).1), if_pos inType,
        List.getElem?_eq_getElem inType, outside]
      rfl
  · rw [if_neg (fun both => inType (Nat.lt_min.mp both).2), if_neg inType,
      List.getElem?_eq_none (Nat.not_lt.mp inType)]
    rfl

end Fields

theorem frameDecoder_readsCells : ReadsCells frameDecoder where
  bytes := by
    intro bytes rest small
    have read := reads_cell small rest
    simp only [frameDecoder, readCellOf, read]
  null := by
    intro length rest negative fits
    have read := reads_readNat 4 length rest
    have whole : length % 256 ^ 4 = length := Nat.mod_eq_of_lt fits
    rw [whole] at read
    have cell : readCell (beBytes 4 length ++ rest) = some (none, rest) := by
      simp only [readCell, Reader.andThen, read, if_neg (Nat.not_lt.mpr negative)]
      rfl
    simp only [frameDecoder, readCellOf, cell]

/- Two of three fields, the second one a null. -/
theorem tuple_decoding_inverts_encoding_short :
    let fields : List (Option (CassCqlValue CassDataType)) := [some (.scalar (.int 7)), none]
    let types : List ColumnType := [.native .int, .native .int, .native .int]
    let start : TupleIterator := ⟨types, types, [0, 0, 0, 4, 0, 0, 0, 7, 255, 255, 255, 255]⟩
    ∃ cells, List.Forall₂ (Holds (fun _ => true)) fields cells ∧
      ((tupleAfter frameDecoder 1 start).next frameDecoder).1 =
        (do return .ok (.native .int, ← cells[1]?)) ∧
      ((tupleAfter frameDecoder 2 start).next frameDecoder).1 =
        some (.error (.tupleMissingValue 2)) ∧
      ((tupleAfter frameDecoder 3 start).next frameDecoder).1 = none := by
  intro fields types start
  have written : serializeTupleLike (fields.map (Option.map (doSerialize (fun _ => true)))) =
      .ok start.slice := rfl
  obtain ⟨cells, holds, yields⟩ :=
    tuple_decoding_inverts_encoding frameDecoder_readsCells fields types written
  exact ⟨cells, holds, yields 1, yields 2, yields 3⟩

end CppRsDriver.Result.Iteration
