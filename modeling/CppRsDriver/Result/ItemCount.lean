import CppRsDriver.Result.Frames
import CppRsDriver.Result.MapCollection
import CppRsDriver.Wire.VectorSizes

/-! The number of items of a value against the items its iterator hands out. The count comes
from the first bytes of a list, set or map and from the column type of everything else; the
iterator goes through what was written. -/
namespace CppRsDriver.Result.Iteration

open CppRsDriver.Lib CppRsDriver.Types CppRsDriver.Wire

variable {ε : Type}

def cassValueItemCount (v : CassValue) : Nat := v.value.itemCount.getD 0

/-- The iterators for values of a column. -/
def Creator.Fits : Creator → ColumnType → Prop
  | .fromCollection, .list _ _ | .fromCollection, .set _ _ | .fromCollection, .map _ _ _ => True
  | .fromTuple, .tuple _ => True
  | .fromVector, .vector _ _ => True
  | .fromMap, .map _ _ _ => True
  | .fieldsFromUserType, .userDefinedType _ _ _ _ => True
  | _, _ => False

/-- A map iterated as a collection has two calls for each entry. -/
def Creator.perItem : Creator → ColumnType → Nat
  | .fromCollection, .map _ _ _ => 2
  | _, _ => 1

/-- Enough calls return true this many times exactly under the condition. -/
def SucceedsTimes (d : Decoder ε) (it : CassIterator ε) (total : Nat) (condition : Prop) : Prop :=
  ∀ n, total ≤ n → ∃ results t, calls (CassIterator.next d) n it = some (results, t) ∧
    (results.count true = total ↔ condition)

section Slots
variable {d : Decoder ε} {it : CassIterator ε} {ahead : List (Option Item)} {total : Nat}
  {condition : Prop}

theorem succeedsTimes_of_countP (is : Ahead d it ahead) (few : ahead.length ≤ total)
    (counts : ahead.countP Option.isSome = total ↔ condition) :
    SucceedsTimes d it total condition := by
  intro n enough
  obtain ⟨t, called, -, -⟩ := (iterators_walk d).many is n
  refine ⟨_, t, called, ?_⟩
  rw [count_outcomes (few.trans enough)]
  exact counts

theorem succeedsTimes_of_all (is : Ahead d it ahead) (length : ahead.length = total)
    (all : (∀ slot ∈ ahead, slot.isSome = true) ↔ condition) : SucceedsTimes d it total condition := by
  refine succeedsTimes_of_countP is (Nat.le_of_eq length) ?_
  rw [← length, List.countP_eq_length]
  exact all

theorem countP_keyAndValue (entries : List (Option (CassValue × CassValue))) :
    (entries.flatMap keyAndValue).countP Option.isSome = 2 * entries.countP Option.isSome := by
  induction entries with
  | nil => rfl
  | cons entry entries ih =>
    rw [List.flatMap_cons, List.countP_append, ih, List.countP_cons]
    cases entry with
    | none => simp [keyAndValue]
    | some entry =>
      simp only [keyAndValue, List.countP_cons, List.countP_nil, Option.isSome_some, if_true]
      omega

theorem length_keyAndValue (entries : List (Option (CassValue × CassValue))) :
    (entries.flatMap keyAndValue).length ≤ 2 * entries.length := by
  induction entries with
  | nil => exact Nat.le_refl 0
  | cons entry entries ih =>
    rw [List.flatMap_cons, List.length_append, List.length_cons]
    have short : (keyAndValue entry).length ≤ 2 := by
      cases entry <;> simp [keyAndValue]
    omega

end Slots

/-- The first bytes are a count that is not negative. -/
def BeginsWithCount (bytes : List UInt8) : Prop :=
  4 ≤ bytes.length ∧ ofBeBytes (bytes.take 4) < 2 ^ 31

def isCollection : ColumnType → Bool
  | .list _ _ | .set _ _ | .map _ _ _ => true
  | _ => false

theorem collectionLength_toOption (bytes : List UInt8) :
    (collectionLength bytes).toOption.isSome = true ↔ BeginsWithCount bytes := by
  unfold collectionLength BeginsWithCount
  split
  · rename_i short
    simp only [Except.toOption, Option.isSome_none, Bool.false_eq_true, false_iff]
    omega
  · rename_i long
    dsimp only
    split
    · rename_i small
      simp only [Except.toOption, Option.isSome_some, true_iff]
      exact ⟨Nat.not_lt.mp long, small⟩
    · rename_i large
      simp only [Except.toOption, Option.isSome_none, Bool.false_eq_true, false_iff]
      exact fun both => large both.2

theorem toOption_map_isSome {α β : Type} (x : Except ε α) (f : α → β) :
    (x.map f).toOption.isSome = x.toOption.isSome := by
  cases x <;> rfl

/-- Only the values of lists, sets and maps can fail to be handed out. -/
theorem deserialize_isSome_iff (typ : ColumnType) (cell : Option (List UInt8)) :
    (CassRawValue.deserialize typ cell).toOption.isSome = true ↔
      (isCollection typ = true → ∀ bytes, cell = some bytes → BeginsWithCount bytes) := by
  rw [CassRawValue.deserialize, toOption_map_isSome]
  cases typ with
  | list | set | map =>
    cases cell with
    | none => exact ⟨fun _ _ => nofun, fun _ => rfl⟩
    | some bytes =>
      change (Except.map some (collectionLength bytes)).toOption.isSome = true ↔ _
      rw [toOption_map_isSome, collectionLength_toOption]
      constructor
      · rintro counts - _ ⟨⟩
        exact counts
      · exact fun counts => counts rfl bytes rfl
  | native | userDefinedType | tuple | vector =>
    refine ⟨fun _ => nofun, fun _ => ?_⟩
    generalize emptyToNull _ cell = slice
    cases slice <;> rfl

section Written
variable {D : Type} (f : D → Bool)

/-- A value that can be handed out as one of this type: for a list, set or map what was
written begins with a count. -/
def Legible (c : ColumnType) (v : CassCqlValue D) : Prop :=
  isCollection c = true → ∀ bytes, content f v = .ok bytes → BeginsWithCount bytes

/-- The values in a value that are written as the items of a column. -/
def itemsAt : ColumnType → CassCqlValue D → List (ColumnType × CassCqlValue D)
  | .list c _, .list _ values | .set c _, .set _ values => values.map (fun v => (c, v))
  | .map key value _, .map _ pairs => pairs.flatMap (fun pair => [(key, pair.1), (value, pair.2)])
  | .tuple types, .tuple _ fields =>
    (types.zip fields).filterMap (fun (c, field) => field.map (fun v => (c, v)))
  | .vector c _, .vector _ _ values => values.filterMap (fun item => item.map (fun v => (c, v)))
  | .userDefinedType fieldTypes _ _ _, .userDefinedType _ fields =>
    (fieldTypes.zip fields).filterMap (fun (c, field) => field.2.map (fun v => (c.2, v)))
  | _, _ => []

/-- There is a field for each component of a tuple column, and all items can be handed out. -/
structure Countable (c : ColumnType) (v : CassCqlValue D) : Prop where
  fields : ∀ types dataType fields, c = .tuple types → v = .tuple dataType fields →
    types.length ≤ fields.length
  items : ∀ item ∈ itemsAt c v, Legible f item.1 item.2

variable {f}

theorem legible_iff {c : ColumnType} {field : Option (CassCqlValue D)} {cell : Option (List UInt8)}
    (holds : Holds f field cell) :
    (CassRawValue.deserialize c cell).toOption.isSome = true ↔ ∀ v, field = some v → Legible f c v := by
  rw [deserialize_isSome_iff]
  cases holds with
  | null => exact ⟨fun _ => nofun, fun _ _ => nofun⟩
  | value v bytes written small =>
    constructor
    · rintro counts _ ⟨⟩ collection bytes' written'
      cases Except.ok.inj (written.symm.trans written')
      exact counts collection bytes rfl
    · rintro legible collection _ ⟨⟩
      exact legible v rfl collection bytes written

end Written

/-- An entry of a map on the wire. -/
def frameEntry (entry : Option (List UInt8) × Option (List UInt8)) : List UInt8 :=
  frameCell entry.1 ++ frameCell entry.2

/-- Types next to the cells at their places, as far as there are any. -/
def beside {T C : Type} : List T → List C → List (T × Option C)
  | [], _ => []
  | t :: types, [] => (t, none) :: beside types []
  | t :: types, cell :: cells => (t, some cell) :: beside types cells

/-- The driver underneath decodes well-formed rows and nested values completely. -/
structure ReadsFrames (sizes : NativeType → Option Nat) (d : Decoder ε) : Prop extends
    ReadsCells d where
  listlike : ∀ cells : List (Option (List UInt8)), cells.length < 2 ^ 31 →
    (∀ cell ∈ cells, Framable cell) →
    d.listlike (beBytes 4 cells.length ++ (cells.map frameCell).flatten) = .ok (cells.map .ok)
  map : ∀ entries : List (Option (List UInt8) × Option (List UInt8)), entries.length < 2 ^ 31 →
    (∀ entry ∈ entries, Framable entry.1 ∧ Framable entry.2) →
    d.map (beBytes 4 entries.length ++ (entries.map frameEntry).flatten) = .ok (entries.map .ok)
  vector : ∀ typ dimensions (chunks : List (List UInt8)), chunks.length = dimensions.toNat →
    (∀ chunk ∈ chunks, chunk.length < 2 ^ 31 ∧
      ∀ k, fixedSize sizes typ = some k → chunk.length = k) →
    d.vector typ dimensions (chunks.map (vectorChunk (fixedSize sizes typ))).flatten =
      .ok (chunks.map (fun chunk => .ok (some chunk)))
  udt : ∀ fieldTypes (cells : List (Option (List UInt8))), (∀ cell ∈ cells, Framable cell) →
    d.udt fieldTypes (cells.map frameCell).flatten =
      .ok ((beside fieldTypes cells).map (fun field => (field.1, .ok field.2)))
  columns : ∀ specs (cells : List (Option (List UInt8))), specs.length = cells.length →
    (∀ cell ∈ cells, Framable cell) → List.Forall₂
      (fun entry column => ∃ index, column = .ok ⟨index, entry.1, entry.2⟩) (specs.zip cells)
      (d.columns specs (cells.map frameCell).flatten)

section Slots
variable {D : Type} {f : D → Bool} {d : Decoder ε}

theorem elements_all_iff {ι : Type} {field : ι → Option (CassCqlValue D)} {items : List ι}
    {cells : List (Option (List UInt8))}
    (holds : List.Forall₂ (fun item cell => Holds f (field item) cell) items cells)
    (it : CassElementIterator ε) :
    (∀ slot ∈ (cells.map Except.ok).map (fun cell => (decodeElement it cell).map Item.value),
      slot.isSome = true) ↔
      ∀ item ∈ items, ∀ v, field item = some v → Legible f it.iterator.elemTyp v := by
  rw [List.map_map, List.forall_mem_map]
  refine (forall₂_all_iff holds (fun item cell held => ?_)).symm
  rw [← legible_iff held, Function.comp_apply, Option.isSome_map, decodeElement, Option.isSome_map]
  rfl

section Fields
variable {α : Type} {item : α → CassRawValue → Item}

theorem length_fieldSlots (fields : List FieldCell) (metadata : List α) :
    (fieldSlots item metadata fields).length = fields.length := by
  induction fields generalizing metadata with
  | nil => rfl
  | cons field fields ih =>
    simp only [fieldSlots]
    split <;> rw [List.length_cons, ih, List.length_cons]

theorem fieldSlots_all_iff (fields : List FieldCell) {metadata : List α}
    (enough : fields.length ≤ metadata.length) :
    (∀ slot ∈ fieldSlots item metadata fields, slot.isSome = true) ↔
      ∀ field ∈ fields, field.decode.isSome = true := by
  induction fields generalizing metadata with
  | nil => exact iff_of_true (List.forall_mem_nil _) (List.forall_mem_nil _)
  | cons field fields ih =>
    cases metadata with
    | nil => cases enough
    | cons m metadata =>
      have later := ih (Nat.le_of_succ_le_succ enough)
      simp only [fieldSlots, List.forall_mem_cons]
      cases field.decode with
      | none =>
        refine iff_of_false (fun all => ?_) (fun both => ?_)
        · cases all none List.mem_cons_self
        · cases both.1
      | some raw =>
        rw [List.forall_mem_cons, later]
        rfl

theorem length_beside {T C : Type} (types : List T) (cells : List C) :
    (beside types cells).length = types.length := by
  induction types generalizing cells with
  | nil => rfl
  | cons t types ih => cases cells <;> rw [beside, List.length_cons, ih, List.length_cons]

/- Where the cells end, a type is left alone, which is allowed or not. -/
theorem beside_all_iff {T F C : Type} {R : F → C → Prop} {P : T → Option C → Prop}
    {Q : T → F → Prop} (same : ∀ t x c, R x c → (P t (some c) ↔ Q t x)) (allowed : Bool)
    (alone : ∀ t, P t none ↔ allowed = true) (types : List T) {fields : List F} {cells : List C}
    (holds : List.Forall₂ R fields cells) :
    (∀ x ∈ beside types cells, P x.1 x.2) ↔ (allowed = false → types.length ≤ fields.length) ∧
      ∀ pair ∈ types.zip fields, Q pair.1 pair.2 := by
  induction types generalizing fields cells with
  | nil =>
    exact iff_of_true (List.forall_mem_nil _) ⟨fun _ => Nat.zero_le _, List.forall_mem_nil _⟩
  | cons t types ih =>
    cases holds with
    | nil =>
      rw [beside, List.forall_mem_cons, alone, ih .nil, List.zip_nil_right, List.zip_nil_right]
      cases allowed with
      | true => simp
      | false => simp
    | cons head tail =>
      rw [beside, List.forall_mem_cons, same t _ _ head, ih tail, List.zip_cons_cons,
        List.forall_mem_cons]
      simp only [List.length_cons, Nat.add_le_add_iff_right]
      exact and_left_comm

theorem tupleCells_frames (reads : ReadsCells d) (types : List ColumnType)
    {cells : List (Option (List UInt8))} (small : ∀ cell ∈ cells, Framable cell) :
    tupleCells d types (cells.map frameCell).flatten = beside types cells := by
  induction types generalizing cells with
  | nil => rfl
  | cons typ types ih =>
    cases cells with
    | nil =>
      have later := @ih [] (List.forall_mem_nil _)
      exact congrArg _ later
    | cons cell cells =>
      obtain ⟨head, tail⟩ := List.forall_mem_cons.mp small
      rw [tupleCells, List.map_cons, List.flatten_cons, nextBytes_frameCell reads head, beside,
        ← ih tail]
      rfl

end Fields

end Slots

/-- Read as a value of the column, the bytes are a value that is null or has an iterator of
this kind, and the iterator hands out as many items as the value counts exactly under the
condition. -/
def CountsMatch (d : Decoder ε) (c : ColumnType) (creator : Creator) (bytes : List UInt8)
    (condition : Prop) : Prop :=
  ∃ raw, CassRawValue.deserialize c (some bytes) = .ok raw ∧
    let value : CassValue := ⟨raw, getColumnType c⟩
    (raw.slice ≠ none → ∃ it, creator.create d value = some (some it) ∧
      SucceedsTimes d it (creator.perItem c * cassValueItemCount value) condition)

section Kinds
variable {D : Type} {f : D → Bool} {d : Decoder ε} {sizes : NativeType → Option Nat}
  {bytes : List UInt8}

theorem countsMatch_of_iterator {c : ColumnType} {n : Nat} {creator : Creator} {condition : Prop}
    (it : CassIterator ε)
    (counted : ∃ raw, CassRawValue.deserialize c (some bytes) = .ok raw ∧
      (raw.slice ≠ none → raw = ⟨c, some bytes, some n⟩))
    (created : creator.create d ⟨⟨c, some bytes, some n⟩, getColumnType c⟩ = some (some it))
    (succeeds : SucceedsTimes d it (creator.perItem c * n) condition) :
    CountsMatch d c creator bytes condition := by
  obtain ⟨raw, decoded, is⟩ := counted
  refine ⟨raw, decoded, fun nonNull => ?_⟩
  cases is nonNull
  exact ⟨it, created, succeeds⟩

theorem deserialize_collection {c : ColumnType} {count : Nat} (collection : isCollection c = true)
    (length : collectionLength bytes = .ok count) :
    CassRawValue.deserialize c (some bytes) = .ok ⟨c, some bytes, some count⟩ := by
  cases c with
  | list | set | map =>
    simp only [CassRawValue.deserialize, emptyToNull, keepsEmpty, if_true, determineValueItemCount,
      length]
    rfl
  | _ => cases collection

theorem counted_collection {c : ColumnType} {count : Nat} (collection : isCollection c = true)
    (small : count < 2 ^ 31) (rest : List UInt8) :
    ∃ raw, CassRawValue.deserialize c (some (beBytes 4 count ++ rest)) = .ok raw ∧
      (raw.slice ≠ none → raw = ⟨c, some (beBytes 4 count ++ rest), some count⟩) := by
  have front : (beBytes 4 count ++ rest).take 4 = beBytes 4 count := by
    rw [List.take_left' (length_beBytes 4 count)]
  have long : ¬ (beBytes 4 count ++ rest).length < 4 := by
    rw [List.length_append, length_beBytes]
    omega
  have value : ofBeBytes (beBytes 4 count) = count := by
    rw [ofBeBytes_beBytes, Nat.mod_eq_of_lt (by omega)]
  have length : collectionLength (beBytes 4 count ++ rest) = .ok count := by
    simp only [collectionLength, if_neg long, front, value, if_pos small]
  exact ⟨_, deserialize_collection collection length, fun _ => rfl⟩

theorem counted_typed {c : ColumnType} {n : Nat}
    (count : determineValueItemCount c (some bytes) = .ok (some n)) :
    ∃ raw, CassRawValue.deserialize c (some bytes) = .ok raw ∧
      (raw.slice ≠ none → raw = ⟨c, some bytes, some n⟩) := by
  unfold CassRawValue.deserialize
  have slices : emptyToNull c (some bytes) = some bytes ∨ emptyToNull c (some bytes) = none := by
    unfold emptyToNull
    split
    · exact .inl rfl
    · rw [Option.filter_some]
      split
      · exact .inl rfl
      · exact .inr rfl
  rcases slices with kept | null
  · simp only [kept, count]
    exact ⟨_, rfl, fun _ => rfl⟩
  · rw [null]
    exact ⟨_, rfl, fun nonNull => absurd rfl nonNull⟩

theorem sequence_cells {dataType : Option D} {values : List (CassCqlValue D)}
    (written : content f (.list dataType values) = .ok bytes) :
    ∃ cells, bytes = beBytes 4 cells.length ++ (cells.map frameCell).flatten ∧
      cells.length < 2 ^ 31 ∧ List.Forall₂ (fun v cell => Holds f (some v) cell) values cells := by
  rw [content_list] at written
  obtain ⟨few, rest, elements, rfl⟩ := counted_eq_ok written
  obtain ⟨cells, rfl, holds⟩ := writeEach_pieces
    (fun i v _ chunk wrote => holds_of_sized (mapError_eq_ok.mp wrote)) elements
  rw [holds.length_eq] at few ⊢
  exact ⟨cells, rfl, few, holds⟩

theorem holds_small {ι : Type} {field : ι → Option (CassCqlValue D)} {items : List ι}
    {cells : List (Option (List UInt8))}
    (holds : List.Forall₂ (fun item cell => Holds f (field item) cell) items cells) :
    ∀ cell ∈ cells, Framable cell := by
  intro cell member
  obtain ⟨item, -, held⟩ := forall₂_mem_right holds member
  exact held.small

theorem countable_iff_items {c : ColumnType} {v : CassCqlValue D} (other : ∀ types, c ≠ .tuple types) :
    Countable f c v ↔ ∀ item ∈ itemsAt c v, Legible f item.1 item.2 :=
  ⟨Countable.items, fun items => ⟨fun types _ _ is => absurd is (other types), items⟩⟩

theorem from_listlike {column c : ColumnType} {frozen : Bool} {n : Nat} {cells : List (Cell ε)}
    (is : column = .list c frozen ∨ column = .set c frozen) (decoded : d.listlike bytes = .ok cells) :
    CassIterator.fromCollection d ⟨⟨column, some bytes, some n⟩, getColumnType column⟩ =
      some (some (.listlike ⟨⟨c, cells⟩, getColumnType c, none⟩)) := by
  rcases is with rfl | rfl
  all_goals
    simp only [CassIterator.fromCollection, getColumnType, CassDataType.inner,
      CassDataTypeInner.getValueType, CassListlikeIterator.newFromValue, newFromValue,
      CassValue.getNonNull, listlikeTarget, decoded]
    rfl

theorem countsMatch_listlike (reads : ReadsFrames sizes d) {column c : ColumnType} {frozen : Bool}
    (is : column = .list c frozen ∨ column = .set c frozen) {dataType : Option D}
    {values : List (CassCqlValue D)} (written : content f (.list dataType values) = .ok bytes) :
    CountsMatch d column .fromCollection bytes (∀ v ∈ values, Legible f c v) := by
  obtain ⟨cells, rfl, few, holds⟩ := sequence_cells written
  have decoded := reads.listlike cells few (holds_small holds)
  let it : CassElementIterator ε := ⟨⟨c, cells.map .ok⟩, getColumnType c, none⟩
  have collection : isCollection column = true := by
    rcases is with rfl | rfl <;> rfl
  have once : Creator.perItem .fromCollection column = 1 := by
    rcases is with rfl | rfl <;> rfl
  refine countsMatch_of_iterator (.listlike it) (counted_collection collection few _)
    (from_listlike is decoded) ?_
  rw [once]
  refine succeedsTimes_of_all (d := d) ⟨rfl, trivial⟩ (by simp [slots, it]) ?_
  refine (elements_all_iff holds it).trans ?_
  simp [it]

theorem map_cells {dataType : Option D} {pairs : List (CassCqlValue D × CassCqlValue D)}
    (written : content f (.map dataType pairs) = .ok bytes) :
    ∃ entries, bytes = beBytes 4 entries.length ++ (entries.map frameEntry).flatten ∧
      entries.length < 2 ^ 31 ∧ List.Forall₂ (fun pair entry =>
        Holds f (some pair.1) entry.1 ∧ Holds f (some pair.2) entry.2) pairs entries := by
  rw [content_map] at written
  obtain ⟨few, rest, elements, rfl⟩ := counted_eq_ok written
  have framed : ∀ i, ∀ pair ∈ pairs, ∀ chunk,
      mapCells i (doSerialize f pair.1, doSerialize f pair.2) = .ok chunk →
      ∃ entry, (Holds f (some pair.1) entry.1 ∧ Holds f (some pair.2) entry.2) ∧
        chunk = frameEntry entry := by
    intro i pair _ chunk wrote
    obtain ⟨keyCell, key, wrote⟩ := bind_eq_ok.mp wrote
    obtain ⟨valueCell, value, wrote⟩ := bind_eq_ok.mp wrote
    cases Except.ok.inj wrote
    obtain ⟨k, holdsKey, rfl⟩ := holds_of_sized (mapError_eq_ok.mp key)
    obtain ⟨v, holdsValue, rfl⟩ := holds_of_sized (mapError_eq_ok.mp value)
    exact ⟨(k, v), ⟨holdsKey, holdsValue⟩, rfl⟩
  obtain ⟨entries, rfl, holds⟩ := writeEach_pieces framed elements
  rw [holds.length_eq] at few ⊢
  exact ⟨entries, rfl, few, holds⟩

theorem decodeEntry_isSome (it : CassMapIterator ε) (entry : Option (List UInt8) × Option (List UInt8)) :
    (decodeEntry it (.ok entry)).isSome = true ↔
      (CassRawValue.deserialize it.iterator.keyTyp entry.1).toOption.isSome = true ∧
      (CassRawValue.deserialize it.iterator.valueTyp entry.2).toOption.isSome = true := by
  have unfolded : decodeEntry it (.ok entry) =
      (CassRawValue.deserialize it.iterator.keyTyp entry.1).toOption.bind (fun key =>
        (CassRawValue.deserialize it.iterator.valueTyp entry.2).toOption.bind (fun value =>
          some (⟨key, it.keyValueTypes.1⟩, ⟨value, it.keyValueTypes.2⟩))) := rfl
  rw [unfolded]
  cases (CassRawValue.deserialize it.iterator.keyTyp entry.1).toOption with
  | none => simp
  | some key => cases (CassRawValue.deserialize it.iterator.valueTyp entry.2).toOption <;> simp

theorem countsMatch_map (reads : ReadsFrames sizes d) {key value : ColumnType} {frozen : Bool}
    {dataType : Option D} {pairs : List (CassCqlValue D × CassCqlValue D)}
    (written : content f (.map dataType pairs) = .ok bytes) {creator : Creator}
    (fits : creator.Fits (.map key value frozen)) :
    CountsMatch d (.map key value frozen) creator bytes
      (∀ pair ∈ pairs, Legible f key pair.1 ∧ Legible f value pair.2) := by
  obtain ⟨entries, rfl, few, holds⟩ := map_cells written
  have small : ∀ entry ∈ entries, Framable entry.1 ∧ Framable entry.2 := by
    intro entry member
    obtain ⟨pair, -, held⟩ := forall₂_mem_right holds member
    exact ⟨held.1.small, held.2.small⟩
  have decoded := reads.map entries few small
  let it := newMapIterator key value (entries.map (Except.ok (ε := ε)))
  have all : (∀ entry ∈ (entries.map .ok).map (decodeEntry it), entry.isSome = true) ↔
      ∀ pair ∈ pairs, Legible f key pair.1 ∧ Legible f value pair.2 := by
    rw [List.map_map, List.forall_mem_map]
    refine (forall₂_all_iff holds (fun pair entry held => ?_)).symm
    have legibleKey := legible_iff (c := key) held.1
    have legibleValue := legible_iff (c := value) held.2
    rw [Function.comp_apply, decodeEntry_isSome]
    simp only [Option.some.injEq, forall_eq'] at legibleKey legibleValue
    exact (and_congr legibleKey legibleValue).symm
  have created := from_map (d := d) (v := ⟨⟨.map key value frozen, some _, some entries.length⟩,
    getColumnType (.map key value frozen)⟩) rfl rfl rfl decoded
  cases creator with
  | fromMap =>
    refine countsMatch_of_iterator (.map it) (counted_collection rfl few _) created.1 ?_
    have length : (slots d (.map it)).length = 1 * entries.length := by
      simp [slots, it, newMapIterator]
    refine succeedsTimes_of_all ⟨rfl, trivial⟩ length ?_
    rw [← all, slots, List.forall_mem_map, List.forall_mem_map]
    simp only [Option.isSome_map]
    rfl
  | fromCollection =>
    refine countsMatch_of_iterator (.mapCollection ⟨it, none⟩) (counted_collection rfl few _) created.2 ?_
    have is : slots d (.mapCollection ⟨it, none⟩) =
        ((entries.map .ok).map (decodeEntry it)).flatMap keyAndValue := by
      rw [List.flatMap_map]
      rfl
    have length : ((entries.map .ok).map (decodeEntry it)).length = entries.length := by
      rw [List.length_map, List.length_map]
    refine succeedsTimes_of_countP ⟨is, by rintro ⟨⟩⟩ ?_ ?_
    · rw [← length]
      exact length_keyAndValue _
    · rw [countP_keyAndValue, ← all, ← List.countP_eq_length, length]
      exact Nat.mul_right_inj (by decide)
  | _ => cases fits

theorem countsMatch_tuple (reads : ReadsFrames sizes d) (types : List ColumnType)
    {dataType : Option D} {fields : List (Option (CassCqlValue D))}
    (written : content f (.tuple dataType fields) = .ok bytes) :
    CountsMatch d (.tuple types) .fromTuple bytes (types.length ≤ fields.length ∧
      ∀ pair ∈ types.zip fields, ∀ v, pair.2 = some v → Legible f pair.1 v) := by
  rw [content_tuple] at written
  obtain ⟨cells, rfl, holds⟩ := writeEach_pieces
    (fun i field _ chunk wrote => holds_of_tupleCell wrote) written
  let it : CassTupleIterator :=
    ⟨⟨types, types, (cells.map frameCell).flatten⟩, getColumnTypes types, none⟩
  have enough : types.length ≤ (getColumnTypes types).length := by
    rw [getColumnTypes_eq, List.length_map]
  have is : slots d (.tuple it) = fieldSlots tupleItem (getColumnTypes types) (beside types cells) := by
    rw [← tupleCells_frames reads.toReadsCells types (holds_small holds)]
    rfl
  refine countsMatch_of_iterator (.tuple it) (counted_typed rfl) rfl ?_
  refine succeedsTimes_of_all ⟨is, ?_⟩ ?_ ?_
  · simpa [Ready, it, nextTypesIndex] using enough
  · rw [length_fieldSlots, length_beside]
    exact (Nat.one_mul _).symm
  · rw [fieldSlots_all_iff _ (by rwa [length_beside])]
    -- a type without a cell is not handed out
    let handedOut (typ : ColumnType) (cell : Option (Option (List UInt8))) : Prop :=
      (FieldCell.decode (typ, cell)).isSome = true
    have same : ∀ typ field cell, Holds f field cell →
        (handedOut typ (some cell) ↔ ∀ v, field = some v → Legible f typ v) :=
      fun typ field cell held => legible_iff held
    refine (beside_all_iff same false (fun typ => ?_) types holds).trans (and_congr_left' ?_)
    · exact iff_of_false (by rintro ⟨⟩) Bool.false_ne_true
    · exact forall_prop_of_true rfl

theorem holds_of_udtCell {index : Nat} {field : String × Option (CassCqlValue D)} {chunk : List UInt8}
    (written : udtCell index (field.1, field.2.map (doSerialize f)) = .ok chunk) :
    ∃ cell, Holds f field.2 cell ∧ chunk = frameCell cell := by
  obtain ⟨name, value⟩ := field
  cases value with
  | none => exact ⟨none, .null, (Except.ok.inj written).symm⟩
  | some v => exact holds_of_sized (mapError_eq_ok.mp written)

theorem countsMatch_userDefinedType (reads : ReadsFrames sizes d)
    (fieldTypes : List (String × ColumnType)) (keyspace name : String) (frozen : Bool) {dataType : D}
    {fields : List (String × Option (CassCqlValue D))}
    (written : content f (.userDefinedType dataType fields) = .ok bytes) :
    CountsMatch d (.userDefinedType fieldTypes keyspace name frozen) .fieldsFromUserType bytes
      (∀ pair ∈ fieldTypes.zip fields, ∀ v, pair.2.2 = some v → Legible f pair.1.2 v) := by
  rw [content_userDefinedType] at written
  obtain ⟨cells, rfl, held⟩ := writeEach_pieces
    (fun i field _ chunk wrote => holds_of_udtCell wrote) written
  let it : CassUdtIterator ε :=
    ⟨⟨(beside fieldTypes cells).map (fun field => (field.1, .ok field.2))⟩, getFieldTypes fieldTypes, none⟩
  have length : it.iterator.fields.length = fieldTypes.length := by
    rw [List.length_map, length_beside]
  have enough : it.iterator.fields.length ≤ (getFieldTypes fieldTypes).length := by
    rw [length, getFieldTypes_eq, List.length_map]
  refine countsMatch_of_iterator (.udt it) (counted_typed rfl) ?_ ?_
  · simp only [Creator.create, CassIterator.fieldsFromUserType, CassUdtIterator.newFromValue,
      newFromValue, CassValue.getNonNull, udtTarget, reads.udt fieldTypes cells (holds_small held)]
    rfl
  refine succeedsTimes_of_all ⟨rfl, ?_⟩ ?_ ?_
  · simpa [Ready, it, nextTypesIndex] using enough
  · rw [slots, length_fieldSlots, List.length_map, length]
    exact (Nat.one_mul _).symm
  · change (∀ slot ∈ fieldSlots udtItem (getFieldTypes fieldTypes) (it.iterator.fields.map udtFieldCell),
      slot.isSome = true) ↔ _
    rw [fieldSlots_all_iff _ (by rwa [List.length_map]), List.map_map, List.forall_mem_map]
    -- a field without a cell is a null, which is handed out
    let handedOut (field : String × ColumnType) (cell : Option (Option (List UInt8))) : Prop :=
      (FieldCell.decode (field.2, some cell.join)).isSome = true
    have same : ∀ field (x : String × Option (CassCqlValue D)) cell, Holds f x.2 cell →
        (handedOut field (some cell) ↔ ∀ v, x.2 = some v → Legible f field.2 v) :=
      fun field x cell held => legible_iff held
    refine (beside_all_iff same true (fun field => ?_) fieldTypes held).trans (and_iff_right ?_)
    · exact iff_of_true ((deserialize_isSome_iff field.2 none).mpr (by rintro - _ ⟨⟩)) rfl
    · exact fun refused => absurd refused.symm Bool.false_ne_true

theorem countsMatch_vector (reads : ReadsFrames sizes d) {c : ColumnType} {dimensions : UInt16}
    {values : List (Option (CassCqlValue D))} {chunks : List (List UInt8)}
    (length : values.length = dimensions.toNat)
    (small : (chunks.map (vectorChunk (fixedSize sizes c))).flatten.length < 2 ^ 31)
    (each : List.Forall₂ (fun item chunk => ∃ w, item = some w ∧ content f w = .ok chunk ∧
      ∀ k, fixedSize sizes c = some k → chunk.length = k) values chunks) :
    CountsMatch d (.vector c dimensions) .fromVector
      (chunks.map (vectorChunk (fixedSize sizes c))).flatten
      (∀ item ∈ values, ∀ v, item = some v → Legible f c v) := by
  have short : ∀ chunk ∈ chunks, chunk.length < 2 ^ 31 :=
    fun chunk member => length_lt_of_vectorChunk (List.mem_map_of_mem member) small
  have decoded := reads.vector c dimensions chunks (each.length_eq.symm.trans length) (by
    intro chunk member
    obtain ⟨item, -, w, -, -, fixed⟩ := forall₂_mem_right each member
    exact ⟨short chunk member, fixed⟩)
  have holds : List.Forall₂ (Holds f) values (chunks.map some) := by
    rw [List.forall₂_map_right_iff]
    refine List.forall₂_iff_zip.mpr ⟨each.length_eq, fun member => ?_⟩
    obtain ⟨w, rfl, written, -⟩ := List.forall₂_zip each member
    exact .value w _ written (short _ (List.of_mem_zip member).2)
  have cells : chunks.map (fun chunk => Except.ok (ε := ε) (some chunk)) =
      (chunks.map some).map .ok := by
    rw [List.map_map]
    rfl
  rw [cells] at decoded
  let it : CassElementIterator ε := ⟨⟨c, (chunks.map some).map .ok⟩, getColumnType c, none⟩
  refine countsMatch_of_iterator (.vector it) (counted_typed rfl) ?_ ?_
  · simp only [Creator.create, CassIterator.fromVector, CassVectorIterator.newFromValue, newFromValue,
      CassValue.getNonNull, vectorTarget, decoded]
    rfl
  · have all := elements_all_iff holds it
    refine succeedsTimes_of_all ⟨rfl, trivial⟩ ?_ all
    rw [slots, List.length_map, List.length_map, List.length_map, ← each.length_eq, length]
    exact (Nat.one_mul _).symm

end Kinds

section Conditions
variable {D : Type} {f : D → Bool}

theorem forall_filterMap_iff {ι : Type} {items : List ι} {field : ι → Option (CassCqlValue D)}
    {column : ι → ColumnType} {p : ColumnType × CassCqlValue D → Prop} :
    (∀ x ∈ items.filterMap (fun item => (field item).map (fun v => (column item, v))), p x) ↔
      ∀ item ∈ items, ∀ v, field item = some v → p (column item, v) := by
  constructor
  · intro all item member v is
    exact all _ (List.mem_filterMap.mpr ⟨item, member, by rw [is]; rfl⟩)
  · intro all x member
    obtain ⟨item, inside, is⟩ := List.mem_filterMap.mp member
    obtain ⟨v, found, rfl⟩ := Option.map_eq_some_iff.mp is
    exact all item inside v found

theorem countable_list {c : ColumnType} {frozen : Bool} {dataType : Option D}
    {values : List (CassCqlValue D)} :
    Countable f (.list c frozen) (.list dataType values) ↔ ∀ v ∈ values, Legible f c v :=
  (countable_iff_items (by rintro types ⟨⟩)).trans List.forall_mem_map

theorem countable_set {c : ColumnType} {frozen : Bool} {dataType : Option D}
    {values : List (CassCqlValue D)} :
    Countable f (.set c frozen) (.set dataType values) ↔ ∀ v ∈ values, Legible f c v :=
  (countable_iff_items (by rintro types ⟨⟩)).trans List.forall_mem_map

theorem countable_map {key value : ColumnType} {frozen : Bool} {dataType : Option D}
    {pairs : List (CassCqlValue D × CassCqlValue D)} :
    Countable f (.map key value frozen) (.map dataType pairs) ↔
      ∀ pair ∈ pairs, Legible f key pair.1 ∧ Legible f value pair.2 := by
  refine (countable_iff_items (by rintro types ⟨⟩)).trans ?_
  simp only [itemsAt, List.forall_mem_flatMap, List.forall_mem_cons, List.not_mem_nil, false_imp_iff,
    implies_true, and_true]

theorem countable_vector {c : ColumnType} {dimensions : UInt16} {dataType elementType : D}
    {values : List (Option (CassCqlValue D))} :
    Countable f (.vector c dimensions) (.vector dataType elementType values) ↔
      ∀ item ∈ values, ∀ v, item = some v → Legible f c v :=
  (countable_iff_items (by rintro types ⟨⟩)).trans forall_filterMap_iff

theorem countable_userDefinedType {fieldTypes : List (String × ColumnType)} {keyspace name : String}
    {frozen : Bool} {dataType : D} {fields : List (String × Option (CassCqlValue D))} :
    Countable f (.userDefinedType fieldTypes keyspace name frozen) (.userDefinedType dataType fields) ↔
      ∀ pair ∈ fieldTypes.zip fields, ∀ v, pair.2.2 = some v → Legible f pair.1.2 v :=
  (countable_iff_items (by rintro types ⟨⟩)).trans forall_filterMap_iff

theorem countable_tuple {types : List ColumnType} {dataType : Option D}
    {fields : List (Option (CassCqlValue D))} :
    Countable f (.tuple types) (.tuple dataType fields) ↔ types.length ≤ fields.length ∧
      ∀ pair ∈ types.zip fields, ∀ v, pair.2 = some v → Legible f pair.1 v := by
  have items : (∀ item ∈ itemsAt (.tuple types) (.tuple dataType fields), Legible f item.1 item.2) ↔
      ∀ pair ∈ types.zip fields, ∀ v, pair.2 = some v → Legible f pair.1 v := forall_filterMap_iff
  constructor
  · intro countable
    exact ⟨countable.fields types dataType fields rfl rfl, items.mp countable.items⟩
  · rintro ⟨enough, legible⟩
    refine ⟨?_, items.mpr legible⟩
    rintro _ _ _ ⟨⟩ ⟨⟩
    exact enough

end Conditions

section Main
variable {d : Decoder ε} {sizes : NativeType → Option Nat}

/-- For every value a client can build, every container column it is accepted for, whatever
happens to the data types until it is written, and every iterator over the value read back: the
successful calls are as many as the value counts, or twice as many for a map iterated as a
collection, exactly when a tuple has a field for each component and the items that are lists,
sets or maps begin with a count. -/
theorem item_count_iterated_iff (standard : ∀ t k, sizes t = some k → standardSize t = some k)
    (reads : ReadsFrames sizes d) (fuel depth : Nat) (calls : List Types.Call) (s : Types.State)
    (ran : run (Types.step fuel) {} calls = some s) (argument : Argument) (v : CassCqlValue Nat)
    (built : argumentOf (s.heap.ops fuel) s.objects argument = some (.ok (some v)))
    (h : Heap) (changes : Heap.Changes s.heap h) (typ : Nat) (c : ColumnType) (spells : Spells h typ c)
    (accepted : v.isTypeCompatible (h.ops depth) typ = some true) (h' : Heap)
    (later : Heap.Changes h h') (cell : List UInt8)
    (written : doSerialize (variableLength sizes h') v .sized = .ok cell) (creator : Creator)
    (fits : creator.Fits c) :
    ∃ bytes, (∀ rest, d.readCqlBytes (cell ++ rest) = (.ok (some bytes), rest)) ∧
      CountsMatch d c creator bytes (Countable (variableLength sizes h') c v) := by
  have fitted := run_fitted standard ran
  have backward := (run_changes Heap.empty_closed ran).vectorsBackward Heap.empty_vectorsBackward
  obtain ⟨bytes, inner, small, rfl⟩ := sized_eq_ok written
  refine ⟨bytes, fun rest => reads.bytes bytes rest small, ?_⟩
  have kinds (d : Nat) (kind : CassValueType) (carries : v.dataType = some d)
      (is : v.kind = some kind) : (h.inner d).Describes kind := by
    have valid := fitted.toSound.argument (argumentOf_converts built) d (.dataType _ _ carries)
    exact (changes.evolves valid).2.describes (fitted.argument built carries is)
  have container : ∀ t, c ≠ .native t := by
    rintro t rfl
    cases creator <;> cases fits
  have kind := spells.kind_of_accepted container kinds accepted
  cases c with
  | native t => exact absurd rfl (container t)
  | list typ frozen =>
    cases v with
    | list dataType values =>
      rw [countable_list]
      cases creator with
      | fromCollection => exact countsMatch_listlike reads (.inl rfl) inner
      | _ => cases fits
    | _ => cases kind
  | set typ frozen =>
    cases v with
    | set dataType values =>
      rw [countable_set]
      rw [content_set] at inner
      cases creator with
      | fromCollection => exact countsMatch_listlike reads (.inr rfl) inner
      | _ => cases fits
    | _ => cases kind
  | map key value frozen =>
    cases v with
    | map dataType pairs =>
      rw [countable_map]
      exact countsMatch_map reads inner fits
    | _ => cases kind
  | tuple types =>
    cases v with
    | tuple dataType fields =>
      rw [countable_tuple]
      cases creator with
      | fromTuple => exact countsMatch_tuple reads types inner
      | _ => cases fits
    | _ => cases kind
  | userDefinedType fieldTypes keyspace name frozen =>
    cases v with
    | userDefinedType dataType fields =>
      rw [countable_userDefinedType]
      cases creator with
      | fieldsFromUserType =>
        exact countsMatch_userDefinedType reads fieldTypes keyspace name frozen inner
      | _ => cases fits
    | _ => cases kind
  | vector typ dimensions =>
    cases v with
    | vector dataType elementType values =>
      rw [countable_vector]
      obtain ⟨length, chunks, rfl, each⟩ :=
        accepted_vector_written fitted backward changes later built spells accepted inner
      cases creator with
      | fromVector => exact countsMatch_vector reads length small each
      | _ => cases fits
    | _ => cases kind

end Main

/- The decoder of frames, with vectors. -/

def vectorCells (size : Option Nat) : Nat → List UInt8 → List (Cell Unit)
  | 0, _ => []
  | n + 1, bytes =>
    match readVectorElement some size bytes with
    | some (chunk, rest) => .ok chunk :: vectorCells size n rest
    | none => .error () :: vectorCells size n []

def vectorDecoder (sizes : NativeType → Option Nat) : Decoder Unit :=
  { frameDecoder with
    vector := fun typ dimensions bytes =>
      .ok (vectorCells (fixedSize sizes typ) dimensions.toNat bytes) }

section Decoder
variable {sizes : NativeType → Option Nat}

theorem readCellOf_frameCell {cell : Option (List UInt8)} (small : Framable cell) (rest : List UInt8) :
    readCellOf (frameCell cell ++ rest) = (.ok cell, rest) :=
  frameDecoder_readsCells.frameCell small rest

theorem cellsOf_frames {cells : List (Option (List UInt8))} (small : ∀ cell ∈ cells, Framable cell) :
    cellsOf cells.length (cells.map frameCell).flatten = cells.map .ok := by
  induction cells with
  | nil => rfl
  | cons cell cells ih =>
    obtain ⟨head, tail⟩ := List.forall_mem_cons.mp small
    rw [List.length_cons, cellsOf, List.map_cons, List.flatten_cons, readCellOf_frameCell head,
      ih tail, List.map_cons]

theorem countedCells_frames {perItem count : Nat} (few : count < 2 ^ 31)
    {cells : List (Option (List UInt8))} (length : cells.length = perItem * count)
    (small : ∀ cell ∈ cells, Framable cell) :
    countedCells perItem (beBytes 4 count ++ (cells.map frameCell).flatten) = .ok (cells.map .ok) := by
  have read := reads_readNat 4 count (cells.map frameCell).flatten
  rw [Nat.mod_eq_of_lt (by omega : count < 256 ^ 4)] at read
  simp only [countedCells, read, if_pos few]
  rw [← length, cellsOf_frames small]

theorem flatten_frameEntry (entries : List (Option (List UInt8) × Option (List UInt8))) :
    (entries.map frameEntry).flatten =
      ((entries.flatMap (fun entry => [entry.1, entry.2])).map frameCell).flatten := by
  induction entries with
  | nil => rfl
  | cons entry entries ih =>
    rw [List.map_cons, List.flatten_cons, ih, frameEntry, List.append_assoc]
    rfl

theorem pairCells_entries (entries : List (Option (List UInt8) × Option (List UInt8))) :
    pairCells ((entries.flatMap (fun entry => [entry.1, entry.2])).map .ok) = entries.map .ok := by
  induction entries with
  | nil => rfl
  | cons entry entries ih =>
    rw [List.map_cons, ← ih]
    rfl

theorem vectorCells_chunks {size : Option Nat} {chunks : List (List UInt8)}
    (each : ∀ chunk ∈ chunks, chunk.length < 2 ^ 31 ∧ ∀ k, size = some k → chunk.length = k) :
    vectorCells size chunks.length (chunks.map (vectorChunk size)).flatten =
      chunks.map (fun chunk => .ok (some chunk)) := by
  induction chunks with
  | nil => rfl
  | cons chunk chunks ih =>
    obtain ⟨⟨small, fixed⟩, tail⟩ := List.forall_mem_cons.mp each
    have read : readVectorElement some size
        (vectorChunk size chunk ++ (chunks.map (vectorChunk size)).flatten) =
          some (some chunk, (chunks.map (vectorChunk size)).flatten) :=
      reads_vectorElement small rfl fixed _
    simp only [List.length_cons, vectorCells, List.map_cons, List.flatten_cons, read, ih tail]

theorem udtFieldsOf_frames (fieldTypes : List (String × ColumnType))
    {cells : List (Option (List UInt8))} (small : ∀ cell ∈ cells, Framable cell) :
    udtFieldsOf fieldTypes (cells.map frameCell).flatten =
      (beside fieldTypes cells).map (fun field => (field.1, .ok field.2)) := by
  induction fieldTypes generalizing cells with
  | nil => rfl
  | cons fieldType fieldTypes ih =>
    cases cells with
    | nil =>
      have later := @ih [] (List.forall_mem_nil _)
      exact congrArg _ later
    | cons cell cells =>
      obtain ⟨head, tail⟩ := List.forall_mem_cons.mp small
      rw [udtFieldsOf, List.map_cons, List.flatten_cons, frameCell_nonempty,
        readCellOf_frameCell head, ih tail]
      rfl

theorem columnsOf_frames (index : Nat) {specs : List Statement.ColumnSpec}
    {cells : List (Option (List UInt8))} (length : specs.length = cells.length)
    (small : ∀ cell ∈ cells, Framable cell) : List.Forall₂
      (fun entry column => ∃ index, column = .ok ⟨index, entry.1, entry.2⟩) (specs.zip cells)
      (columnsOf index specs (cells.map frameCell).flatten) := by
  induction specs generalizing index cells with
  | nil => exact .nil
  | cons spec specs ih =>
    cases cells with
    | nil => cases length
    | cons cell cells =>
      obtain ⟨head, tail⟩ := List.forall_mem_cons.mp small
      have later := ih (index + 1) (Nat.succ.inj length) tail
      rw [columnsOf, List.map_cons, List.flatten_cons, readCellOf_frameCell head]
      exact .cons ⟨index, rfl⟩ later

theorem vectorDecoder_readsFrames : ReadsFrames sizes (vectorDecoder sizes) where
  toReadsCells := ⟨frameDecoder_readsCells.bytes, frameDecoder_readsCells.null⟩
  listlike cells few small := countedCells_frames few (Nat.one_mul _).symm small
  map entries few small := by
    let cells := entries.flatMap (fun entry => [entry.1, entry.2])
    have length : cells.length = 2 * entries.length := by
      simp [cells, List.length_flatMap, Nat.mul_comm]
    have framed : (entries.map frameEntry).flatten = (cells.map frameCell).flatten :=
      flatten_frameEntry entries
    have each : ∀ cell ∈ cells, Framable cell := by
      intro cell member
      obtain ⟨entry, inside, is⟩ := List.mem_flatMap.mp member
      simp only [List.mem_cons, List.not_mem_nil, or_false] at is
      rcases is with rfl | rfl
      · exact (small entry inside).1
      · exact (small entry inside).2
    rw [framed]
    change (countedCells 2 _).map pairCells = _
    rw [countedCells_frames few length each]
    exact congrArg Except.ok (pairCells_entries entries)
  vector typ dimensions chunks length each := by
    change Except.ok (vectorCells _ dimensions.toNat _) = _
    rw [← length, vectorCells_chunks each]
  udt fieldTypes cells small := congrArg Except.ok (udtFieldsOf_frames fieldTypes small)
  columns specs cells length small := columnsOf_frames 0 length small

end Decoder

/- A vector of two integers, for a column of its own type. -/
def twoIntegers : List Types.Call :=
  [.dataTypeNew .int, .dataTypeNewVector 0 2, .vectorNewFromDataType 1,
    .set 0 (.vectorSet 0) (.scalar (.int 7)), .set 0 (.vectorSet 1) (.scalar (.int 8))]

theorem item_count_iterated_iff_vector : ∃ s v cell bytes,
    run (Types.step 2) {} twoIntegers = some s ∧
    argumentOf (s.heap.ops 2) s.objects (.object 0) = some (.ok (some v)) ∧
    doSerialize (variableLength standardSize s.heap) v .sized = .ok cell ∧
    (∀ rest, (vectorDecoder standardSize).readCqlBytes (cell ++ rest) = (.ok (some bytes), rest)) ∧
    CountsMatch (vectorDecoder standardSize) (.vector (.native .int) 2) .fromVector bytes
      (Countable (variableLength standardSize s.heap) (.vector (.native .int) 2) v) := by
  obtain ⟨bytes, read, matched⟩ := item_count_iterated_iff (fun _ _ is => is)
    (vectorDecoder_readsFrames) 2 2 twoIntegers _ rfl (.object 0) _ rfl _ .refl 1
    (.vector (.native .int) 2)
    (Spells.of_trees [.mk (.value .int), .mk (.vector (.mk (.value .int)) 2)] rfl rfl)
    rfl _ .refl _ rfl .fromVector trivial
  exact ⟨_, _, _, bytes, rfl, rfl, rfl, read, matched⟩

/-- A container that a client builds and that is accepted for the column, written as these
bytes: read back it counts so many items, and so many calls on its iterator succeed. -/
def Iterates (built : List Types.Call) (typ : Nat) (c : ColumnType) (bytes : List UInt8)
    (creator : Creator) (count successes : Nat) : Prop :=
  ∃ s v raw it, run (Types.step 3) {} built = some s ∧
    argumentOf (s.heap.ops 3) s.objects (.object 0) = some (.ok (some v)) ∧
    Spells s.heap typ c ∧ v.isTypeCompatible (s.heap.ops 3) typ = some true ∧
    doSerialize (variableLength standardSize s.heap) v .sized = .ok (frameCell (some bytes)) ∧
    CassRawValue.deserialize c (some bytes) = .ok raw ∧ raw.slice = some bytes ∧
    cassValueItemCount ⟨raw, getColumnType c⟩ = count ∧
    creator.create frameDecoder ⟨raw, getColumnType c⟩ = some (some it) ∧
    ∀ n, count ≤ n → ∃ results t, calls (CassIterator.next frameDecoder) n it = some (results, t) ∧
      results.count true = successes

/- An untyped tuple with one field, and an untyped list with an integer of one byte. -/
def shortTuple : List Types.Call :=
  [.dataTypeNewTuple, .addSubValueType 0 .int, .addSubValueType 0 .int, .tupleNew 1,
    .set 0 (.tupleSet 0) (.scalar (.int 7))]

def shortItem : List Types.Call :=
  [.dataTypeNew .int, .dataTypeNew .list, .addSubType 1 0, .dataTypeNew .list, .addSubType 2 1,
    .collectionNew .list, .set 0 .collectionAppend (.scalar (.tinyInt 7))]

/-- One of two components of a tuple is iterated, and none of the lists in a list of lists. -/
theorem item_count_not_iterated :
    Iterates shortTuple 0 (.tuple [.native .int, .native .int]) [0, 0, 0, 4, 0, 0, 0, 7]
      .fromTuple 2 1 ∧
    Iterates shortItem 2 (.list (.list (.native .int) false) false) [0, 0, 0, 1, 0, 0, 0, 1, 7]
      .fromCollection 1 0 := by
  constructor
  · let trees : List CassDataType :=
      [.mk (.tuple [.mk (.value .int), .mk (.value .int)]), .mk (.value .int), .mk (.value .int)]
    let it : CassTupleIterator := ⟨⟨[.native .int, .native .int], [.native .int, .native .int],
      [0, 0, 0, 4, 0, 0, 0, 7]⟩, [getColumnType (.native .int), getColumnType (.native .int)], none⟩
    have field : nextBytes frameDecoder [0, 0, 0, 4, 0, 0, 0, 7] =
      (some (.ok (some [0, 0, 0, 7])), []) := rfl
    have is : slots frameDecoder (.tuple it) = [some (.value
        ⟨⟨.native .int, some [0, 0, 0, 7], none⟩, getColumnType (.native .int)⟩), none] := by
      simp only [slots, it, tupleCells, field]
      rfl
    refine ⟨_, _, _, .tuple it, rfl, rfl, Spells.of_trees trees rfl rfl, rfl, rfl, rfl, rfl, rfl,
      rfl, ?_⟩
    intro n enough
    obtain ⟨t, called, -, -⟩ := (iterators_walk frameDecoder).many ⟨is, Nat.le_refl 2⟩ n
    exact ⟨_, t, called, count_outcomes enough⟩
  · let trees : List CassDataType :=
      [.mk (.value .int), .mk (.list (some (.mk (.value .int))) false),
        .mk (.list (some (.mk (.list (some (.mk (.value .int))) false))) false)]
    have decoded : frameDecoder.listlike [0, 0, 0, 1, 0, 0, 0, 1, 7] = .ok [.ok (some [7])] := by
      decide +kernel
    let it : CassElementIterator Unit :=
      ⟨⟨.list (.native .int) false, [.ok (some [7])]⟩, getColumnType (.list (.native .int) false), none⟩
    have is : slots frameDecoder (.listlike it) = [none] := rfl
    have length : collectionLength [0, 0, 0, 1, 0, 0, 0, 1, 7] = .ok 1 := by decide
    refine ⟨_, _, _, .listlike it, rfl, rfl, Spells.of_trees trees rfl rfl, rfl, rfl,
      deserialize_collection rfl length, rfl, rfl, from_listlike (.inl rfl) decoded, ?_⟩
    intro n enough
    obtain ⟨t, called, -, -⟩ := (iterators_walk frameDecoder).many ⟨is, trivial⟩ n
    exact ⟨_, t, called, count_outcomes enough⟩

end CppRsDriver.Result.Iteration
