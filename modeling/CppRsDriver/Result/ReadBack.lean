import CppRsDriver.Result.Format
import Mathlib.Order.Filter.AtTopBot.Basic
import Mathlib.Order.Filter.Finite

/-! A client that reads whole values: it looks at the type of a value, takes the getter or the
iterator for it and goes on with the items. Whatever a column holds, it sees just that. -/
namespace CppRsDriver.Result.Iteration

open CppRsDriver.Lib CppRsDriver.Types CppRsDriver.Wire Filter

def cassValueType (v : CassValue) : CassValueType := v.valueType.inner.getValueType

/-- The getter a client calls for a value of this type. -/
def getterFor : CassValueType → ValueGetter
  | .ascii | .text | .varchar => .string
  | .boolean => .bool
  | .bigint | .counter | .time | .timestamp => .int64
  | .date => .uint32
  | .decimal => .decimal
  | .double => .double
  | .duration => .duration
  | .float => .float
  | .int => .int32
  | .inet => .inet
  | .smallInt => .int16
  | .tinyInt => .int8
  | .timeuuid | .uuid => .uuid
  | _ => .bytes

section Client
variable {ε ε' : Type} (d : Decoder ε) (s : ScalarDecoder ε')

/-- `while (cass_iterator_next(it))` over an iterator just created. -/
def iterate {W : Type} (n : Nat) (created : Option (Option (CassIterator ε)))
    (view : CassIterator ε → Option W) : Option (List W) :=
  created.join.bind (collect (CassIterator.next d) view n)

section Views
variable (read : CassValue → Option Seen)

def seeValue (it : CassIterator ε) : Option Seen :=
  match shown it with
  | .value (some v) => read v
  | _ => none

def seeEntry (it : CassIterator ε) : Option (Seen × Seen) :=
  match shown it with
  | .entry (some k) (some v) => (read k).bind (fun key => (read v).map (fun value => (key, value)))
  | _ => none

def seeField (it : CassIterator ε) : Option (String × Seen) :=
  match shown it with
  | .field (some (.ok name)) (some v) => (read v).map (fun value => (name, value))
  | _ => none

end Views

/-- The client. It stops at a depth and behind as many items, `none`. -/
def readBack : Nat → CassValue → Option Seen
  | 0, _ => none
  | n + 1, v =>
    if cassValueIsNull (some v) then some .null
    else
      match cassValueType v with
      | .list | .set =>
        (iterate d n (CassIterator.fromCollection d v) (seeValue (readBack n))).map .sequence
      | .map => (iterate d n (CassIterator.fromMap d v) (seeEntry (readBack n))).map .entries
      | .tuple => (iterate d n (CassIterator.fromTuple v) (seeValue (readBack n))).map .sequence
      | .vector => (iterate d n (CassIterator.fromVector d v) (seeValue (readBack n))).map .sequence
      | .udt => (iterate d n (CassIterator.fieldsFromUserType d v) (seeField (readBack n))).map .fields
      | kind =>
        match (getterFor kind).call s (some v) with
        | some (.ok output) => some (.scalar output)
        | _ => none

end Client

section Presents
variable {ε ε' : Type} {d : Decoder ε} {s : ScalarDecoder ε'} {sizes : NativeType → Option Nat}

variable (d s) in
/-- A cell of this column is a value of which the client sees this, given time. -/
def Presents (c : ColumnType) (cell : Option (List UInt8)) (y : Seen) : Prop :=
  ∃ raw, CassRawValue.deserialize c cell = .ok raw ∧
    ∀ᶠ n in atTop, readBack d s n ⟨raw, getColumnType c⟩ = some y

theorem eventually_succ {p : Nat → Prop} (later : ∀ᶠ n in atTop, p (n + 1)) : ∀ᶠ n in atTop, p n := by
  rw [← map_add_atTop_eq_nat 1, eventually_map]
  exact later

theorem readBack_null (n : Nat) (raw : CassRawValue) (valueType : CassDataType)
    (null : raw.slice = none) : readBack d s (n + 1) ⟨raw, valueType⟩ = some .null := by
  have is : cassValueIsNull (some ⟨raw, valueType⟩) = true := by
    simp only [cassValueIsNull, null, Option.isNone_none]
  rw [readBack, if_pos is]

theorem presents_null {c : ColumnType} {cell : Option (List UInt8)}
    (null : emptyToNull c cell = none) : Presents d s c cell .null := by
  refine ⟨⟨c, none, none⟩, ?_, eventually_succ (.of_forall fun n => readBack_null n _ _ rfl)⟩
  rw [CassRawValue.deserialize, null]
  rfl

theorem eventually_forall_mem {I : Type} {items : List I} {p : I → Nat → Prop}
    (each : ∀ i ∈ items, ∀ᶠ n in atTop, p i n) : ∀ᶠ n in atTop, ∀ i ∈ items, p i n :=
  (eventually_all_finite items.finite_toSet).mpr each

theorem slice_of_deserialize {c : ColumnType} {cell : Option (List UInt8)} {raw : CassRawValue}
    (decoded : CassRawValue.deserialize c cell = .ok raw) : raw.slice = emptyToNull c cell := by
  obtain ⟨count, -, rfl⟩ := map_eq_ok.mp decoded
  rfl

/- The loops have one shape: an iterator whose slots are items up to some place, and a look at
each of them. -/
theorem presents_of_iterator {I W : Type} (view : (CassValue → Option Seen) → CassIterator ε → Option W)
    {c : ColumnType} {bytes : List UInt8} {count : Option Nat}
    (decoded : CassRawValue.deserialize c (some bytes) = .ok ⟨c, some bytes, count⟩)
    {it : CassIterator ε} {created : Option (Option (CassIterator ε))}
    (creates : created = some (some it)) {items : List I} {slot : I → Option Item}
    {rest : List (Option Item)} (ahead : Ahead d it (items.map slot ++ rest))
    (stops : rest.head?.join = none) {seenAs : I → W} {wrap : List W → Seen}
    (each : ∀ i ∈ items, ∀ᶠ n in atTop, ∃ x, slot i = some x ∧
      ∀ t, Shows t x → view (readBack d s n) t = some (seenAs i))
    (steps : ∀ n, readBack d s (n + 1) ⟨⟨c, some bytes, count⟩, getColumnType c⟩ =
      (iterate d n created (view (readBack d s n))).map wrap) :
    Presents d s c (some bytes) (wrap (items.map seenAs)) := by
  refine ⟨_, decoded, eventually_succ ?_⟩
  filter_upwards [eventually_forall_mem each, eventually_gt_atTop items.length] with n sees enough
  have loop : iterate d n created (view (readBack d s n)) = some (items.map seenAs) := by
    rw [iterate, creates]
    exact (iterators_walk d).collect ahead stops sees enough
  rw [steps n, loop, Option.map_some]

section Items
variable {c : ColumnType} {cell : Option (List UInt8)} {y : Seen}

theorem Presents.sees_value (presents : Presents d s c cell y) :
    ∀ᶠ n in atTop, ∃ x, (CassRawValue.deserialize c cell).toOption.map
        (fun raw => Item.value ⟨raw, getColumnType c⟩) = some x ∧
      ∀ t : CassIterator ε, Shows t x → seeValue (readBack d s n) t = some y := by
  obtain ⟨raw, decoded, later⟩ := presents
  filter_upwards [later] with n read
  refine ⟨.value ⟨raw, getColumnType c⟩, by rw [decoded]; rfl, fun t shows => ?_⟩
  rw [seeValue, shows]
  exact read

theorem Presents.sees_field (presents : Presents d s c cell y) (name : String) :
    ∀ᶠ n in atTop, ∃ x, (CassRawValue.deserialize c cell).toOption.map
        (fun raw => Item.field name ⟨raw, getColumnType c⟩) = some x ∧
      ∀ t : CassIterator ε, Shows t x → seeField (readBack d s n) t = some (name, y) := by
  obtain ⟨raw, decoded, later⟩ := presents
  filter_upwards [later] with n read
  refine ⟨.field name ⟨raw, getColumnType c⟩, by rw [decoded]; rfl, fun t shows => ?_⟩
  rw [seeField, shows]
  exact congrArg (Option.map (fun value => (name, value))) read

end Items

section Native
variable {t : NativeType} {x : CassScalar}

theorem readBack_native (n : Nat) (t : NativeType) (bytes : List UInt8) :
    readBack d s (n + 1) ⟨⟨.native t, some bytes, none⟩, getColumnType (.native t)⟩ =
      match (getterOf t).call s (some ⟨⟨.native t, some bytes, none⟩, getColumnType (.native t)⟩) with
      | some (.ok output) => some (.scalar output)
      | _ => none := by
  cases t <;> rfl

theorem presents_native (scalars : ReadsScalars s) (stored : Stored t x)
    (full : isHollow t x = false) :
    Presents d s (.native t) (some (scalarBytes x)) (.scalar (outputOf t x)) := by
  have slice := emptyToNull_stored stored.compatible
  rw [full, if_neg Bool.false_ne_true] at slice
  refine ⟨⟨.native t, some (scalarBytes x), none⟩, ?_, eventually_succ (.of_forall fun n => ?_)⟩
  · rw [deserialize_native, slice]
  · rw [readBack_native, ValueGetter.call_eq, answer_stored scalars stored, expected, if_pos rfl]

end Native

section Containers

theorem deserialize_counted {c : ColumnType} {count : Nat} (collection : isCollection c = true)
    (few : count < 2 ^ 31) (rest : List UInt8) :
    CassRawValue.deserialize c (some (beBytes 4 count ++ rest)) =
      .ok ⟨c, some (beBytes 4 count ++ rest), some count⟩ := by
  obtain ⟨raw, decoded, is⟩ := counted_collection collection few rest
  have kept : keepsEmpty c = true := by
    cases c <;> first | rfl | cases collection
  have slice := slice_of_deserialize decoded
  rw [emptyToNull, if_pos kept] at slice
  rw [decoded, is (by rw [slice]; exact Option.some_ne_none _)]

theorem presents_listlike (reads : ReadsFrames sizes d) {column c : ColumnType} {frozen : Bool}
    (is : column = .list c frozen ∨ column = .set c frozen) {items : List Sent}
    (few : items.length < 2 ^ 31) (small : ∀ item ∈ items, Framable item.1)
    (ih : ∀ item ∈ items, Presents d s c item.1 item.2) :
    Presents d s column (some (beBytes 4 items.length ++ frames (items.map Prod.fst)))
      (.sequence (items.map Prod.snd)) := by
  let cells := items.map Prod.fst
  have length : cells.length = items.length := List.length_map _
  have decoded : d.listlike (beBytes 4 items.length ++ frames cells) = .ok (cells.map .ok) := by
    rw [← length]
    exact reads.listlike cells (length ▸ few) (List.forall_mem_map.mpr small)
  have ahead : Ahead d (.listlike ⟨⟨c, cells.map .ok⟩, getColumnType c, none⟩)
      (items.map (fun item => (CassRawValue.deserialize c item.1).toOption.map
        (fun raw => Item.value ⟨raw, getColumnType c⟩)) ++ []) := by
    refine ⟨?_, trivial⟩
    rw [slots, List.map_map, List.map_map, List.append_nil]
    exact List.map_congr_left (fun item _ => Option.map_map _ _ _)
  have created := from_listlike (n := items.length) is decoded
  have collection : isCollection column = true := by
    rcases is with rfl | rfl <;> rfl
  refine presents_of_iterator seeValue (deserialize_counted collection few _) created ahead rfl
    (fun item member => (ih item member).sees_value) (fun n => ?_)
  rcases is with rfl | rfl <;> rfl

theorem presents_map (reads : ReadsFrames sizes d) {key value : ColumnType} {frozen : Bool}
    {entries : List (Sent × Sent)} (few : entries.length < 2 ^ 31)
    (small : ∀ entry ∈ entries, Framable entry.1.1 ∧ Framable entry.2.1)
    (keys : ∀ entry ∈ entries, Presents d s key entry.1.1 entry.1.2)
    (values : ∀ entry ∈ entries, Presents d s value entry.2.1 entry.2.2) :
    Presents d s (.map key value frozen)
      (some (beBytes 4 entries.length ++
        (entries.map (fun entry => frameEntry (entry.1.1, entry.2.1))).flatten))
      (.entries (entries.map (fun entry => (entry.1.2, entry.2.2)))) := by
  let cells : List (Option (List UInt8) × Option (List UInt8)) :=
    entries.map (fun entry => (entry.1.1, entry.2.1))
  have length : cells.length = entries.length := List.length_map _
  have decoded : d.map (beBytes 4 entries.length ++
      (entries.map (fun entry => frameEntry (entry.1.1, entry.2.1))).flatten) =
      .ok (cells.map .ok) := by
    have all := reads.map cells (length ▸ few) (List.forall_mem_map.mpr small)
    rw [length, List.map_map] at all
    exact all
  have created := (from_map (d := d) (v := ⟨⟨.map key value frozen, some _, some entries.length⟩,
    getColumnType (.map key value frozen)⟩) rfl rfl rfl decoded).1
  have ahead : Ahead d (.map (newMapIterator key value (cells.map .ok)))
      (entries.map (fun entry =>
        (CassRawValue.deserialize key entry.1.1).toOption.bind (fun k =>
          (CassRawValue.deserialize value entry.2.1).toOption.map (fun v =>
            Item.entry ⟨k, getColumnType key⟩ ⟨v, getColumnType value⟩))) ++ []) := by
    refine ⟨?_, trivial⟩
    simp only [slots, newMapIterator, cells, List.map_map, List.append_nil]
    refine List.map_congr_left (fun entry _ => ?_)
    simp only [Function.comp_apply, decodeEntry, Except.toOption, Option.bind_eq_bind,
      Option.bind_some, Option.map_bind]
    cases (CassRawValue.deserialize key entry.1.1) <;>
      cases (CassRawValue.deserialize value entry.2.1) <;> rfl
  refine presents_of_iterator seeEntry (deserialize_counted rfl few _) created ahead rfl
    (fun entry member => ?_) (fun n => rfl)
  obtain ⟨k, isKey, later⟩ := keys entry member
  obtain ⟨v, isValue, laterValue⟩ := values entry member
  filter_upwards [later, laterValue] with n readKey readValue
  refine ⟨.entry ⟨k, getColumnType key⟩ ⟨v, getColumnType value⟩, by rw [isKey, isValue]; rfl, ?_⟩
  intro t shows
  rw [seeEntry, shows]
  simp only [Item.shown, readKey, readValue, Option.bind_some, Option.map_some]

theorem deserialize_kept {c : ColumnType} {bytes : List UInt8} {n : Nat}
    (kept : emptyToNull c (some bytes) = some bytes)
    (count : determineValueItemCount c (some bytes) = .ok (some n)) :
    CassRawValue.deserialize c (some bytes) = .ok ⟨c, some bytes, some n⟩ := by
  simp only [CassRawValue.deserialize, kept, count]
  rfl

theorem emptyToNull_nonempty (c : ColumnType) {bytes : List UInt8} (nonempty : bytes ≠ []) :
    emptyToNull c (some bytes) = some bytes := by
  unfold emptyToNull
  split
  · rfl
  · rw [Option.filter_some, List.isEmpty_eq_false_iff.mpr nonempty]
    rfl

theorem presents_vector (reads : ReadsFrames sizes d) {c : ColumnType} {dimensions : UInt16}
    {items : List (List UInt8 × Seen)} (length : items.length = dimensions.toNat)
    (small : ∀ item ∈ items, item.1.length < 2 ^ 31)
    (fixed : ∀ item ∈ items, ∀ k, fixedSize sizes c = some k → item.1.length = k)
    (nonempty : (items.map (fun item => vectorChunk (fixedSize sizes c) item.1)).flatten ≠ [])
    (ih : ∀ item ∈ items, Presents d s c (some item.1) item.2) :
    Presents d s (.vector c dimensions)
      (some (items.map (fun item => vectorChunk (fixedSize sizes c) item.1)).flatten)
      (.sequence (items.map Prod.snd)) := by
  have decoded : d.vector c dimensions
      (items.map (fun item => vectorChunk (fixedSize sizes c) item.1)).flatten =
      .ok (items.map (fun item => .ok (some item.1))) := by
    have all := reads.vector c dimensions (items.map Prod.fst) ((List.length_map _).trans length)
      (List.forall_mem_map.mpr (fun item inside => ⟨small item inside, fixed item inside⟩))
    rw [List.map_map, List.map_map] at all
    exact all
  have created : CassIterator.fromVector d ⟨⟨.vector c dimensions,
      some (items.map (fun item => vectorChunk (fixedSize sizes c) item.1)).flatten,
      some dimensions.toNat⟩, getColumnType (.vector c dimensions)⟩ =
      some (some (.vector ⟨⟨c, items.map (fun item => .ok (some item.1))⟩, getColumnType c, none⟩)) := by
    simp only [CassIterator.fromVector, CassVectorIterator.newFromValue, newFromValue,
      CassValue.getNonNull, vectorTarget, decoded]
    rfl
  have ahead : Ahead d (.vector ⟨⟨c, items.map (fun item => .ok (some item.1))⟩, getColumnType c, none⟩)
      (items.map (fun item => (CassRawValue.deserialize c (some item.1)).toOption.map
        (fun raw => Item.value ⟨raw, getColumnType c⟩)) ++ []) := by
    refine ⟨?_, trivial⟩
    rw [slots, List.map_map, List.append_nil]
    exact List.map_congr_left (fun item _ => Option.map_map _ _ _)
  exact presents_of_iterator seeValue (deserialize_kept (emptyToNull_nonempty _ nonempty) rfl) created
    ahead rfl (fun item member => (ih item member).sees_value) (fun n => rfl)

end Containers

section Fields
variable {α R : Type}

theorem beside_append {T C : Type} (typ : R → T) (cell : R → C) (rows : List R) (others : List T) :
    beside (rows.map typ ++ others) (rows.map cell) =
      rows.map (fun row => (typ row, some (cell row))) ++ others.map (fun t => (t, none)) := by
  induction rows with
  | nil =>
    induction others with
    | nil => rfl
    | cons t others ih => exact congrArg _ ih
  | cons row rows ih => exact congrArg _ ih

theorem fieldSlots_append (item : α → CassRawValue → Item) (side : R → α) (typ : R → ColumnType)
    (cell : R → Option (List UInt8)) {rows : List R}
    (decodes : ∀ row ∈ rows, ∃ raw, CassRawValue.deserialize (typ row) (cell row) = .ok raw)
    (metadata : List α) (fields : List FieldCell) :
    fieldSlots item (rows.map side ++ metadata)
        (rows.map (fun row => (typ row, some (cell row))) ++ fields) =
      rows.map (fun row =>
        (CassRawValue.deserialize (typ row) (cell row)).toOption.map (item (side row))) ++
        fieldSlots item metadata fields := by
  induction rows with
  | nil => rfl
  | cons row rows ih =>
    obtain ⟨⟨raw, decoded⟩, others⟩ := List.forall_mem_cons.mp decodes
    have found : FieldCell.decode (typ row, some (cell row)) = some raw := by
      rw [FieldCell.decode, Option.bind_some, decoded]
      rfl
    simp only [List.map_cons, List.cons_append, fieldSlots, found, ih others, decoded]
    rfl

theorem fieldSlots_missing (item : α → CassRawValue → Item) (metadata : List α)
    (types : List ColumnType) :
    (fieldSlots item metadata (types.map (fun t => (t, none)))).head?.join = none := by
  cases types with
  | nil => rfl
  | cons typ types => rfl

theorem presents_tuple (reads : ReadsCells d) {fields : List (ColumnType × Sent)}
    {others : List ColumnType} (nonempty : fields ≠ [])
    (small : ∀ field ∈ fields, Framable field.2.1)
    (ih : ∀ field ∈ fields, Presents d s field.1 field.2.1 field.2.2) :
    Presents d s (.tuple (fields.map Prod.fst ++ others))
      (some (frames (fields.map (fun field => field.2.1))))
      (.sequence (fields.map (fun field => field.2.2))) := by
  let types := fields.map Prod.fst ++ others
  let bytes := frames (fields.map (fun field => field.2.1))
  have metadata : getColumnTypes types =
      fields.map (fun f => getColumnType f.1) ++ others.map getColumnType := by
    rw [getColumnTypes_eq, List.map_append, List.map_map]
    rfl
  have cells : tupleCells d types bytes =
      fields.map (fun f => (f.1, some f.2.1)) ++ others.map (fun t => (t, none)) := by
    exact (tupleCells_frames reads types (List.forall_mem_map.mpr small)).trans
      (beside_append Prod.fst (fun field => field.2.1) fields others)
  have full : bytes ≠ [] := by
    obtain ⟨f, rest, rfl⟩ := List.exists_cons_of_ne_nil nonempty
    exact List.isEmpty_eq_false_iff.mp (frameCell_nonempty f.2.1 _)
  have ahead : Ahead d (.tuple ⟨⟨types, types, bytes⟩, getColumnTypes types, none⟩)
      (fields.map (fun f => (CassRawValue.deserialize f.1 f.2.1).toOption.map
          (tupleItem (getColumnType f.1))) ++
        fieldSlots tupleItem (others.map getColumnType) (others.map (fun t => (t, none)))) := by
    constructor
    · change fieldSlots tupleItem (getColumnTypes types) (tupleCells d types bytes) = _
      rw [metadata, cells]
      exact fieldSlots_append tupleItem _ Prod.fst (fun field => field.2.1)
        (fun f member => (ih f member).imp (fun _ both => both.1)) _ _
    · change 0 + types.length ≤ (getColumnTypes types).length
      rw [getColumnTypes_eq, List.length_map, Nat.zero_add]
  exact presents_of_iterator seeValue (deserialize_kept (emptyToNull_nonempty _ full) rfl) rfl ahead
    (fieldSlots_missing _ _ _) (fun f member => (ih f member).sees_value) (fun n => rfl)

theorem udtCells_frames {fields : List ((String × ColumnType) × Sent)} {written : Nat}
    (rest : ∀ field ∈ fields.drop written, field.2.1 = none) :
    ((beside (fields.map Prod.fst) ((fields.take written).map (fun field => field.2.1))).map
        (fun field => (field.1, Except.ok (ε := ε) field.2))).map udtFieldCell =
      fields.map (fun field => (field.1.2, some field.2.1)) := by
  have split : fields.map Prod.fst =
      (fields.take written).map Prod.fst ++ (fields.drop written).map Prod.fst := by
    rw [← List.map_append, List.take_append_drop]
  rw [split, beside_append, List.map_append, List.map_append]
  conv_rhs => rw [← List.take_append_drop written fields, List.map_append]
  simp only [List.map_map]
  congr 1
  refine List.map_congr_left (fun field member => ?_)
  simp only [Function.comp_apply, udtFieldCell, rest field member]
  rfl

theorem presents_userDefinedType (reads : ReadsFrames sizes d)
    {fields : List ((String × ColumnType) × Sent)} {keyspace name : String} {frozen : Bool}
    {written : Nat} (rest : ∀ field ∈ fields.drop written, field.2.1 = none)
    (small : ∀ field ∈ fields, Framable field.2.1)
    (ih : ∀ field ∈ fields, Presents d s field.1.2 field.2.1 field.2.2) :
    Presents d s (.userDefinedType (fields.map Prod.fst) keyspace name frozen)
      (some (frames ((fields.take written).map (fun field => field.2.1))))
      (.fields (fields.map (fun field => (field.1.1, field.2.2)))) := by
  let cells := (fields.take written).map (fun field => field.2.1)
  let items := (beside (fields.map Prod.fst) cells).map
    (fun field => (field.1, Except.ok (ε := ε) field.2))
  have decoded : d.udt (fields.map Prod.fst) (frames cells) = .ok items :=
    reads.udt (fields.map Prod.fst) cells (List.forall_mem_map.mpr
      (fun field member => small field (List.mem_of_mem_take member)))
  have metadata : getFieldTypes (fields.map Prod.fst) =
      fields.map (fun f => (f.1.1, getColumnType f.1.2)) := by
    rw [getFieldTypes_eq, List.map_map]
    rfl
  have created : CassIterator.fieldsFromUserType d
      ⟨⟨.userDefinedType (fields.map Prod.fst) keyspace name frozen, some (frames cells),
        some (fields.map Prod.fst).length⟩,
        getColumnType (.userDefinedType (fields.map Prod.fst) keyspace name frozen)⟩ =
      some (some (.udt ⟨⟨items⟩, getFieldTypes (fields.map Prod.fst), none⟩)) := by
    simp only [CassIterator.fieldsFromUserType, CassUdtIterator.newFromValue, newFromValue,
      CassValue.getNonNull, udtTarget, decoded]
    rfl
  have ahead : Ahead d (.udt ⟨⟨items⟩, getFieldTypes (fields.map Prod.fst), none⟩)
      (fields.map (fun f => (CassRawValue.deserialize f.1.2 f.2.1).toOption.map
        (udtItem (f.1.1, getColumnType f.1.2))) ++ []) := by
    constructor
    · change fieldSlots udtItem (getFieldTypes (fields.map Prod.fst)) (items.map udtFieldCell) = _
      rw [metadata, udtCells_frames rest]
      have all := fieldSlots_append udtItem (fun f => (f.1.1, getColumnType f.1.2))
        (fun f : (String × ColumnType) × Sent => f.1.2) (fun f => f.2.1)
        (fun f member => (ih f member).imp (fun _ both => both.1)) [] []
      rwa [List.append_nil, List.append_nil] at all
    · change 0 + items.length ≤ (getFieldTypes (fields.map Prod.fst)).length
      rw [Nat.zero_add, metadata, List.length_map, length_beside, List.length_map, List.length_map]
  exact presents_of_iterator seeField (deserialize_kept rfl rfl) created ahead rfl
    (fun f member => (ih f member).sees_field f.1.1) (fun n => rfl)

end Fields

/-- Whatever a column holds: a client that reads it by its type, down to the scalars, sees
just that. -/
theorem Carries.presents (reads : ReadsFrames sizes d) (scalars : ReadsScalars s) {c : ColumnType}
    {cell : Option (List UInt8)} {y : Seen} (carries : Carries sizes c cell y) :
    Presents d s c cell y := by
  induction carries with
  | null c => exact presents_null (emptyToNull_none c)
  | empty c emptiable => exact presents_null (emptyToNull_empty emptiable)
  | native t x stored full => exact presents_native scalars stored full
  | list c frozen items few small sub ih => exact presents_listlike reads (.inl rfl) few small ih
  | set c frozen items few small sub ih => exact presents_listlike reads (.inr rfl) few small ih
  | map key value frozen entries few small keys values keyIh valueIh =>
    exact presents_map reads few small keyIh valueIh
  | tuple fields others nonempty small sub ih =>
    exact presents_tuple reads.toReadsCells nonempty small ih
  | vector c dimensions items length small fixed nonempty sub ih =>
    exact presents_vector reads length small fixed nonempty ih
  | userDefinedType fields keyspace name frozen written rest small sub ih =>
    exact presents_userDefinedType reads rest small ih

end Presents

end CppRsDriver.Result.Iteration
