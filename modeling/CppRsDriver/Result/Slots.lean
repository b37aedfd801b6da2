import CppRsDriver.Lib.Walk
import CppRsDriver.Result.Aligned

/-! The slots ahead of an iterator: what each further call of `cass_iterator_next` will
find, an item or something that cannot be decoded, and what the getters return then. -/
namespace CppRsDriver.Result.Iteration

open CppRsDriver.Lib CppRsDriver.Types CppRsDriver.Statement

variable {ε : Type}

/-- What an iterator can be at. -/
inductive Item where
  | row (row : CassRow)
  | value (value : CassValue)
  | entry (key value : CassValue)
  | field (name : String) (value : CassValue)

/-- The results of the getters that belong to an iterator. -/
inductive Shown where
  | row (row : Option CassRow)
  | value (value : Option CassValue)
  | entry (key value : Option CassValue)
  | field (name : Option (Except CassError String)) (value : Option CassValue)

def shown (it : CassIterator ε) : Shown :=
  match it with
  | .result _ => .row it.getRow
  | .row _ => .value it.getColumn
  | .listlike _ | .mapCollection _ | .tuple _ | .vector _ => .value it.getValue
  | .map _ => .entry it.getMapKey it.getMapValue
  | .udt _ => .field it.getUserTypeFieldName it.getUserTypeFieldValue

def Item.shown : Item → Shown
  | .row r => .row (some r)
  | .value v => .value (some v)
  | .entry k v => .entry (some k) (some v)
  | .field name v => .field (some (.ok name)) (some v)

/-- Every getter returns a null pointer; the one for names returns an error. -/
def Shown.Null : Shown → Prop
  | .row r => r = none
  | .value v => v = none
  | .entry k v => k = none ∧ v = none
  | .field name v => name = some (.error .libBadParams) ∧ v = none

/-! The slots ahead of an iterator, read off what it has not passed yet. -/

def decodeRow (d : Decoder ε) (it : CassRowsResultIterator ε) (row : Except ε (List UInt8)) :
    Option CassRow :=
  row.toOption.bind (fun bytes => (CassRow.fromRawRowAndMetadata
    (d.columns it.specs bytes) it.resultMetadata).toOption)

def decodeElement (it : CassElementIterator ε) (cell : Cell ε) : Option CassValue :=
  (deserializeCell it.iterator.elemTyp cell).map (⟨·, it.valueDataType⟩)

def decodeEntry (it : CassMapIterator ε)
    (cell : Except ε (Option (List UInt8) × Option (List UInt8))) : Option (CassValue × CassValue) := do
  let (k, v) ← cell.toOption
  let key ← (CassRawValue.deserialize it.iterator.keyTyp k).toOption
  let value ← (CassRawValue.deserialize it.iterator.valueTyp v).toOption
  return (⟨key, it.keyValueTypes.1⟩, ⟨value, it.keyValueTypes.2⟩)

/- An entry of a map that is iterated as a collection. -/
def keyAndValue : Option (CassValue × CassValue) → List (Option Item)
  | none => [none]
  | some entry => [some (.value entry.1), some (.value entry.2)]

/-- The value of an entry whose key the iterator is at. -/
def pendingValue (it : CassMapCollectionIterator ε) : List (Option Item) :=
  match it.state with
  | some .key => [it.iterator.currentEntry.map (fun entry => .value entry.2)]
  | _ => []

/-- A field with its type: its cell, or nothing where there is none to hand out. -/
abbrev FieldCell := ColumnType × Option (Option (List UInt8))

/- A tuple has to have all its fields. -/
def tupleCells (d : Decoder ε) : List ColumnType → List UInt8 → List FieldCell
  | [], _ => []
  | typ :: types, slice =>
    let (cell, rest) := nextBytes d slice
    (typ, cell.bind Except.toOption) :: tupleCells d types rest

/- A field that is missing from a user-defined type is a null. -/
def udtFieldCell (field : UdtField ε) : FieldCell := (field.1.2, field.2.toOption.map Option.join)

def FieldCell.decode (field : FieldCell) : Option CassRawValue :=
  field.2.bind (fun cell => (CassRawValue.deserialize field.1 cell).toOption)

/-- The fields of a tuple or UDT; the types on the side of the driver move on only when a
field could be decoded. -/
def fieldSlots {α : Type} (item : α → CassRawValue → Item) :
    List α → List FieldCell → List (Option Item)
  | _, [] => []
  | metadata, field :: fields =>
    match field.decode, metadata with
    | some raw, m :: later => some (item m raw) :: fieldSlots item later fields
    | _, _ => none :: fieldSlots item metadata fields

def tupleItem (dataType : CassDataType) (raw : CassRawValue) : Item := .value ⟨raw, dataType⟩

def udtItem (metadata : String × CassDataType) (raw : CassRawValue) : Item :=
  .field metadata.1 ⟨raw, metadata.2⟩

def slots (d : Decoder ε) : CassIterator ε → List (Option Item)
  | .result none => []
  | .result (some it) => it.rows.map (fun row => (decodeRow d it row).map .row)
  | .row it =>
    (it.row.columns.drop (it.position.elim 0 (· + 1))).map (fun column => some (.value column))
  | .listlike it | .vector it =>
    it.iterator.cells.map (fun cell => (decodeElement it cell).map .value)
  | .mapCollection it =>
    pendingValue it ++
      it.iterator.iterator.cells.flatMap (fun cell => keyAndValue (decodeEntry it.iterator cell))
  | .map it =>
    it.iterator.cells.map (fun cell => (decodeEntry it cell).map (fun entry => .entry entry.1 entry.2))
  | .tuple it => fieldSlots tupleItem (it.metadata.drop (nextTypesIndex it.currentEntry))
      (tupleCells d it.iterator.remainingMetadata it.iterator.slice)
  | .udt it => fieldSlots udtItem (it.metadata.drop (nextTypesIndex it.currentEntry))
      (it.iterator.fields.map udtFieldCell)

/-- There is a data type of the driver for every field to come, and a map iterated as a
collection that is at a key has its entry. -/
def Ready : CassIterator ε → Prop
  | .tuple it =>
    nextTypesIndex it.currentEntry + it.iterator.remainingMetadata.length ≤ it.metadata.length
  | .udt it =>
    nextTypesIndex it.currentEntry + it.iterator.fields.length ≤ it.metadata.length
  | .mapCollection it => it.state = some .key → it.iterator.currentEntry.isSome = true
  | _ => True

/-- An iterator with these slots ahead of it. -/
def Ahead (d : Decoder ε) (it : CassIterator ε) (ahead : List (Option Item)) : Prop :=
  slots d it = ahead ∧ Ready it

def Shows (it : CassIterator ε) (item : Item) : Prop := shown it = item.shown

section Steps
variable {d : Decoder ε}

/-- A call takes the first slot. -/
def Passes (d : Decoder ε) (it : CassIterator ε) (slot : Option Item) (rest : List (Option Item)) :
    Prop :=
  ∃ t, it.next d = some (slot.isSome, t) ∧ Ahead d t rest ∧ ∀ item, slot = some item → Shows t item

theorem passes_of_current {α : Type} {it t : CassIterator ε} {current : Option α} {item : α → Item}
    {rest : List (Option Item)} (moved : it.next d = some (current.isSome, t))
    (ahead : Ahead d t rest) (shows : ∀ x, current = some x → Shows t (item x)) :
    Passes d it (current.map item) rest := by
  refine ⟨t, ?_, ahead, ?_⟩
  · rw [Option.isSome_map]
    exact moved
  · intro i is
    obtain ⟨x, found, rfl⟩ := Option.map_eq_some_iff.mp is
    exact shows x found

theorem rows_pass {it : CassRowsResultIterator ε} {row : Except ε (List UInt8)}
    {rows : List (Except ε (List UInt8))} (left : it.rows = row :: rows) :
    Passes d (.result (some it)) ((decodeRow d it row).map .row)
      (rows.map (fun row => (decodeRow d it row).map .row)) := by
  obtain ⟨specs, _, metadata, current⟩ := it
  cases left
  cases row with
  | error e => exact passes_of_current rfl ⟨rfl, trivial⟩ (fun r is => by cases is)
  | ok bytes =>
    refine passes_of_current rfl ⟨rfl, trivial⟩ ?_
    intro r is
    exact congrArg Shown.row is

theorem elements_next {it : CassElementIterator ε} {cell : Cell ε} {cells : List (Cell ε)}
    (left : it.iterator.cells = cell :: cells) :
    it.next = ((decodeElement it cell).isSome,
      ⟨⟨it.iterator.elemTyp, cells⟩, it.valueDataType, decodeElement it cell⟩) := by
  obtain ⟨⟨elemTyp, _⟩, dataType, current⟩ := it
  cases left
  rfl

theorem entries_next {it : CassMapIterator ε}
    {cell : Except ε (Option (List UInt8) × Option (List UInt8))}
    {cells : List (Except ε (Option (List UInt8) × Option (List UInt8)))}
    (left : it.iterator.cells = cell :: cells) :
    it.next = ((decodeEntry it cell).isSome,
      ⟨⟨it.iterator.keyTyp, it.iterator.valueTyp, cells⟩, it.keyValueTypes, decodeEntry it cell⟩) := by
  obtain ⟨⟨keyTyp, valueTyp, _⟩, types, current⟩ := it
  cases left
  have entry : decodeEntry ⟨⟨keyTyp, valueTyp, cell :: cells⟩, types, current⟩ cell =
      ((MapIterator.next ⟨keyTyp, valueTyp, cell :: cells⟩).1.join.map (fun entry =>
        ((⟨entry.1, types.1⟩ : CassValue), (⟨entry.2, types.2⟩ : CassValue)))) := by
    simp [decodeEntry, MapIterator.next, Option.map_bind]
  rw [entry]
  rfl

theorem map_pass {it : CassMapIterator ε}
    {cell : Except ε (Option (List UInt8) × Option (List UInt8))}
    {cells : List (Except ε (Option (List UInt8) × Option (List UInt8)))}
    (left : it.iterator.cells = cell :: cells) :
    Passes d (.map it) ((decodeEntry it cell).map (fun entry => .entry entry.1 entry.2))
      (cells.map (fun cell => (decodeEntry it cell).map (fun entry => .entry entry.1 entry.2))) := by
  have moved := congrArg (fun step => some (step.map id CassIterator.map)) (entries_next left)
  refine passes_of_current moved ⟨rfl, trivial⟩ ?_
  intro entry is
  simp [Shows, shown, Item.shown, CassIterator.getMapKey, CassIterator.getMapValue, is]

theorem collection_next {it : CassMapCollectionIterator ε} (between : it.state ≠ some .key) :
    it.next = (it.iterator.next.1,
      ⟨it.iterator.next.2, if it.iterator.next.1 then some .key else it.state⟩) := by
  unfold CassMapCollectionIterator.next
  split
  · rename_i at_key
    exact absurd at_key between
  · rfl
  · rfl

theorem pendingValue_between {it : CassMapCollectionIterator ε} (between : it.state ≠ some .key) :
    pendingValue it = [] := by
  unfold pendingValue
  split
  · rename_i at_key
    exact absurd at_key between
  · rfl

theorem collection_pass_entry {it : CassMapCollectionIterator ε} (between : it.state ≠ some .key)
    {cell : Except ε (Option (List UInt8) × Option (List UInt8))}
    {cells : List (Except ε (Option (List UInt8) × Option (List UInt8)))}
    (left : it.iterator.iterator.cells = cell :: cells) {slot : Option Item}
    {rest : List (Option Item)} (ahead : slots d (.mapCollection it) = slot :: rest) :
    Passes d (.mapCollection it) slot rest := by
  have moved := collection_next between
  rw [entries_next left] at moved
  simp only [slots, pendingValue_between between, left, List.flatMap_cons, List.nil_append] at ahead
  have stepped (more : Bool) (t : CassMapCollectionIterator ε) (is : it.next = (more, t)) :
      (CassIterator.mapCollection it).next d = some (more, .mapCollection t) := by
    rw [CassIterator.next, is]
    rfl
  cases decoded : decodeEntry it.iterator cell with
  | none =>
    rw [decoded] at moved ahead
    obtain ⟨rfl, rfl⟩ := List.cons.inj ahead
    let t : CassMapCollectionIterator ε :=
      ⟨⟨⟨it.iterator.iterator.keyTyp, it.iterator.iterator.valueTyp, cells⟩,
        it.iterator.keyValueTypes, none⟩, it.state⟩
    have still : pendingValue t = [] := pendingValue_between between
    refine ⟨.mapCollection t, stepped false t moved, ⟨?_, fun at_key => absurd at_key between⟩,
      fun item is => by cases is⟩
    rw [slots, still]
    rfl
  | some entry =>
    rw [decoded] at moved ahead
    obtain ⟨rfl, rfl⟩ := List.cons.inj ahead
    refine ⟨_, stepped _ _ moved, ⟨rfl, fun _ => rfl⟩, ?_⟩
    intro item is
    cases is
    rfl

theorem collection_pass {it : CassMapCollectionIterator ε} {slot : Option Item}
    {rest : List (Option Item)} (ahead : slots d (.mapCollection it) = slot :: rest)
    (ready : Ready (.mapCollection it)) : Passes d (.mapCollection it) slot rest := by
  by_cases at_key : it.state = some .key
  · -- the value of the entry whose key came last
    obtain ⟨inner, state⟩ := it
    cases at_key
    obtain ⟨entry, (is : inner.currentEntry = some entry)⟩ :=
      Option.isSome_iff_exists.mp (ready rfl)
    simp only [slots, pendingValue, is, Option.map_some, List.singleton_append] at ahead
    obtain ⟨rfl, rfl⟩ := List.cons.inj ahead
    refine ⟨.mapCollection ⟨inner, some .value⟩, rfl, ⟨rfl, by rintro ⟨⟩⟩, ?_⟩
    intro item same
    cases same
    simp [Shows, shown, Item.shown, CassIterator.getValue, is]
  · cases left : it.iterator.iterator.cells with
    | nil =>
      rw [slots, pendingValue_between at_key, left] at ahead
      cases ahead
    | cons cell cells => exact collection_pass_entry at_key left ahead

theorem nextEntry_eq {metadata : List CassDataType} {current : Option FieldEntry}
    (inside : nextTypesIndex current < metadata.length) (typ : ColumnType)
    (slice : Option (List UInt8)) :
    nextEntry metadata current typ slice =
      some (match (CassRawValue.deserialize typ slice).toOption with
        | none => (false, current)
        | some raw =>
          (true, some ⟨⟨raw, metadata[nextTypesIndex current]⟩, nextTypesIndex current⟩)) := by
  unfold nextEntry
  cases CassRawValue.deserialize typ slice with
  | error e => rfl
  | ok raw =>
    simp only [List.getElem?_eq_getElem inside, Option.map_some]
    rfl

theorem fieldSlots_cons {α : Type} {item : α → CassRawValue → Item} {metadata : List α} {index : Nat}
    (inside : index < metadata.length) (field : FieldCell) (fields : List FieldCell) :
    fieldSlots item (metadata.drop index) (field :: fields) =
      match field.decode with
      | some raw => some (item metadata[index] raw) :: fieldSlots item (metadata.drop (index + 1)) fields
      | none => none :: fieldSlots item (metadata.drop index) fields := by
  rw [List.drop_eq_getElem_cons inside]
  simp only [fieldSlots]
  cases field.decode <;> rfl

theorem tuple_next {it : CassTupleIterator} {typ : ColumnType} {types : List ColumnType}
    (left : it.iterator.remainingMetadata = typ :: types)
    (inside : nextTypesIndex it.currentEntry < it.metadata.length) :
    it.next d =
      some (match FieldCell.decode (typ, (nextBytes d it.iterator.slice).1.bind Except.toOption) with
        | none => (false, ⟨⟨it.iterator.allMetadata, types, (nextBytes d it.iterator.slice).2⟩,
            it.metadata, it.currentEntry⟩)
        | some raw => (true, ⟨⟨it.iterator.allMetadata, types, (nextBytes d it.iterator.slice).2⟩,
            it.metadata, some ⟨⟨raw, it.metadata[nextTypesIndex it.currentEntry]⟩,
              nextTypesIndex it.currentEntry⟩⟩)) := by
  obtain ⟨⟨all, _, slice⟩, metadata, current⟩ := it
  cases left
  simp only [CassTupleIterator.next, TupleIterator.next]
  rcases nextBytes d slice with ⟨_ | e | raw, rest⟩
  · rfl
  · rfl
  · simp only [nextEntry_eq inside, Option.map_some]
    change _ = some (match (CassRawValue.deserialize typ raw).toOption with | none => _ | some raw => _)
    cases (CassRawValue.deserialize typ raw).toOption <;> rfl

theorem udt_next {it : CassUdtIterator ε} {field : UdtField ε} {fields : List (UdtField ε)}
    (left : it.iterator.fields = field :: fields)
    (inside : nextTypesIndex it.currentEntry < it.metadata.length) :
    it.next =
      some (match (udtFieldCell field).decode with
        | none => (false, ⟨⟨fields⟩, it.metadata, it.currentEntry⟩)
        | some raw => (true, ⟨⟨fields⟩, it.metadata,
            some ⟨⟨raw, it.metadata[nextTypesIndex it.currentEntry].2⟩,
              nextTypesIndex it.currentEntry⟩⟩)) := by
  obtain ⟨⟨_⟩, metadata, current⟩ := it
  cases left
  obtain ⟨head, cell⟩ := field
  have inside' : nextTypesIndex current < (metadata.map Prod.snd).length := by
    rw [List.length_map]
    exact inside
  cases cell with
  | error e => rfl
  | ok cell =>
    simp only [CassUdtIterator.next, UdtIterator.next, nextEntry_eq inside', Option.map_some,
      List.getElem_map]
    change _ = some (match (CassRawValue.deserialize head.2 cell.join).toOption with
      | none => _ | some raw => _)
    cases (CassRawValue.deserialize head.2 cell.join).toOption <;> rfl

theorem tuple_pass {it : CassTupleIterator} {slot : Option Item} {rest : List (Option Item)}
    (ahead : slots d (.tuple it) = slot :: rest) (ready : @Ready ε (.tuple it)) :
    Passes d (.tuple it) slot rest := by
  cases left : it.iterator.remainingMetadata with
  | nil =>
    rw [slots, left] at ahead
    cases ahead
  | cons typ types =>
    simp only [Ready, left, List.length_cons] at ready
    have inside : nextTypesIndex it.currentEntry < it.metadata.length := by omega
    have moved := tuple_next (d := d) left inside
    rw [slots, left, tupleCells, fieldSlots_cons inside] at ahead
    cases decoded : FieldCell.decode (typ, (nextBytes d it.iterator.slice).1.bind Except.toOption) with
    | none =>
      rw [decoded] at moved ahead
      obtain ⟨rfl, rfl⟩ := List.cons.inj ahead
      refine ⟨.tuple _, by rw [CassIterator.next, moved]; rfl, ⟨rfl, ?_⟩, fun item is => by cases is⟩
      simp only [Ready]
      omega
    | some raw =>
      rw [decoded] at moved ahead
      obtain ⟨rfl, rfl⟩ := List.cons.inj ahead
      refine ⟨.tuple _, by rw [CassIterator.next, moved]; rfl, ⟨rfl, ?_⟩, ?_⟩
      · change nextTypesIndex it.currentEntry + 1 + types.length ≤ it.metadata.length
        omega
      · intro item is
        cases is
        rfl

theorem udt_pass {it : CassUdtIterator ε} {slot : Option Item} {rest : List (Option Item)}
    (ahead : slots d (.udt it) = slot :: rest) (ready : Ready (.udt it)) :
    Passes d (.udt it) slot rest := by
  cases left : it.iterator.fields with
  | nil =>
    rw [slots, left] at ahead
    cases ahead
  | cons field fields =>
    simp only [Ready, left, List.length_cons] at ready
    have inside : nextTypesIndex it.currentEntry < it.metadata.length := by omega
    have moved := udt_next left inside
    rw [slots, left, List.map_cons, fieldSlots_cons inside] at ahead
    cases decoded : (udtFieldCell field).decode with
    | none =>
      rw [decoded] at moved ahead
      obtain ⟨rfl, rfl⟩ := List.cons.inj ahead
      refine ⟨.udt _, by rw [CassIterator.next, moved]; rfl, ⟨rfl, ?_⟩, fun item is => by cases is⟩
      simp only [Ready]
      omega
    | some raw =>
      rw [decoded] at moved ahead
      obtain ⟨rfl, rfl⟩ := List.cons.inj ahead
      refine ⟨.udt _, by rw [CassIterator.next, moved]; rfl, ⟨rfl, ?_⟩, ?_⟩
      · change nextTypesIndex it.currentEntry + 1 + fields.length ≤ it.metadata.length
        omega
      · intro item is
        cases is
        simp [Shows, shown, Item.shown, udtItem, CassIterator.getUserTypeFieldName,
          CassIterator.getUserTypeFieldValue, inside]

theorem row_pass {it : CassRowIterator} {slot : Option Item} {rest : List (Option Item)}
    (ahead : slots d (.row it) = slot :: rest) : Passes d (.row it) slot rest := by
  obtain ⟨row, position⟩ := it
  simp only [slots] at ahead
  have bound : position.elim 0 (· + 1) < row.columns.length := by
    have length := congrArg List.length ahead
    simp only [List.length_map, List.length_drop, List.length_cons] at length
    omega
  rw [List.drop_eq_getElem_cons bound, List.map_cons] at ahead
  obtain ⟨rfl, rfl⟩ := List.cons.inj ahead
  refine ⟨.row ⟨row, some (position.elim 0 (· + 1))⟩, ?_, ⟨rfl, trivial⟩, ?_⟩
  · simp only [CassIterator.next, CassRowIterator.next, bound, decide_true]
    rfl
  · intro item is
    cases is
    simp only [Shows, shown, Item.shown, CassIterator.getColumn, Option.bind_some,
      List.getElem?_eq_getElem bound]

theorem next_pass {it : CassIterator ε} {slot : Option Item} {rest : List (Option Item)}
    (ahead : Ahead d it (slot :: rest)) : Passes d it slot rest := by
  obtain ⟨ahead, ready⟩ := ahead
  cases it with
  | result it =>
    cases it with
    | none => cases ahead
    | some it =>
      obtain ⟨row, rows, left, rfl, rfl⟩ := List.map_eq_cons_iff.mp ahead
      exact rows_pass left
  | row it => exact row_pass ahead
  | listlike it =>
    obtain ⟨cell, cells, left, rfl, rfl⟩ := List.map_eq_cons_iff.mp ahead
    have moved := congrArg (fun step => some (step.map id CassIterator.listlike)) (elements_next left)
    exact passes_of_current moved ⟨rfl, trivial⟩ (fun v is => congrArg Shown.value is)
  | vector it =>
    obtain ⟨cell, cells, left, rfl, rfl⟩ := List.map_eq_cons_iff.mp ahead
    have moved := congrArg (fun step => some (step.map id CassIterator.vector)) (elements_next left)
    exact passes_of_current moved ⟨rfl, trivial⟩ (fun v is => congrArg Shown.value is)
  | mapCollection it => exact collection_pass ahead ready
  | map it =>
    obtain ⟨cell, cells, left, rfl, rfl⟩ := List.map_eq_cons_iff.mp ahead
    exact map_pass left
  | tuple it => exact tuple_pass ahead ready
  | udt it => exact udt_pass ahead ready

theorem keyAndValue_ne_nil (entry : Option (CassValue × CassValue)) : keyAndValue entry ≠ [] := by
  cases entry <;> exact List.cons_ne_nil _ _

theorem fieldSlots_eq_nil {α : Type} {item : α → CassRawValue → Item} {metadata : List α}
    {fields : List FieldCell} (none : fieldSlots item metadata fields = []) : fields = [] := by
  cases fields with
  | nil => rfl
  | cons field fields =>
    simp only [fieldSlots] at none
    split at none <;> cases none

theorem tupleCells_eq_nil {types : List ColumnType} {slice : List UInt8}
    (none : tupleCells d types slice = []) : types = [] := by
  cases types with
  | nil => rfl
  | cons typ types => cases none

theorem next_finish {it : CassIterator ε} (ahead : Ahead d it []) :
    ∃ t, it.next d = some (false, t) ∧ Ahead d t [] := by
  obtain ⟨ahead, ready⟩ := ahead
  cases it with
  | result it =>
    cases it with
    | none => exact ⟨_, rfl, rfl, trivial⟩
    | some it =>
      obtain ⟨specs, rows, metadata, current⟩ := it
      cases List.map_eq_nil_iff.mp ahead
      exact ⟨_, rfl, rfl, trivial⟩
  | row it =>
    obtain ⟨row, position⟩ := it
    have passed := List.drop_eq_nil_iff.mp (List.map_eq_nil_iff.mp ahead)
    refine ⟨.row ⟨row, some (position.elim 0 (· + 1))⟩, ?_, ?_, trivial⟩
    · simp only [CassIterator.next, CassRowIterator.next, Nat.not_lt.mpr passed, decide_false]
      rfl
    · rw [slots, List.map_eq_nil_iff, List.drop_eq_nil_iff]
      exact Nat.le_succ_of_le passed
  | listlike it | vector it =>
    obtain ⟨⟨elemTyp, cells⟩, dataType, current⟩ := it
    cases List.map_eq_nil_iff.mp ahead
    exact ⟨_, rfl, rfl, trivial⟩
  | map it =>
    obtain ⟨⟨keyTyp, valueTyp, cells⟩, types, current⟩ := it
    cases List.map_eq_nil_iff.mp ahead
    exact ⟨_, rfl, rfl, trivial⟩
  | mapCollection it =>
    obtain ⟨⟨⟨keyTyp, valueTyp, cells⟩, types, current⟩, state⟩ := it
    obtain ⟨pending, entries⟩ := List.append_eq_nil_iff.mp ahead
    cases cells with
    | cons cell cells => exact absurd (List.append_eq_nil_iff.mp entries).1 (keyAndValue_ne_nil _)
    | nil =>
      rcases state with _ | _ | _
      · exact ⟨_, rfl, rfl, by rintro ⟨⟩⟩
      · cases pending
      · exact ⟨_, rfl, rfl, by rintro ⟨⟩⟩
  | tuple it =>
    obtain ⟨⟨all, remaining, slice⟩, metadata, current⟩ := it
    cases tupleCells_eq_nil (fieldSlots_eq_nil ahead)
    exact ⟨_, rfl, rfl, ready⟩
  | udt it =>
    obtain ⟨⟨fields⟩, metadata, current⟩ := it
    cases List.map_eq_nil_iff.mp (fieldSlots_eq_nil ahead)
    exact ⟨_, rfl, rfl, ready⟩

/-- Every call on an iterator takes the next of its slots. -/
theorem iterators_walk (d : Decoder ε) : Walks (CassIterator.next d) (Ahead d) Shows where
  pass := fun _ _ _ ahead => next_pass ahead
  finish := fun _ ahead => next_finish ahead

end Steps

/-- A new iterator is at nothing. -/
def Fresh : CassIterator ε → Prop
  | .result it => ∀ rows ∈ it, rows.currentRow = none
  | .row it => it.position = none
  | .listlike it | .vector it => it.currentValue = none
  | .mapCollection it => it.state = none
  | .map it => it.currentEntry = none
  | .tuple it => it.currentEntry = none
  | .udt it => it.currentEntry = none

/-- The iterators a client can get, just created. -/
inductive Opened (d : Decoder ε) : CassIterator ε → Prop where
  | result (result : Option (RowsResult ε)) : Opened d (fromResult result)
  | row (row : CassRow) : Opened d (.row ⟨row, none⟩)
  | value (creator : Creator) (v : CassValue) (it) (typed : v.Typed)
      (created : creator.create d v = some (some it)) : Opened d it

section Opened
variable {d : Decoder ε} {it : CassIterator ε}

theorem constructed_inv {α τ : Type} {wrap : τ → CassIterator ε} {build : α → τ}
    {made : Option (Except (NonNullDeserializationError ε) α)}
    (created : CassIterator.ofConstructed wrap (made.map (·.map build)) = some (some it)) :
    ∃ parts, made = some (.ok parts) ∧ it = wrap (build parts) := by
  obtain ⟨constructed, is, ok⟩ := Option.map_eq_some_iff.mp created
  obtain ⟨m, rfl, rfl⟩ := Option.map_eq_some_iff.mp is
  obtain ⟨built, found, rfl⟩ := Option.map_eq_some_iff.mp ok
  obtain ⟨parts, rfl, rfl⟩ := map_eq_ok.mp (toOption_eq_some.mp found)
  exact ⟨parts, rfl, rfl⟩

theorem create_fresh {creator : Creator} {v : CassValue}
    (created : creator.create d v = some (some it)) : Fresh it := by
  cases creator with
  | fromCollection =>
    simp only [Creator.create, CassIterator.fromCollection] at created
    split at created
    · obtain ⟨parts, -, rfl⟩ := constructed_inv created
      exact rfl
    · obtain ⟨parts, -, rfl⟩ := constructed_inv created
      exact rfl
    · obtain ⟨parts, -, rfl⟩ := constructed_inv created
      exact rfl
    · cases created
  | fromTuple | fromVector | fromMap | fieldsFromUserType =>
    obtain ⟨parts, -, rfl⟩ := constructed_inv created
    exact rfl

theorem Fresh.null (fresh : Fresh it) : (shown it).Null := by
  cases it with
  | result it =>
    cases it with
    | none => exact rfl
    | some rows => exact fresh rows rfl
  | row it | mapCollection it | map it | tuple it | udt it =>
    simp only [Fresh] at fresh
    simp [shown, Shown.Null, CassIterator.getColumn, CassIterator.getValue, CassIterator.getMapKey,
      CassIterator.getMapValue, CassIterator.getUserTypeFieldName,
      CassIterator.getUserTypeFieldValue, fresh]
  | listlike it | vector it => exact fresh

theorem FieldsAligned.ready {remaining : List ColumnType} {metadata : List CassDataType}
    {current : Option FieldEntry} (aligned : FieldsAligned false remaining metadata current) :
    nextTypesIndex current + remaining.length ≤ metadata.length := by
  obtain ⟨passed, split, index⟩ := aligned.positions
  rw [split, index rfl]
  simp

theorem ready_of_aligned (aligned : Aligned false it) (fresh : Fresh it) : Ready it := by
  cases it with
  | tuple it => exact FieldsAligned.ready aligned
  | udt it =>
    have ready := FieldsAligned.ready aligned
    rwa [List.length_map, List.length_map] at ready
  | mapCollection it =>
    intro at_key
    rw [show it.state = none from fresh] at at_key
    cases at_key
  | _ => trivial

theorem Opened.fresh (opened : Opened d it) : Fresh it := by
  cases opened with
  | result result =>
    intro rows is
    obtain ⟨r, -, rfl⟩ := Option.map_eq_some_iff.mp is
    rfl
  | row row => exact rfl
  | value creator v it typed created => exact create_fresh created

theorem Opened.ready (opened : Opened d it) : Ready it := by
  cases opened with
  | result result => trivial
  | row row => trivial
  | value creator v it typed created =>
    obtain ⟨made, is, aligned⟩ := create_aligned d creator typed
    rw [created] at is
    cases is
    exact ready_of_aligned (aligned it rfl) (create_fresh created)

end Opened

end CppRsDriver.Result.Iteration
