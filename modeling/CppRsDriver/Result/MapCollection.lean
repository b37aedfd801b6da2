import CppRsDriver.Result.Slots

/-! A map iterated as a collection, against the map iterator over the same value. -/
namespace CppRsDriver.Result.Iteration

open CppRsDriver.Lib CppRsDriver.Types CppRsDriver.Statement

variable {ε : Type}

/-- A map cell of a frame: the two cells of an entry, or why they could not be read. -/
abbrev EntryCell (ε : Type) := Except ε (Option (List UInt8) × Option (List UInt8))

/-- The iterator over the entries of a map, as it is created. -/
def newMapIterator (key value : ColumnType) (cells : List (EntryCell ε)) : CassMapIterator ε :=
  ⟨⟨key, value, cells⟩, (getColumnType key, getColumnType value), none⟩

section Map
variable {d : Decoder ε} {v : CassValue} {key value : ColumnType} {frozen : Bool}
  {bytes : List UInt8} {cells : List (EntryCell ε)}

theorem newFromValue_map (typed : v.Typed) (typ : v.value.typ = .map key value frozen)
    (slice : v.value.slice = some bytes) (decoded : d.map bytes = .ok cells) :
    CassMapIterator.newFromValue d v = some (.ok (newMapIterator key value cells)) := by
  have inner : v.valueType.inner = .map (.keyAndValue (getColumnType key) (getColumnType value)) frozen := by
    rw [typed, typ]
    rfl
  simp only [CassMapIterator.newFromValue, newFromValue, CassValue.getNonNull, slice, typ, mapTarget,
    decoded, inner, mapKeyValueTypes]
  rfl

theorem from_map (typed : v.Typed) (typ : v.value.typ = .map key value frozen)
    (slice : v.value.slice = some bytes) (decoded : d.map bytes = .ok cells) :
    CassIterator.fromMap d v = some (some (.map (newMapIterator key value cells))) ∧
      CassIterator.fromCollection d v =
        some (some (.mapCollection ⟨newMapIterator key value cells, none⟩)) := by
  have made := newFromValue_map typed typ slice decoded
  have kind : v.valueType.inner.getValueType = .map := by
    rw [typed, typ]
    rfl
  constructor
  · rw [CassIterator.fromMap, made]
    rfl
  · rw [CassIterator.fromCollection, kind, made]
    rfl

theorem decodeEntry_types {cell : EntryCell ε} {entry : CassValue × CassValue}
    (decoded : decodeEntry (newMapIterator key value cells) cell = some entry) :
    (entry.1.value.typ = key ∧ entry.1.valueType = getColumnType key) ∧
      entry.2.value.typ = value ∧ entry.2.valueType = getColumnType value := by
  simp only [decodeEntry, Option.bind_eq_bind, Option.bind_eq_some_iff] at decoded
  obtain ⟨content, -, k, keyRead, w, valueRead, is⟩ := decoded
  cases Option.some.inj is
  exact ⟨⟨CassRawValue.deserialize_typ (toOption_eq_some.mp keyRead), rfl⟩,
    CassRawValue.deserialize_typ (toOption_eq_some.mp valueRead), rfl⟩

theorem entries_of_wellFormed {it : CassMapIterator ε}
    (wellFormed : ∀ cell ∈ cells, (decodeEntry it cell).isSome = true) :
    ∃ entries : List (CassValue × CassValue), cells.map (decodeEntry it) = entries.map some := by
  induction cells with
  | nil => exact ⟨[], rfl⟩
  | cons cell cells ih =>
    obtain ⟨entry, head⟩ := Option.isSome_iff_exists.mp (wellFormed cell List.mem_cons_self)
    obtain ⟨entries, tail⟩ := ih (fun c member => wellFormed c (List.mem_cons_of_mem _ member))
    exact ⟨entry :: entries, by rw [List.map_cons, head, tail, List.map_cons]⟩

/-- The keys and values of the entries in turn. -/
def interleaved (entries : List (CassValue × CassValue)) : List Item :=
  entries.flatMap (fun entry => [.value entry.1, .value entry.2])

theorem length_interleaved (entries : List (CassValue × CassValue)) :
    (interleaved entries).length = 2 * entries.length := by
  induction entries with
  | nil => rfl
  | cons entry entries ih =>
    rw [interleaved, List.flatMap_cons, List.length_append, ← interleaved, ih]
    simp only [List.length_cons, List.length_nil]
    omega

theorem slots_map {entries : List (CassValue × CassValue)}
    (decoded : cells.map (decodeEntry (newMapIterator key value cells)) = entries.map some) :
    slots d (.map (newMapIterator key value cells)) =
        (entries.map (fun entry => Item.entry entry.1 entry.2)).map some ∧
      slots d (.mapCollection ⟨newMapIterator key value cells, none⟩) =
        (interleaved entries).map some := by
  constructor
  · calc cells.map (fun cell => (decodeEntry (newMapIterator key value cells) cell).map
          (fun entry => Item.entry entry.1 entry.2))
        = (cells.map (decodeEntry (newMapIterator key value cells))).map
            (Option.map (fun entry => Item.entry entry.1 entry.2)) := by
          rw [List.map_map, Function.comp_def]
      _ = (entries.map (fun entry => Item.entry entry.1 entry.2)).map some := by
          rw [decoded, List.map_map, List.map_map]
          rfl
  · calc cells.flatMap (fun cell => keyAndValue (decodeEntry (newMapIterator key value cells) cell))
        = (cells.map (decodeEntry (newMapIterator key value cells))).flatMap keyAndValue := by
          rw [List.flatMap_map]
      _ = (interleaved entries).map some := by
          rw [decoded, List.flatMap_map, interleaved, List.map_flatMap]
          rfl

theorem shows_entry {t : CassIterator ε} {k w : CassValue} (shows : Shows t (.entry k w)) :
    t.getMapKey = some k ∧ t.getMapValue = some w := by
  cases t with
  | map it => exact Shown.entry.inj shows
  | _ => cases shows

theorem collection_shows {n : Nat} {it : CassMapCollectionIterator ε} {results : List Bool}
    {t : CassIterator ε} {w : CassValue}
    (called : calls (CassIterator.next d) n (.mapCollection it) = some (results, t))
    (shows : Shows t (.value w)) : t.getValue = some w := by
  have keeps : ∀ s more t, (∃ it, s = CassIterator.mapCollection it) →
      CassIterator.next d s = some (more, t) → ∃ it, t = CassIterator.mapCollection it := by
    rintro s more t ⟨it, rfl⟩ moved
    cases moved
    exact ⟨_, rfl⟩
  obtain ⟨last, rfl⟩ := calls_invariant keeps ⟨it, rfl⟩ called
  exact Shown.value.inj shows

/-- A map with `n` entries, iterated as a collection: `2 n` calls return true and all later
ones false; the keys and values come in turn, those of the map iterator over the same value
and with their types. -/
theorem map_collection_interleaves (typed : v.Typed) (typ : v.value.typ = .map key value frozen)
    (slice : v.value.slice = some bytes) (decoded : d.map bytes = .ok cells)
    (wellFormed : ∀ cell ∈ cells,
      (decodeEntry (newMapIterator key value cells) cell).isSome = true) :
    ∃ map collection, CassIterator.fromMap d v = some (some map) ∧
      CassIterator.fromCollection d v = some (some collection) ∧
      (∀ n, ∃ t, calls (CassIterator.next d) n collection =
        some ((List.range n).map (fun i => decide (i < 2 * cells.length)), t)) ∧
      ∀ i < cells.length, ∃ k w,
        (∃ results t, calls (CassIterator.next d) (i + 1) map = some (results, t) ∧
          results.getLast? = some true ∧ t.getMapKey = some k ∧ t.getMapValue = some w) ∧
        (∃ results t, calls (CassIterator.next d) (2 * i + 1) collection = some (results, t) ∧
          t.getValue = some k) ∧
        (∃ results t, calls (CassIterator.next d) (2 * i + 2) collection = some (results, t) ∧
          t.getValue = some w) ∧
        (k.value.typ = key ∧ k.valueType = getColumnType key) ∧
        w.value.typ = value ∧ w.valueType = getColumnType value := by
  obtain ⟨entries, all⟩ := entries_of_wellFormed wellFormed
  have length : cells.length = entries.length := by
    simpa using congrArg List.length all
  obtain ⟨mapSlots, collectionSlots⟩ := slots_map (d := d) all
  obtain ⟨madeMap, madeCollection⟩ := from_map typed typ slice decoded
  have mapAhead : Ahead d (.map (newMapIterator key value cells)) _ := ⟨mapSlots, trivial⟩
  have collectionAhead : Ahead d (.mapCollection ⟨newMapIterator key value cells, none⟩) _ :=
    ⟨collectionSlots, by rintro ⟨⟩⟩
  refine ⟨_, _, madeMap, madeCollection, ?_, ?_⟩
  · intro n
    obtain ⟨t, called, -, -⟩ := (iterators_walk d).many collectionAhead n
    rw [outcomes_items, length_interleaved, ← length] at called
    exact ⟨t, called⟩
  · intro i inside
    rw [length] at inside
    obtain ⟨entry, found⟩ : ∃ entry, entries[i]? = some entry :=
      ⟨entries[i], List.getElem?_eq_getElem inside⟩
    obtain ⟨even, odd⟩ := getElem?_flatMap_pair (fun entry : CassValue × CassValue =>
      Item.value entry.1) (fun entry => Item.value entry.2) entries i
    obtain ⟨t, onMap, -, mapShows⟩ := (iterators_walk d).many mapAhead (i + 1)
    obtain ⟨tk, onKey, -, keyShows⟩ := (iterators_walk d).many collectionAhead (2 * i + 1)
    obtain ⟨tw, onValue, -, valueShows⟩ := (iterators_walk d).many collectionAhead (2 * i + 2)
    have keys := keyShows (2 * i) _ rfl
      (by rw [List.getElem?_map, interleaved, even, found, Option.map_some, Option.map_some])
    have values := valueShows (2 * i + 1) _ rfl
      (by rw [List.getElem?_map, interleaved, odd, found, Option.map_some, Option.map_some])
    have both := mapShows i _ rfl
      (by rw [List.getElem?_map, List.getElem?_map, found, Option.map_some, Option.map_some])
    obtain ⟨cell, -, is⟩ := List.mem_map.mp (all ▸ List.mem_map_of_mem (List.mem_of_getElem? found))
    refine ⟨entry.1, entry.2, ⟨_, t, onMap, ?_, shows_entry both⟩,
      ⟨_, tk, onKey, collection_shows onKey keys⟩, ⟨_, tw, onValue, collection_shows onValue values⟩,
      decodeEntry_types is⟩
    rw [outcomes_getLast?, List.getElem?_map, List.getElem?_map, found]
    rfl

end Map

/- A map from integers to texts with two entries. -/
def twoEntries : List UInt8 :=
  [0, 0, 0, 2, 0, 0, 0, 4, 0, 0, 0, 1, 0, 0, 0, 1, 120, 0, 0, 0, 4, 0, 0, 0, 3, 0, 0, 0, 0]

def twoEntriesMap : CassValue :=
  ⟨⟨.map (.native .int) (.native .text) false, some twoEntries, some 2⟩,
    getColumnType (.map (.native .int) (.native .text) false)⟩

def twoEntriesCells : List (EntryCell Unit) :=
  [.ok (some [0, 0, 0, 1], some [120]), .ok (some [0, 0, 0, 3], some [])]

/- The fifth call is behind the second entry, and the third one at its key. -/
theorem map_collection_interleaves_two :
    ∃ collection, CassIterator.fromCollection frameDecoder twoEntriesMap = some (some collection) ∧
      (∃ t, calls (CassIterator.next frameDecoder) 5 collection =
        some ([true, true, true, true, false], t)) ∧
      ∃ k results t, calls (CassIterator.next frameDecoder) 3 collection = some (results, t) ∧
        t.getValue = some k ∧ k.valueType = getColumnType (.native .int) := by
  have decoded : frameDecoder.map twoEntries = .ok twoEntriesCells := by decide +kernel
  obtain ⟨map, collection, -, made, results, items⟩ :=
    map_collection_interleaves (v := twoEntriesMap) rfl rfl rfl decoded (by decide)
  obtain ⟨k, -, -, ⟨seen, t, called, got⟩, -, ⟨-, typed⟩, -⟩ := items 1 (by decide)
  exact ⟨collection, made, results 5, k, seen, t, called, got, typed⟩

end CppRsDriver.Result.Iteration
