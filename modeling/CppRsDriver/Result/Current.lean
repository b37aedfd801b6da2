import CppRsDriver.Result.Slots

/-! What the getters of an iterator return, against the calls of `cass_iterator_next` that
were made on it. -/
namespace CppRsDriver.Result.Iteration

open CppRsDriver.Lib CppRsDriver.Types CppRsDriver.Statement

variable {ε : Type}

section Last
variable {d : Decoder ε}

/-- The iterators over the fields of a tuple or a user-defined type. -/
def iteratesFields : CassIterator ε → Bool
  | .tuple _ | .udt _ => true
  | _ => false

theorem moved_inv {α : Type} {step : Bool × α} {wrap : α → CassIterator ε} {more : Bool}
    {t : CassIterator ε} (moved : some (step.map id wrap) = some (more, t)) :
    step.1 = more ∧ t = wrap step.2 := by
  cases moved
  exact ⟨rfl, rfl⟩

theorem next_false_null {it t : CassIterator ε} (other : iteratesFields it = false)
    (moved : it.next d = some (false, t)) : (shown t).Null := by
  cases it with
  | result it =>
    cases it with
    | none =>
      cases moved
      exact rfl
    | some it =>
      obtain ⟨more, rfl⟩ := moved_inv moved
      have current : (it.next d).2.currentRow.isSome = false := more
      exact Option.isNone_iff_eq_none.mp (Option.isSome_eq_false_iff.mp current)
  | row it =>
    obtain ⟨more, rfl⟩ := moved_inv moved
    exact List.getElem?_eq_none (Nat.not_lt.mp (of_decide_eq_false more))
  | listlike it | vector it =>
    obtain ⟨more, rfl⟩ := moved_inv moved
    have current : it.next.2.currentValue.isSome = false := more
    exact Option.isNone_iff_eq_none.mp (Option.isSome_eq_false_iff.mp current)
  | map it =>
    obtain ⟨more, rfl⟩ := moved_inv moved
    have current : it.next.2.currentEntry.isSome = false := more
    have none := Option.isNone_iff_eq_none.mp (Option.isSome_eq_false_iff.mp current)
    simp [shown, Shown.Null, CassIterator.getMapKey, CassIterator.getMapValue, none]
  | mapCollection it =>
    obtain ⟨more, rfl⟩ := moved_inv moved
    have between : it.state ≠ some .key := by
      intro at_key
      simp [CassMapCollectionIterator.next, at_key] at more
    rw [collection_next between] at more ⊢
    have current : it.iterator.next.2.currentEntry.isSome = false := more
    have none := Option.isNone_iff_eq_none.mp (Option.isSome_eq_false_iff.mp current)
    simp only [shown, Shown.Null, CassIterator.getValue, none, Option.map_none]
    split <;> rfl
  | tuple it | udt it => cases other

/-- The field that a tuple or UDT iterator is at, if any. -/
def currentField : CassIterator ε → Option FieldEntry
  | .tuple it => it.currentEntry
  | .udt it => it.currentEntry
  | _ => none

theorem nextEntry_field {metadata : List CassDataType} {current entry : Option FieldEntry}
    {typ : ColumnType} {slice : Option (List UInt8)} {more : Bool}
    (moved : nextEntry metadata current typ slice = some (more, entry))
    (either : more = true ∨ current.isSome = true) : entry.isSome = true := by
  unfold nextEntry at moved
  split at moved
  · cases moved
    exact either.resolve_left Bool.false_ne_true
  · obtain ⟨dataType, -, is⟩ := Option.map_eq_some_iff.mp moved
    cases is
    rfl

/- These two keep the field they were at. -/
theorem next_field {it t : CassIterator ε} {more : Bool} (fields : iteratesFields it = true)
    (either : more = true ∨ (currentField it).isSome = true) (moved : it.next d = some (more, t)) :
    (currentField t).isSome = true := by
  cases it with
  | tuple it =>
    obtain ⟨⟨m, next⟩, stepped, is⟩ := Option.map_eq_some_iff.mp moved
    cases is
    unfold CassTupleIterator.next at stepped
    split at stepped
    · cases stepped
      exact either.resolve_left Bool.false_ne_true
    · cases stepped
      exact either.resolve_left Bool.false_ne_true
    · obtain ⟨⟨m, entry⟩, entered, is⟩ := Option.map_eq_some_iff.mp stepped
      cases is
      exact nextEntry_field entered either
  | udt it =>
    obtain ⟨⟨m, next⟩, stepped, is⟩ := Option.map_eq_some_iff.mp moved
    cases is
    unfold CassUdtIterator.next at stepped
    split at stepped
    · cases stepped
      exact either.resolve_left Bool.false_ne_true
    · cases stepped
      exact either.resolve_left Bool.false_ne_true
    · obtain ⟨⟨m, entry⟩, entered, is⟩ := Option.map_eq_some_iff.mp stepped
      cases is
      exact nextEntry_field entered either
  | _ => cases fields

theorem next_no_fields {it : CassIterator ε} (fields : iteratesFields it = true)
    (none : slots d it = []) : it.next d = some (false, it) := by
  cases it with
  | tuple it =>
    obtain ⟨⟨all, remaining, slice⟩, metadata, current⟩ := it
    cases tupleCells_eq_nil (fieldSlots_eq_nil none)
    rfl
  | udt it =>
    obtain ⟨⟨fields⟩, metadata, current⟩ := it
    cases List.map_eq_nil_iff.mp (fieldSlots_eq_nil none)
    rfl
  | _ => cases fields

theorem next_kind {it t : CassIterator ε} {more : Bool} (moved : it.next d = some (more, t)) :
    iteratesFields t = iteratesFields it := by
  cases it with
  | result it => cases it <;> cases moved <;> rfl
  | row | listlike | mapCollection | map | vector =>
    cases moved
    rfl
  | tuple it | udt it =>
    obtain ⟨⟨m, next⟩, -, is⟩ := Option.map_eq_some_iff.mp moved
    cases is
    rfl

theorem currentField_fields {it : CassIterator ε} (current : (currentField it).isSome = true) :
    iteratesFields it = true := by
  cases it <;> first | rfl | cases current

theorem currentField_shown {it : CassIterator ε} (current : (currentField it).isSome = true) :
    ¬ (shown it).Null := by
  obtain ⟨entry, is⟩ := Option.isSome_iff_exists.mp current
  cases it with
  | tuple it =>
    have is : it.currentEntry = some entry := is
    simp [shown, Shown.Null, CassIterator.getValue, is]
  | udt it =>
    have is : it.currentEntry = some entry := is
    simp [shown, Shown.Null, CassIterator.getUserTypeFieldValue, is]
  | _ => cases current

end Last

/-- After `n` calls the getters return the item that the last call advanced to if it
returned true, and nothing if it returned false or there was none. -/
def FollowsNext (d : Decoder ε) (it : CassIterator ε) (items : List Item) (n : Nat) : Prop :=
  ∃ results t, calls (CassIterator.next d) n it = some (results, t) ∧
    (results.getLast? = some true → ∃ item, items[n - 1]? = some item ∧ Shows t item) ∧
    (results.getLast? ≠ some true → (shown t).Null)

section Follows
variable {d : Decoder ε} {it t : CassIterator ε} {items : List Item} {n : Nat} {results : List Bool}

theorem getLast?_items (items : List Item) (n : Nat) :
    (outcomes (items.map some) (n + 1)).getLast? = some (decide (n < items.length)) := by
  rw [outcomes_items, List.range_succ, List.map_append, List.map_singleton, List.getLast?_concat]

theorem fields_not_null (fields : iteratesFields it = true)
    (first : ∃ u, it.next d = some (true, u))
    (called : calls (CassIterator.next d) (n + 1) it = some (results, t)) : ¬ (shown t).Null := by
  obtain ⟨more, u, later, moved, rest, -⟩ := calls_succ_inv called
  obtain ⟨u', first⟩ := first
  rw [moved] at first
  cases first
  have keeps : ∀ s more t, (currentField s).isSome = true →
      CassIterator.next d s = some (more, t) → (currentField t).isSome = true :=
    fun s more t current moved => next_field (currentField_fields current) (.inr current) moved
  exact currentField_shown (calls_invariant keeps (next_field fields (.inl rfl) moved) rest)

/- Where nothing is left behind, a false result means a null. -/
theorem null_of_false (opened : Opened d it)
    (clean : iteratesFields it = false ∨ slots d it = [])
    (called : calls (CassIterator.next d) n it = some (results, t))
    (last : results.getLast? ≠ some true) : (shown t).Null := by
  by_cases fields : iteratesFields it = true
  · have same : t = it := by
      have none := clean.resolve_left (by simp [fields])
      have keeps : ∀ s more t, s = it → CassIterator.next d s = some (more, t) → t = it := by
        rintro s more t rfl moved
        rw [next_no_fields fields none] at moved
        cases moved
        rfl
      exact calls_invariant keeps rfl called
    rw [same]
    exact opened.fresh.null
  · have kind : iteratesFields t = false :=
      calls_invariant (fun s more t kind moved => (next_kind moved).trans kind)
        (Bool.eq_false_iff.mpr fields) called
    rcases calls_last called with ⟨-, rfl⟩ | ⟨u, more, moved, is⟩
    · exact opened.fresh.null
    · cases more with
      | true => exact absurd is last
      | false => exact next_false_null ((next_kind moved).symm.trans kind) moved

/-- The getters follow the last call, but for those of a tuple or UDT iterator that was
advanced behind its last field: they still return it. -/
theorem getters_follow_next_iff (opened : Opened d it) (wellFormed : slots d it = items.map some)
    (n : Nat) :
    FollowsNext d it items n ↔ (iteratesFields it = true → n ≤ items.length ∨ items = []) := by
  obtain ⟨t, called, -, shows⟩ := (iterators_walk d).many ⟨wellFormed, opened.ready⟩ n
  constructor
  · rintro ⟨results, t', called', -, null⟩ fields
    rw [called] at called'
    cases called'
    by_contra behind
    obtain ⟨past, nonempty⟩ := not_or.mp behind
    obtain ⟨m, rfl⟩ : ∃ m, n = m + 1 := ⟨n - 1, by omega⟩
    obtain ⟨item, rest, rfl⟩ := List.exists_cons_of_ne_nil nonempty
    obtain ⟨u, moved, -, -⟩ := (iterators_walk d).one ⟨wellFormed, opened.ready⟩
    refine fields_not_null fields ⟨u, moved⟩ called (null ?_)
    rw [getLast?_items, decide_eq_false (by omega)]
    exact nofun
  · intro holds
    refine ⟨_, t, called, ?_, ?_⟩
    · intro last
      cases n with
      | zero => cases last
      | succ m =>
        rw [getLast?_items] at last
        have inside : m < items.length := of_decide_eq_true (Option.some.inj last)
        refine ⟨items[m], List.getElem?_eq_getElem inside, shows m _ rfl ?_⟩
        rw [List.getElem?_map, List.getElem?_eq_getElem inside, Option.map_some]
    · intro last
      by_cases within : iteratesFields it = true ∧ n ≤ items.length
      · cases n with
        | zero =>
          cases called
          exact opened.fresh.null
        | succ m =>
          rw [getLast?_items, decide_eq_true (show m < items.length from within.2)] at last
          exact absurd rfl last
      · refine null_of_false opened ?_ called last
        by_cases fields : iteratesFields it = true
        · have none := (holds fields).resolve_left (fun inside => within ⟨fields, inside⟩)
          exact .inr (by rw [wellFormed, none]; rfl)
        · exact .inl (Bool.eq_false_iff.mpr fields)

end Follows

def intItem (bytes : List UInt8) : Item :=
  .value ⟨⟨.native .int, some bytes, none⟩, getColumnType (.native .int)⟩

/- A list of two integers. -/
def twoItems : CassValue :=
  ⟨⟨.list (.native .int) false, some [0, 0, 0, 2, 0, 0, 0, 4, 0, 0, 0, 7, 0, 0, 0, 4, 0, 0, 0, 8],
    some 2⟩, getColumnType (.list (.native .int) false)⟩

def twoItemsIterator : CassIterator Unit :=
  .listlike ⟨⟨.native .int, [.ok (some [0, 0, 0, 7]), .ok (some [0, 0, 0, 8])]⟩,
    getColumnType (.native .int), none⟩

theorem fromCollection_twoItems :
    CassIterator.fromCollection frameDecoder twoItems = some (some twoItemsIterator) := by
  have decoded : frameDecoder.listlike
      [0, 0, 0, 2, 0, 0, 0, 4, 0, 0, 0, 7, 0, 0, 0, 4, 0, 0, 0, 8] =
        .ok [.ok (some [0, 0, 0, 7]), .ok (some [0, 0, 0, 8])] := by decide +kernel
  simp only [CassIterator.fromCollection, twoItems, getColumnType, CassDataType.inner,
    CassDataTypeInner.getValueType, CassListlikeIterator.newFromValue, newFromValue,
    CassValue.getNonNull, listlikeTarget, decoded]
  rfl

/- A tuple of one integer. -/
def oneField : CassValue :=
  ⟨⟨.tuple [.native .int], some [0, 0, 0, 4, 0, 0, 0, 7], some 1⟩, getColumnType (.tuple [.native .int])⟩

def oneFieldIterator : CassIterator Unit :=
  .tuple ⟨⟨[.native .int], [.native .int], [0, 0, 0, 4, 0, 0, 0, 7]⟩,
    [getColumnType (.native .int)], none⟩

theorem read_oneField :
    nextBytes frameDecoder [0, 0, 0, 4, 0, 0, 0, 7] = (some (.ok (some [0, 0, 0, 7])), []) := rfl

theorem slots_oneField : slots frameDecoder oneFieldIterator = [some (intItem [0, 0, 0, 7])] := by
  simp only [slots, oneFieldIterator, tupleCells, read_oneField]
  rfl

/- Both items of the list and the call behind them, and the field of the tuple. -/
theorem getters_follow_next_within :
    (∀ n ≤ 3, FollowsNext frameDecoder twoItemsIterator
      [intItem [0, 0, 0, 7], intItem [0, 0, 0, 8]] n) ∧
    FollowsNext frameDecoder oneFieldIterator [intItem [0, 0, 0, 7]] 1 := by
  refine ⟨fun n _ => ?_, ?_⟩
  · refine (getters_follow_next_iff (.value .fromCollection twoItems twoItemsIterator rfl
      fromCollection_twoItems) rfl n).mpr ?_
    rintro ⟨⟩
  · exact (getters_follow_next_iff (.value .fromTuple oneField oneFieldIterator rfl rfl)
      slots_oneField 1).mpr (fun _ => .inl (Nat.le_refl 1))

/-- The second call returns false, and the getter still returns the field. -/
theorem getter_behind_last_field :
    CassIterator.fromTuple oneField = some (some oneFieldIterator) ∧
      slots frameDecoder oneFieldIterator = [some (intItem [0, 0, 0, 7])] ∧
      ∃ t, calls (CassIterator.next frameDecoder) 2 oneFieldIterator = some ([true, false], t) ∧
        Shows t (intItem [0, 0, 0, 7]) ∧ ¬ FollowsNext frameDecoder oneFieldIterator [intItem [0, 0, 0, 7]] 2 := by
  let t : CassIterator Unit :=
    .tuple ⟨⟨[.native .int], [], []⟩, [getColumnType (.native .int)],
      some ⟨⟨⟨.native .int, some [0, 0, 0, 7], none⟩, getColumnType (.native .int)⟩, 0⟩⟩
  have called : calls (CassIterator.next frameDecoder) 2 oneFieldIterator = some ([true, false], t) := by
    simp only [calls, oneFieldIterator, CassIterator.next, CassTupleIterator.next,
      TupleIterator.next, read_oneField]
    rfl
  refine ⟨rfl, slots_oneField, t, called, rfl, ?_⟩
  rintro ⟨results, t', called', -, null⟩
  rw [called] at called'
  cases called'
  have behind : (shown t).Null := null (by decide)
  cases behind

end CppRsDriver.Result.Iteration
