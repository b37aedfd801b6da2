import CppRsDriver.Result.Iteration
import CppRsDriver.Wire.Decode

/-! The types an iterator hands out against the types it decodes with. -/
namespace CppRsDriver.Result.Iteration

open CppRsDriver.Lib CppRsDriver.Types CppRsDriver.Statement CppRsDriver.Wire

variable {ε : Type}

def RowTyped (row : CassRow) : Prop := ∀ v ∈ row.columns, v.Typed

/- The two positions of a tuple or UDT iterator: how many fields are passed in the frame,
and the index of the next data type. -/
structure FieldsAligned (ended : Bool) (remaining : List ColumnType)
    (metadata : List CassDataType) (current : Option FieldEntry) : Prop where
  positions : ∃ passed, metadata = (passed ++ remaining).map getColumnType ∧
    (ended = false → nextTypesIndex current = passed.length)
  entry : ∀ e ∈ current, e.fieldValue.Typed ∧ e.metadataTypesIndex < metadata.length

structure ElementsAligned (it : CassElementIterator ε) : Prop where
  dataType : it.valueDataType = getColumnType it.iterator.elemTyp
  current : ∀ v ∈ it.currentValue, v.Typed

structure EntriesAligned (it : CassMapIterator ε) : Prop where
  key : it.keyValueTypes.1 = getColumnType it.iterator.keyTyp
  value : it.keyValueTypes.2 = getColumnType it.iterator.valueTyp
  current : ∀ entry ∈ it.currentEntry, entry.1.Typed ∧ entry.2.Typed

def Aligned (ended : Bool) : CassIterator ε → Prop
  | .result it => ∀ rows ∈ it, rows.resultMetadata = .fromColumnSpecs rows.specs ∧
      ∀ row ∈ rows.currentRow, RowTyped row
  | .row it => RowTyped it.row
  | .listlike it | .vector it => ElementsAligned it
  | .mapCollection it => EntriesAligned it.iterator
  | .map it => EntriesAligned it
  | .tuple it =>
    FieldsAligned ended it.iterator.remainingMetadata it.metadata it.currentEntry
  | .udt it => FieldsAligned ended (it.iterator.fields.map (fun field => field.1.2))
      (it.metadata.map Prod.snd) it.currentEntry

section Next
variable {d : Decoder ε}

theorem rows_next_aligned {it : CassRowsResultIterator ε}
    (metadata : it.resultMetadata = .fromColumnSpecs it.specs) :
    (it.next d).2.resultMetadata = .fromColumnSpecs (it.next d).2.specs ∧
      ∀ row ∈ (it.next d).2.currentRow, RowTyped row := by
  refine ⟨metadata, ?_⟩
  intro row current
  simp only [CassRowsResultIterator.next] at current
  split at current
  · contradiction
  · contradiction
  · rename_i bytes rest is
    rw [metadata] at current
    have built := toOption_eq_some.mp current
    have rowOf := CassRow.fromRawRowAndMetadata_of d.toColumnDecoder built
    intro v member
    obtain ⟨spec, -, -, typed⟩ := forall₂_mem_right rowOf member
    exact typed

theorem deserialize_typed {typ : ColumnType} {v : Option (List UInt8)} {raw : CassRawValue}
    {dataType : CassDataType} (decoded : (CassRawValue.deserialize typ v).toOption = some raw)
    (is : dataType = getColumnType typ) : (⟨raw, dataType⟩ : CassValue).Typed := by
  have same := CassRawValue.deserialize_typ (toOption_eq_some.mp decoded)
  rw [CassValue.Typed, same]
  exact is

theorem elements_next_aligned {it : CassElementIterator ε} (aligned : ElementsAligned it) :
    ElementsAligned it.next.2 := by
  obtain ⟨⟨elemTyp, cells⟩, dataType, current⟩ := it
  cases cells with
  | nil => exact ⟨aligned.dataType, by simp [CassElementIterator.next, ElementIterator.next]⟩
  | cons cell cells =>
    refine ⟨aligned.dataType, ?_⟩
    intro v member
    obtain ⟨raw, item, rfl⟩ := Option.map_eq_some_iff.mp member
    have read : deserializeCell elemTyp cell = some raw := item
    obtain ⟨content, -, decoded⟩ := Option.bind_eq_some_iff.mp read
    exact deserialize_typed decoded aligned.dataType

theorem entries_next_aligned {it : CassMapIterator ε} (aligned : EntriesAligned it) :
    EntriesAligned it.next.2 := by
  obtain ⟨⟨keyTyp, valueTyp, cells⟩, types, current⟩ := it
  cases cells with
  | nil =>
    exact ⟨aligned.key, aligned.value, by simp [CassMapIterator.next, MapIterator.next]⟩
  | cons cell cells =>
    refine ⟨aligned.key, aligned.value, ?_⟩
    intro entry member
    obtain ⟨⟨rawKey, rawValue⟩, item, rfl⟩ := Option.map_eq_some_iff.mp member
    simp only [Option.join_some, Option.bind_eq_bind, Option.bind_eq_some_iff] at item
    obtain ⟨content, -, key, keyDecoded, value, valueDecoded, is⟩ := item
    cases Option.some.inj is
    exact ⟨deserialize_typed keyDecoded aligned.key, deserialize_typed valueDecoded aligned.value⟩

theorem mapCollection_next_aligned {it : CassMapCollectionIterator ε}
    (aligned : EntriesAligned it.iterator) : EntriesAligned it.next.2.iterator := by
  unfold CassMapCollectionIterator.next
  split
  · exact aligned
  · exact entries_next_aligned aligned
  · exact entries_next_aligned aligned

variable {remaining : List ColumnType} {metadata : List CassDataType}
  {current : Option FieldEntry}

/- A field that is skipped leaves the two positions apart, and the iterator has ended. -/
theorem FieldsAligned.skip {ended : Bool} {head : ColumnType}
    (aligned : FieldsAligned ended (head :: remaining) metadata current) :
    FieldsAligned true remaining metadata current := by
  obtain ⟨passed, split, -⟩ := aligned.positions
  refine ⟨⟨passed ++ [head], ?_, by simp⟩, aligned.entry⟩
  rw [split, List.append_assoc, List.singleton_append]

theorem FieldsAligned.end {ended : Bool}
    (aligned : FieldsAligned ended remaining metadata current) :
    FieldsAligned true remaining metadata current := by
  obtain ⟨passed, split, -⟩ := aligned.positions
  exact ⟨⟨passed, split, by simp⟩, aligned.entry⟩

/- As long as no field was skipped, the data type is that of the field decoded, and
there is one. -/
theorem nextEntry_aligned {head : ColumnType} (slice : Option (List UInt8))
    (aligned : FieldsAligned false (head :: remaining) metadata current) :
    ∃ more entry, nextEntry metadata current head slice = some (more, entry) ∧
      FieldsAligned (!more) remaining metadata entry := by
  unfold nextEntry
  cases decoded : CassRawValue.deserialize head slice with
  | error e => exact ⟨false, current, rfl, aligned.skip⟩
  | ok raw =>
    obtain ⟨passed, split, index⟩ := aligned.positions
    have here := index rfl
    have found : metadata[nextTypesIndex current]? = some (getColumnType head) := by
      rw [split, here]
      simp
    refine ⟨true, some ⟨⟨raw, getColumnType head⟩, nextTypesIndex current⟩, ?_,
      ⟨passed ++ [head], ?_, ?_⟩, ?_⟩
    · simp only [found, Option.map_some]
    · rw [split, List.append_assoc, List.singleton_append]
    · intro _
      simp [nextTypesIndex, ← here]
    · intro e is
      cases is
      have typed : (⟨raw, getColumnType head⟩ : CassValue).Typed := by
        rw [CassValue.Typed, CassRawValue.deserialize_typ decoded]
      obtain ⟨bound, -⟩ := List.getElem?_eq_some_iff.mp found
      exact ⟨typed, bound⟩

theorem tuple_next_aligned {ended : Bool} {it : CassTupleIterator}
    (aligned : @Aligned ε ended (.tuple it))
    (stops : ended = true → it.iterator.remainingMetadata = []) :
    ∃ more next, it.next d = some (more, next) ∧
      @Aligned ε (ended || !more) (.tuple next) := by
  obtain ⟨⟨all, remaining, slice⟩, metadata, current⟩ := it
  simp only [Aligned] at aligned stops ⊢
  cases remaining with
  | nil =>
    refine ⟨false, _, rfl, ?_⟩
    rw [Bool.not_false, Bool.or_true]
    exact aligned.end
  | cons head remaining =>
    cases ended with
    | true => cases stops rfl
    | false =>
      simp only [CassTupleIterator.next, TupleIterator.next]
      generalize nextBytes d slice = read
      obtain ⟨cell, rest⟩ := read
      rcases cell with _ | e | raw
      · exact ⟨false, _, rfl, aligned.skip⟩
      · exact ⟨false, _, rfl, aligned.skip⟩
      · obtain ⟨more, entry, is, kept⟩ := nextEntry_aligned raw aligned
        exact ⟨more, ⟨⟨all, remaining, rest⟩, metadata, entry⟩, by simp only [is, Option.map_some], kept⟩

theorem udt_next_aligned {ended : Bool} {it : CassUdtIterator ε} (aligned : Aligned ended (.udt it))
    (stops : ended = true → it.iterator.fields = []) :
    ∃ more next, it.next = some (more, next) ∧ Aligned (ended || !more) (.udt next) := by
  obtain ⟨⟨fields⟩, metadata, current⟩ := it
  simp only [Aligned] at aligned stops ⊢
  cases fields with
  | nil =>
    refine ⟨false, _, rfl, ?_⟩
    rw [Bool.not_false, Bool.or_true]
    exact aligned.end
  | cons field fields =>
    cases ended with
    | true => cases stops rfl
    | false =>
      obtain ⟨head, cell⟩ := field
      cases cell with
      | error e => exact ⟨false, _, rfl, aligned.skip⟩
      | ok cell =>
        obtain ⟨more, entry, is, kept⟩ := nextEntry_aligned cell.join aligned
        refine ⟨more, ⟨⟨fields⟩, metadata, entry⟩, ?_, kept⟩
        simp only [CassUdtIterator.next, UdtIterator.next, is, Option.map_some]

theorem next_aligned {ended : Bool} {it : CassIterator ε} (aligned : Aligned ended it)
    (stops : ended = true → fieldsLeft it = 0) :
    ∃ more next, it.next d = some (more, next) ∧ Aligned (ended || !more) next := by
  cases it with
  | result it =>
    cases it with
    | none => exact ⟨false, _, rfl, by simp [Aligned]⟩
    | some it =>
      refine ⟨_, _, rfl, ?_⟩
      intro rows is
      cases is
      exact rows_next_aligned (aligned it rfl).1
  | row it => exact ⟨_, _, rfl, aligned⟩
  | listlike it | vector it => exact ⟨_, _, rfl, elements_next_aligned aligned⟩
  | mapCollection it => exact ⟨_, _, rfl, mapCollection_next_aligned aligned⟩
  | map it => exact ⟨_, _, rfl, entries_next_aligned aligned⟩
  | tuple it =>
    have stopped : ended = true → it.iterator.remainingMetadata = [] :=
      fun is => List.eq_nil_of_length_eq_zero (stops is)
    obtain ⟨more, next, moved, kept⟩ := tuple_next_aligned (d := d) aligned stopped
    exact ⟨more, .tuple next, by simp [CassIterator.next, moved], kept⟩
  | udt it =>
    have stopped : ended = true → it.iterator.fields = [] :=
      fun is => List.eq_nil_of_length_eq_zero (stops is)
    obtain ⟨more, next, moved, kept⟩ := udt_next_aligned aligned stopped
    exact ⟨more, .udt next, by simp [CassIterator.next, moved], kept⟩

end Next

section Create
variable {α τ : Type} {v : CassValue}

theorem newFromValue_of_typed {target : ColumnType → Option (List UInt8 → Except ε α)}
    {itemTypes : CassDataTypeInner CassDataType → Option τ} {P : α → τ → Prop} (typed : v.Typed)
    (agree : ∀ typ deserialize, target typ = some deserialize →
      ∃ types, itemTypes (getColumnType typ).inner = some types ∧
        ∀ slice it, deserialize slice = .ok it → P it types) :
    ∃ made, newFromValue target itemTypes v = some made ∧
      ∀ parts, made = .ok parts → P parts.1 parts.2 := by
  unfold newFromValue
  cases got : v.getNonNull target with
  | error e => exact ⟨.error e, rfl, nofun⟩
  | ok it =>
    unfold CassValue.getNonNull at got
    split at got
    · contradiction
    · split at got
      · contradiction
      · rename_i frameSlice _ _ deserialize checked
        obtain ⟨types, found, holds⟩ := agree _ deserialize checked
        have read := mapError_eq_ok.mp got
        rw [← typed] at found
        refine ⟨.ok (it, types), by rw [found]; rfl, ?_⟩
        intro parts is
        cases is
        exact holds frameSlice it read

theorem ofConstructed_aligned {build : α → τ} {wrap : τ → CassIterator ε}
    {made : Option (Except (NonNullDeserializationError ε) α)}
    (aligned : ∃ m, made = some m ∧ ∀ parts, m = .ok parts → Aligned false (wrap (build parts))) :
    ∃ created, CassIterator.ofConstructed wrap (made.map (·.map build)) = some created ∧
      ∀ it ∈ created, Aligned false it := by
  obtain ⟨m, rfl, holds⟩ := aligned
  refine ⟨(m.map build).toOption.map wrap, rfl, ?_⟩
  intro it is
  obtain ⟨built, ok, rfl⟩ := Option.map_eq_some_iff.mp is
  obtain ⟨parts, made, rfl⟩ := map_eq_ok.mp (toOption_eq_some.mp ok)
  exact holds parts made

theorem fromMap_aligned {d : Decoder ε} {wrap : CassMapIterator ε → CassIterator ε}
    (wrapped : ∀ it, EntriesAligned it → Aligned false (wrap it)) (typed : v.Typed) :
    ∃ created,
      CassIterator.ofConstructed wrap (CassMapIterator.newFromValue d v) = some created ∧
      ∀ it ∈ created, Aligned false it := by
  apply ofConstructed_aligned
  apply newFromValue_of_typed (P := fun it types => Aligned false (wrap ⟨it, types, none⟩)) typed
  intro typ deserialize target
  cases typ with
  | map key value frozen =>
    cases target
    refine ⟨_, rfl, ?_⟩
    intro slice it made
    obtain ⟨cells, -, rfl⟩ := map_eq_ok.mp made
    exact wrapped _ ⟨rfl, rfl, nofun⟩
  | _ => cases target

theorem listlike_aligned {d : Decoder ε} (typed : v.Typed) :
    ∃ created,
      CassIterator.ofConstructed .listlike (CassListlikeIterator.newFromValue d v) = some created ∧
      ∀ it ∈ created, Aligned false it := by
  apply ofConstructed_aligned
  apply newFromValue_of_typed (P := fun it typ => Aligned false (.listlike ⟨it, typ, none⟩)) typed
  intro typ deserialize target
  cases typ with
  | list typ frozen | set typ frozen =>
    cases target
    refine ⟨_, rfl, ?_⟩
    intro slice it made
    obtain ⟨cells, -, rfl⟩ := map_eq_ok.mp made
    exact ⟨rfl, nofun⟩
  | _ => cases target

/-- The iterators over nested values begin with their types in place, and none of their
constructors panics on a value that carries its own type. -/
theorem create_aligned (d : Decoder ε) (creator : Creator) (typed : v.Typed) :
    ∃ created, creator.create d v = some created ∧ ∀ it ∈ created, Aligned false it := by
  cases creator with
  | fromCollection =>
    simp only [Creator.create, CassIterator.fromCollection]
    split
    · exact listlike_aligned typed
    · exact listlike_aligned typed
    · exact fromMap_aligned (fun it aligned => aligned) typed
    · exact ⟨none, rfl, nofun⟩
  | fromMap => exact fromMap_aligned (fun it aligned => aligned) typed
  | fromVector =>
    apply ofConstructed_aligned
    apply newFromValue_of_typed (P := fun it typ => Aligned false (.vector ⟨it, typ, none⟩)) typed
    intro typ deserialize target
    cases typ with
    | vector typ dimensions =>
      cases target
      refine ⟨_, rfl, ?_⟩
      intro slice it made
      obtain ⟨cells, -, rfl⟩ := map_eq_ok.mp made
      exact ⟨rfl, nofun⟩
    | _ => cases target
  | fromTuple =>
    apply ofConstructed_aligned
    apply newFromValue_of_typed (P := fun it types => Aligned false (.tuple ⟨it, types, none⟩)) typed
    intro typ deserialize target
    cases typ with
    | tuple types =>
      cases target
      refine ⟨_, rfl, ?_⟩
      intro slice it made
      cases made
      exact ⟨⟨[], getColumnTypes_eq types, fun _ => rfl⟩, nofun⟩
    | _ => cases target
  | fieldsFromUserType =>
    apply ofConstructed_aligned
    apply newFromValue_of_typed (P := fun it fields => Aligned false (.udt ⟨it, fields, none⟩)) typed
    intro typ deserialize target
    cases typ with
    | userDefinedType fieldTypes keyspace name frozen =>
      cases target
      refine ⟨_, rfl, ?_⟩
      intro slice it made
      obtain ⟨fields, read, rfl⟩ := map_eq_ok.mp made
      refine ⟨⟨[], ?_, fun _ => rfl⟩, nofun⟩
      have typesOf := congrArg (List.map Prod.snd) (d.udt_fields _ _ _ read)
      rw [List.map_map] at typesOf
      change (getFieldTypes fieldTypes).map Prod.snd = (fields.map (Prod.snd ∘ Prod.fst)).map getColumnType
      rw [typesOf, getFieldTypes_eq, List.map_map, List.map_map]
      rfl
    | _ => cases target

end Create

section Runs
variable {ended : Bool} {it : CassIterator ε}

theorem getRow_typed (aligned : Aligned ended it) {row : CassRow} (got : it.getRow = some row) :
    RowTyped row := by
  cases it with
  | result it =>
    cases it with
    | none => contradiction
    | some rows => exact (aligned rows rfl).2 row got
  | _ => contradiction

theorem get_typed (aligned : Aligned ended it) {getter : Getter} {v : CassValue}
    (got : getter.get it = some v) : v.Typed := by
  cases getter with
  | column =>
    cases it with
    | row it =>
      obtain ⟨position, -, found⟩ := Option.bind_eq_some_iff.mp got
      exact aligned v (List.mem_of_getElem? found)
    | _ => contradiction
  | value =>
    cases it with
    | listlike it | vector it => exact aligned.current v got
    | mapCollection it =>
      simp only [Getter.get, CassIterator.getValue] at got
      split at got
      · contradiction
      · obtain ⟨entry, current, rfl⟩ := Option.map_eq_some_iff.mp got
        exact (aligned.current entry current).1
      · obtain ⟨entry, current, rfl⟩ := Option.map_eq_some_iff.mp got
        exact (aligned.current entry current).2
    | tuple it =>
      obtain ⟨entry, current, rfl⟩ := Option.map_eq_some_iff.mp got
      exact (aligned.entry entry current).1
    | _ => contradiction
  | mapKey =>
    cases it with
    | map it =>
      obtain ⟨entry, current, rfl⟩ := Option.map_eq_some_iff.mp got
      exact (aligned.current entry current).1
    | _ => contradiction
  | mapValue =>
    cases it with
    | map it =>
      obtain ⟨entry, current, rfl⟩ := Option.map_eq_some_iff.mp got
      exact (aligned.current entry current).2
    | _ => contradiction
  | userTypeFieldValue =>
    cases it with
    | udt it =>
      obtain ⟨entry, current, rfl⟩ := Option.map_eq_some_iff.mp got
      exact (aligned.entry entry current).1
    | _ => contradiction

theorem getUserTypeFieldName_total (aligned : Aligned ended it) :
    ∃ name, it.getUserTypeFieldName = some name := by
  cases it with
  | udt it =>
    cases current : it.currentEntry with
    | none => exact ⟨.error .libBadParams, by simp only [CassIterator.getUserTypeFieldName, current]⟩
    | some entry =>
      have bound := (aligned.entry entry current).2
      rw [List.length_map] at bound
      refine ⟨.ok it.metadata[entry.metadataTypesIndex].1, ?_⟩
      simp only [CassIterator.getUserTypeFieldName, current, List.getElem?_eq_getElem bound,
        Option.map_some]
  | _ => exact ⟨_, rfl⟩

structure State.Typed (s : State ε) : Prop where
  handles : ∀ h ∈ s.handles, Aligned h.ended h.iterator
  rows : ∀ row ∈ s.rows, RowTyped row
  values : ∀ v ∈ s.values, v.Typed

theorem State.Typed.addHandle {s : State ε} (inv : s.Typed) (aligned : Aligned false it) :
    (s.addHandle it).Typed := by
  refine ⟨?_, inv.rows, inv.values⟩
  intro h member
  rcases List.mem_append.mp member with old | new
  · exact inv.handles h old
  · rw [List.mem_singleton.mp new]
    exact aligned

/-- A call that is allowed returns, and what it hands out carries its own type. -/
theorem step_typed (d : Decoder ε) {result : Option (RowsResult ε)}
    (described : ∀ r ∈ result, r.metadata = .fromColumnSpecs r.specs) {s : State ε}
    (inv : s.Typed) {c : Call} (allowed : StopsAtFalse s c) :
    ∃ t, step d result s c = some t ∧ t.Typed := by
  cases c with
  | fromResult =>
    refine ⟨_, rfl, inv.addHandle ?_⟩
    intro rows is
    obtain ⟨r, found, rfl⟩ := Option.map_eq_some_iff.mp is
    exact ⟨described r found, nofun⟩
  | fromRow r =>
    cases found : s.rows[r]? with
    | none => exact ⟨s, by simp only [step, found], inv⟩
    | some row =>
      have typed := inv.rows row (List.mem_of_getElem? found)
      exact ⟨s.addHandle (.row ⟨row, none⟩), by simp only [step, found], inv.addHandle typed⟩
  | create creator v =>
    cases found : s.values[v]? with
    | none => exact ⟨s, by simp only [step, found], inv⟩
    | some value =>
      have typed := inv.values value (List.mem_of_getElem? found)
      obtain ⟨created, made, aligned⟩ := create_aligned d creator typed
      refine ⟨created.elim s s.addHandle, by simp only [step, found, made, Option.map_some], ?_⟩
      cases created with
      | none => exact inv
      | some it => exact inv.addHandle (aligned it rfl)
  | next i =>
    cases found : s.handles[i]? with
    | none => exact ⟨s, by simp only [step, found], inv⟩
    | some h =>
      have aligned := inv.handles h (List.mem_of_getElem? found)
      obtain ⟨more, next, moved, kept⟩ := next_aligned (d := d) aligned (allowed h found)
      refine ⟨{ s with handles := s.handles.set i ⟨next, h.ended || !more⟩ }, ?_, ?_, inv.rows,
        inv.values⟩
      · simp only [step, found, moved, Option.map_some]
      · intro other member
        rcases List.mem_or_eq_of_mem_set member with old | rfl
        · exact inv.handles other old
        · exact kept
  | getRow i =>
    refine ⟨_, rfl, inv.handles, ?_, inv.values⟩
    intro row member
    rcases List.mem_append.mp member with old | new
    · exact inv.rows row old
    · obtain ⟨h, found, got⟩ := Option.bind_eq_some_iff.mp (Option.mem_toList.mp new)
      exact getRow_typed (inv.handles h (List.mem_of_getElem? found)) got
  | get getter i =>
    refine ⟨_, rfl, inv.handles, inv.rows, ?_⟩
    intro v member
    rcases List.mem_append.mp member with old | new
    · exact inv.values v old
    · obtain ⟨h, found, got⟩ := Option.bind_eq_some_iff.mp (Option.mem_toList.mp new)
      exact get_typed (inv.handles h (List.mem_of_getElem? found)) got
  | getUserTypeFieldName i =>
    cases found : s.handles[i]? with
    | none => exact ⟨s, by simp only [step, found], inv⟩
    | some h =>
      obtain ⟨name, is⟩ := getUserTypeFieldName_total (inv.handles h (List.mem_of_getElem? found))
      exact ⟨s, by simp only [step, found, is, Option.map_some], inv⟩

end Runs

/-- Calls that leave a tuple or UDT iterator alone once it has returned false before its
last field all return, and every value they hand out carries its own type. -/
theorem iterators_hand_out_own_types (d : Decoder ε) {result : Option (RowsResult ε)}
    (described : ∀ r ∈ result, r.metadata = .fromColumnSpecs r.specs) {calls : List Call}
    (allowed : Guarded StopsAtFalse (step d result) State.new calls) :
    ∃ t, run (step d result) State.new calls = some t ∧ ∀ v ∈ t.values, v.Typed := by
  have total : ∀ (s : State ε) c, s.Typed → StopsAtFalse s c →
      ∃ t, step d result s c = some t ∧ t.Typed := fun s c inv => step_typed d described inv
  have start : (State.new : State ε).Typed := ⟨nofun, nofun, nofun⟩
  obtain ⟨t, ran, inv⟩ := run_total_guarded total start allowed
  exact ⟨t, ran, inv.values⟩

/- Frames of the protocol, without vectors. -/
def readCellOf (bytes : List UInt8) : Cell Unit × List UInt8 :=
  match readCell bytes with
  | some (cell, rest) => (.ok cell, rest)
  | none => (.error (), [])

def cellsOf : Nat → List UInt8 → List (Cell Unit)
  | 0, _ => []
  | n + 1, bytes => (readCellOf bytes).1 :: cellsOf n (readCellOf bytes).2

def countedCells (perItem : Nat) (bytes : List UInt8) : Except Unit (List (Cell Unit)) :=
  match readNat 4 bytes with
  | some (count, rest) => if count < 2 ^ 31 then .ok (cellsOf (perItem * count) rest) else .error ()
  | none => .error ()

def pairCells : List (Cell Unit) → List (Except Unit (Option (List UInt8) × Option (List UInt8)))
  | k :: v :: cells => (do return (← k, ← v)) :: pairCells cells
  | _ => []

def columnsOf (index : Nat) : List ColumnSpec → List UInt8 → List (Except Unit RawColumn)
  | [], _ => []
  | spec :: specs, bytes =>
    (readCellOf bytes).1.map (⟨index, spec, ·⟩) :: columnsOf (index + 1) specs (readCellOf bytes).2

theorem columnsOf_specs (index : Nat) (specs : List ColumnSpec) (bytes : List UInt8) :
    List.Forall₂ (fun spec column => ∀ raw, column = .ok raw → raw.spec = spec) specs
      (columnsOf index specs bytes) := by
  induction specs generalizing index bytes with
  | nil => exact .nil
  | cons spec specs ih =>
    refine .cons (fun raw read => ?_) (ih _ _)
    obtain ⟨slice, -, rfl⟩ := map_eq_ok.mp read
    rfl

/- Behind the last byte the fields are missing. -/
def udtFieldsOf : List (String × ColumnType) → List UInt8 → List (UdtField Unit)
  | [], _ => []
  | field :: fields, bytes =>
    (field, if bytes.isEmpty then .ok none else (readCellOf bytes).1.map some) ::
      udtFieldsOf fields (readCellOf bytes).2

theorem udtFieldsOf_fields (fieldTypes : List (String × ColumnType)) (bytes : List UInt8) :
    (udtFieldsOf fieldTypes bytes).map Prod.fst = fieldTypes := by
  induction fieldTypes generalizing bytes with
  | nil => rfl
  | cons field fields ih => rw [udtFieldsOf, List.map_cons, ih]

def frameDecoder : Decoder Unit where
  columns := columnsOf 0
  columns_specs := columnsOf_specs 0
  readCqlBytes := readCellOf
  listlike := countedCells 1
  map := fun bytes => (countedCells 2 bytes).map pairCells
  vector := fun _ _ _ => .error ()
  udt := fun fieldTypes bytes => .ok (udtFieldsOf fieldTypes bytes)
  udt_fields := by
    rintro fieldTypes bytes _ ⟨⟩
    exact udtFieldsOf_fields fieldTypes bytes

/-- One row with a tuple of a list that is cut short and an empty map. -/
def cutListResult : RowsResult Unit :=
  let specs : List ColumnSpec :=
    [⟨"t", .tuple [.list (.native .int) false, .map (.native .int) (.native .int) false]⟩]
  { specs
    rows := [.ok [0, 0, 0, 13, 0, 0, 0, 1, 0, 0, 0, 0, 4, 0, 0, 0, 0]]
    metadata := .fromColumnSpecs specs }

def openTuple : List Call :=
  [.fromResult, .next 0, .getRow 0, .fromRow 0, .next 1, .get .column 1, .create .fromTuple 0,
    .next 2]

theorem iterators_hand_out_own_types_cut :
    ∃ t, run (step frameDecoder (some cutListResult)) State.new openTuple = some t ∧
      ∀ v ∈ t.values, v.Typed := by
  apply iterators_hand_out_own_types
  · intro r is
    cases is
    rfl
  · decide +kernel

/-- Advanced once more, the iterator hands out the map with the data type of the list, and
an iterator over this map ends the program. -/
theorem iterators_hand_out_other_types :
    ∃ t v, run (step frameDecoder (some cutListResult)) State.new
        (openTuple ++ [.next 2, .get .value 2]) = some t ∧
      t.values[1]? = some v ∧ ¬ v.Typed ∧
      step frameDecoder (some cutListResult) t (.create .fromMap 1) = none := by
  refine ⟨_, _, rfl, rfl, ?_, rfl⟩
  intro typed
  cases typed

end CppRsDriver.Result.Iteration
