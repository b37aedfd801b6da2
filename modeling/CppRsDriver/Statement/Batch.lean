import CppRsDriver.Statement.Checked
import CppRsDriver.Statement.Named

/-! A statement executed alone and in a batch. The batch takes the vector of values and
leaves the names behind. -/
namespace CppRsDriver.Statement

open CppRsDriver.Lib CppRsDriver.Types CppRsDriver.Wire

/-- The same cells in the same order, or an error both times. -/
def SameRow {E C : Type} : Except (RowError E) (List C) → Except (RowError E) (List C) → Prop
  | .ok row, .ok row' => row = row'
  | .error _, .error _ => True
  | _, _ => False

theorem sameRow_iff {E C : Type} {x y : Except (RowError E) (List C)} :
    SameRow x y ↔ ∀ row, x = .ok row ↔ y = .ok row := by
  cases x with
  | ok row =>
    cases y with
    | ok row' =>
      refine ⟨?_, fun h => (Except.ok.inj ((h row).mp rfl)).symm⟩
      rintro rfl
      exact fun _ => Iff.rfl
    | error e => exact ⟨False.elim, fun h => nomatch (h row).mp rfl⟩
  | error e =>
    cases y with
    | ok row' => exact ⟨False.elim, fun h => nomatch (h row').mpr rfl⟩
    | error e' => exact ⟨fun _ row => ⟨nofun, nofun⟩, fun _ => trivial⟩

/-- A batch of the statements, added in order. -/
def batchOf (statements : List BoundStatement) : CassBatchState :=
  statements.foldl CassBatchState.addStatement .new

/-- What `cass_batch_add_statement` keeps of a statement. -/
def BoundStatement.toEntry : BoundStatement → BatchStatement × List Slot
  | .simple q => (.query q.query, q.boundValues)
  | .prepared p => (.preparedStatement p.statement, p.boundValues)

theorem batchOf_eq (statements : List BoundStatement) :
    batchOf statements = ⟨statements.map (fun s => s.toEntry.1), statements.map (fun s => s.toEntry.2)⟩ := by
  have adds : ∀ state : CassBatchState, statements.foldl CassBatchState.addStatement state =
      ⟨state.statements ++ statements.map (fun s => s.toEntry.1),
        state.boundValues ++ statements.map (fun s => s.toEntry.2)⟩ := by
    induction statements with
    | nil => simp
    | cons s statements ih =>
      intro state
      rw [List.foldl_cons, ih]
      cases s <;> simp [CassBatchState.addStatement, BoundStatement.toEntry]
  exact adds .new

section Rows
variable {E C : Type} (cell : ColumnType → Slot → Except E C)
  {vec : List ColumnSpec → List Slot → Except E (List C)} (describe : String → List ColumnSpec)

theorem execute_batchOf (statements : List BoundStatement) :
    (batchOf statements).execute vec describe =
      statements.map (fun s => CassBatchState.serializeEntry vec describe s.toEntry) := by
  rw [batchOf_eq, CassBatchState.execute, List.zip_map', List.map_map]
  rfl

/-- The slot a column gets its value from when the statement is executed alone. -/
def BoundSimpleStatement.namedSlot (q : BoundSimpleStatement) (col : ColumnSpec) : Option Slot :=
  (q.nameToBoundIndex.lookup col.name).bind (fun i => q.boundValues[i]?)

/-- Each column's name has a slot with the value of the slot at the column's position, and there
are no other slots. -/
def BoundSimpleStatement.InColumnOrder (q : BoundSimpleStatement) : Prop :=
  List.Forall₂ (fun col slot => q.namedSlot col = some slot) (describe q.query) q.boundValues

/-- A column has no value by name, and there are not as many values as columns. -/
def BoundSimpleStatement.Unusable (q : BoundSimpleStatement) : Prop :=
  (∃ col ∈ describe q.query, q.namedSlot col = none) ∧
    (describe q.query).length ≠ q.boundValues.length

/-- A prepared statement, a simple one without names, or one whose names make no difference. -/
def BoundStatement.BatchSafe : BoundStatement → Prop
  | .prepared _ => True
  | .simple q => q.nameToBoundIndex = [] ∨ q.InColumnOrder describe ∨ q.Unusable describe

variable {cell describe}

theorem serializeColumn_eq_ok {q : BoundSimpleStatement} {col : ColumnSpec} {c : C} :
    SimpleQueryRowSerializer.serializeColumn cell ⟨q.boundValues, q.nameToBoundIndex⟩ col = .ok c ↔
      ∃ named, q.namedSlot col = some named ∧ cell col.typ named = .ok c := by
  simp only [SimpleQueryRowSerializer.serializeColumn, BoundSimpleStatement.namedSlot]
  cases q.nameToBoundIndex.lookup col.name with
  | none => simp
  | some i =>
    cases at' : q.boundValues[i]? with
    | none => simp [at']
    | some slot => simp [at', mapError_eq_ok]

theorem BoundSimpleStatement.NamesInside.isEmpty_eq_false {q : BoundSimpleStatement}
    (inside : q.NamesInside) (named : q.nameToBoundIndex ≠ []) : q.boundValues.isEmpty = false := by
  have positive := List.length_pos_of_ne_nil named
  rw [List.isEmpty_eq_false_iff]
  exact List.ne_nil_of_length_pos (Nat.lt_of_lt_of_le positive inside.2)

theorem execute_named {q : BoundSimpleStatement} (inside : q.NamesInside)
    (named : q.nameToBoundIndex ≠ []) :
    (BoundStatement.simple q).execute cell vec describe =
      (describe q.query).mapM
        (SimpleQueryRowSerializer.serializeColumn cell ⟨q.boundValues, q.nameToBoundIndex⟩) := by
  have values := inside.isEmpty_eq_false named
  have names : q.nameToBoundIndex.isEmpty = false := List.isEmpty_eq_false_iff.mpr named
  simp [BoundStatement.execute, SimpleQueryRowSerializer.serialize, values, names]

theorem serializeEntry_simple {q : BoundSimpleStatement} (inside : q.NamesInside)
    (named : q.nameToBoundIndex ≠ []) :
    CassBatchState.serializeEntry vec describe (BoundStatement.simple q).toEntry =
      (vec (describe q.query) q.boundValues).mapError .values := by
  have values := inside.isEmpty_eq_false named
  simp [BoundStatement.toEntry, CassBatchState.serializeEntry, values]

theorem sameRow_inColumnOrder (positional : Positional cell vec) {q : BoundSimpleStatement}
    (inOrder : q.InColumnOrder describe) (row : List C) :
    (describe q.query).mapM
        (SimpleQueryRowSerializer.serializeColumn cell ⟨q.boundValues, q.nameToBoundIndex⟩) = .ok row ↔
      vec (describe q.query) q.boundValues = .ok row := by
  rw [mapM_eq_ok, positional, and_iff_right inOrder.length_eq]
  refine forall₂_iff_zip ?_ inOrder row
  intro col slot found c
  rw [serializeColumn_eq_ok]
  constructor
  · rintro ⟨slot', found', written⟩
    cases Option.some.inj (found.symm.trans found')
    exact written
  · exact fun written => ⟨slot, found, written⟩

theorem sameRow_unusable (positional : Positional cell vec) {q : BoundSimpleStatement}
    (unusable : q.Unusable describe) (row : List C) :
    (describe q.query).mapM
        (SimpleQueryRowSerializer.serializeColumn cell ⟨q.boundValues, q.nameToBoundIndex⟩) = .ok row ↔
      vec (describe q.query) q.boundValues = .ok row := by
  obtain ⟨⟨col, member, missing⟩, differs⟩ := unusable
  constructor
  · intro alone
    obtain ⟨c, -, byName⟩ := forall₂_mem_left (mapM_eq_ok.mp alone) member
    obtain ⟨slot, found, -⟩ := serializeColumn_eq_ok.mp byName
    cases missing.symm.trans found
  · intro batch
    exact absurd ((positional _ _ row).mp batch).1 differs

theorem sameRow_of_batchSafe (positional : Positional cell vec) {s : BoundStatement}
    (inside : s.NamesInside) (safe : s.BatchSafe describe) :
    SameRow (s.execute cell vec describe) (CassBatchState.serializeEntry vec describe s.toEntry) := by
  rw [sameRow_iff]
  intro row
  cases s with
  | prepared p => exact Iff.rfl
  | simple q =>
    by_cases unnamed : q.nameToBoundIndex = []
    · simp [BoundStatement.execute, SimpleQueryRowSerializer.serialize, BoundStatement.toEntry,
        CassBatchState.serializeEntry, unnamed]
    · rw [execute_named inside unnamed, serializeEntry_simple inside unnamed, mapError_eq_ok]
      rcases safe with none | inOrder | unusable
      · exact absurd none unnamed
      · exact sameRow_inColumnOrder positional inOrder row
      · exact sameRow_unusable positional unusable row

/-- A serializer that fails on no value and tells all of them apart. -/
def copySlot (_typ : ColumnType) (slot : Slot) : Except Unit Slot := .ok slot

theorem vecSerialize_copySlot {columns : List ColumnSpec} {values : List Slot}
    (length : columns.length = values.length) :
    vecSerialize copySlot () columns values = .ok ((columns.zip values).map Prod.snd) := by
  rw [vecSerialize_positional]
  refine ⟨length, List.forall₂_map_right_iff.mpr ?_⟩
  exact List.forall₂_same.mpr (fun _ _ => rfl)

/- With that serializer no other statement has the same row in a batch. -/
theorem batchSafe_of_copySlot {s : BoundStatement} (inside : s.NamesInside)
    (same : SameRow (s.execute copySlot (vecSerialize copySlot ()) describe)
      (CassBatchState.serializeEntry (vecSerialize copySlot ()) describe s.toEntry)) :
    s.BatchSafe describe := by
  cases s with
  | prepared p => exact trivial
  | simple q =>
    by_cases unnamed : q.nameToBoundIndex = []
    · exact .inl unnamed
    rw [sameRow_iff, execute_named inside unnamed, serializeEntry_simple inside unnamed] at same
    simp only [mapError_eq_ok] at same
    refine .inr ?_
    cases alone : (describe q.query).mapM
        (SimpleQueryRowSerializer.serializeColumn copySlot ⟨q.boundValues, q.nameToBoundIndex⟩) with
    | ok row =>
      obtain ⟨length, cells⟩ := (vecSerialize_positional copySlot () _ _ row).mp ((same row).mp alone)
      refine .inl (forall₂_of_zip ?_ length (mapM_eq_ok.mp alone) cells)
      intro col slot c byName byPosition
      obtain ⟨named, found, copied⟩ := serializeColumn_eq_ok.mp byName
      cases copied
      cases byPosition
      exact found
    | error e =>
      refine .inr ⟨?_, fun length => ?_⟩
      · obtain ⟨col, member, failed⟩ := mapM_eq_error alone
        refine ⟨col, member, Option.eq_none_iff_forall_ne_some.mpr (fun named found => ?_)⟩
        cases failed.symm.trans (serializeColumn_eq_ok.mpr ⟨named, found, rfl⟩)
      · cases alone.symm.trans ((same _).mpr (vecSerialize_copySlot length))

theorem execute_not_panicked {s : BoundStatement} (inside : s.NamesInside) :
    s.execute cell vec describe ≠ .error .panicked := by
  cases s with
  | prepared p =>
    intro panicked
    obtain ⟨err, -, is⟩ := mapError_eq_error.mp panicked
    cases is
  | simple q =>
    rw [BoundStatement.execute]
    split
    · rintro ⟨⟩
    · exact serialize_not_panicked inside _

variable (describe) in
/-- Whatever is bound and however a cell is written, a statement that is prepared, has no names or
has names that make no difference sends the same row in a batch as alone; any other one sends
another row with some serializer. -/
theorem batch_row_same_iff (start s : BoundStatement) (fresh : Fresh start) (calls : List Call)
    (ran : run step start calls = some s) (before after : List BoundStatement) :
    (∀ (E C : Type) (cell : ColumnType → Slot → Except E C)
      (vec : List ColumnSpec → List Slot → Except E (List C)),
      s.execute cell vec describe ≠ .error .panicked) ∧
    (s.BatchSafe describe ↔ ∀ (E C : Type) (cell : ColumnType → Slot → Except E C)
      (vec : List ColumnSpec → List Slot → Except E (List C)), Positional cell vec →
        ∃ row, ((batchOf (before ++ s :: after)).execute vec describe)[before.length]? = some row ∧
          SameRow (s.execute cell vec describe) row) := by
  have inside := fresh.namesInside ran
  have row (E C : Type) (vec : List ColumnSpec → List Slot → Except E (List C)) :
      ((batchOf (before ++ s :: after)).execute vec describe)[before.length]? =
        some (CassBatchState.serializeEntry vec describe s.toEntry) := by
    rw [execute_batchOf]
    simp
  refine ⟨fun E C cell vec => execute_not_panicked inside, fun safe E C cell vec positional => ?_,
    fun same => ?_⟩
  · exact ⟨_, row E C vec, sameRow_of_batchSafe positional inside safe⟩
  · obtain ⟨found, at', same⟩ := same Unit Slot copySlot _ (vecSerialize_positional copySlot ())
    cases Option.some.inj ((row _ _ _).symm.trans at')
    exact batchSafe_of_copySlot inside same

end Rows

/- The names are bound in the order of the columns. -/
theorem batch_row_same_iff_in_order :
    let columns : List ColumnSpec := [⟨"a", .native .int⟩, ⟨"b", .native .int⟩]
    let calls : List Call :=
      [.bindByName "a" (some (.scalar (.int 1))), .bindByName "b" (some (.scalar (.int 2)))]
    let cell := serializeSlot standardSize
    let vec := vecSerialize cell .sizeOverflow
    ∃ s row, run step (.newUnprepared "q" 2) calls = some s ∧
      ((batchOf [s]).execute vec (fun _ => columns))[0]? = some row ∧
      SameRow (s.execute cell vec (fun _ => columns)) row := by
  intro columns calls cell vec
  have same := (batch_row_same_iff (fun _ => columns) _ _ (.simple "q" 2) calls rfl [] []).2
  obtain ⟨row, at', rows⟩ := same.mp (.inr (.inl (.cons rfl (.cons rfl .nil)))) _ _ cell vec
    (vecSerialize_positional cell .sizeOverflow)
  exact ⟨_, row, rfl, at', rows⟩

/-- Names bound in another order: the batch sends each value for the other column. -/
theorem batch_swaps_named_values :
    let columns : List ColumnSpec := [⟨"a", .native .int⟩, ⟨"b", .native .int⟩]
    let calls : List Call :=
      [.bindByName "b" (some (.scalar (.int 2))), .bindByName "a" (some (.scalar (.int 1)))]
    let cell := serializeSlot standardSize
    let vec := vecSerialize cell .sizeOverflow
    ∃ s, run step (.newUnprepared "q" 2) calls = some s ∧
      s.execute cell vec (fun _ => columns) =
        .ok [[0, 0, 0, 4, 0, 0, 0, 1], [0, 0, 0, 4, 0, 0, 0, 2]] ∧
      (batchOf [s]).execute vec (fun _ => columns) =
        [.ok [[0, 0, 0, 4, 0, 0, 0, 2], [0, 0, 0, 4, 0, 0, 0, 1]]] := by
  intro columns calls cell vec
  exact ⟨_, rfl, rfl, rfl⟩

end CppRsDriver.Statement
