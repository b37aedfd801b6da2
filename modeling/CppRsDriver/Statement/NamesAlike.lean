import CppRsDriver.Statement.Atomic
import CppRsDriver.Statement.Named

/-! Values bound by name to a simple statement and to a prepared statement of the same
query. The prepared one finds the column when the value is bound, ignoring the case of a
name without quotes; the simple one keeps the name as it was spelled and looks the
columns up when it is executed. -/
namespace CppRsDriver.Statement

open CppRsDriver.Lib CppRsDriver.Types CppRsDriver.Wire

/-- A step that returns `CASS_OK`. -/
def stepOk (s : BoundStatement) (c : Call) : Option BoundStatement :=
  (call s c).bind (fun (code, next) => if code = .ok then some next else none)

theorem stepOk_eq_some {s t : BoundStatement} {c : Call} :
    stepOk s c = some t ↔ call s c = some (.ok, t) := by
  unfold stepOk
  constructor
  · intro stepped
    obtain ⟨⟨code, next⟩, called, is⟩ := Option.bind_eq_some_iff.mp stepped
    simp only at is
    split at is
    · rename_i ok
      cases Option.some.inj is
      rw [called, ok]
    · cases is
  · intro called
    rw [called]
    rfl

/- The binds by name of a client. -/
abbrev Bind := String × Option Value

def Bind.call (b : Bind) : Call := .bindByName b.1 b.2

/-- The name is spelled as a column, if it has no quotes. -/
def Bind.Spelled (columns : List ColumnSpec) (b : Bind) : Prop :=
  (unquote b.1).2 = false → ∃ col ∈ columns, col.name = b.1

/-- Names that differ by more than the case of their letters. -/
def NamesDiffer (columns : List ColumnSpec) : Prop :=
  columns.Pairwise (fun a b => eqIgnoreAsciiCase a.name b.name = false)

/-- What a column gets from the values bound by name. -/
def slotFor (bound : Bound) (col : ColumnSpec) : Slot :=
  match bound.lookup col.name with
  | some value => .set value
  | none => .unset

section Names
variable {columns : List ColumnSpec} {name : String}

theorem eqIgnoreAsciiCase_refl (name : String) : eqIgnoreAsciiCase name name = true := by
  simp [eqIgnoreAsciiCase]

theorem eqIgnoreAsciiCase_comm (a b : String) : eqIgnoreAsciiCase a b = eqIgnoreAsciiCase b a := by
  simp only [eqIgnoreAsciiCase]
  exact BEq.comm

theorem NamesDiffer.eq_of_ignoreCase (differ : NamesDiffer columns) {a b : ColumnSpec}
    (memberA : a ∈ columns) (memberB : b ∈ columns) (same : eqIgnoreAsciiCase a.name b.name = true) :
    a = b := by
  induction columns with
  | nil => cases memberA
  | cons col columns ih =>
    obtain ⟨head, tail⟩ := List.pairwise_cons.mp differ
    rcases List.mem_cons.mp memberA with rfl | inA
    · rcases List.mem_cons.mp memberB with rfl | inB
      · rfl
      · exact absurd same (by simp [head b inB])
    · rcases List.mem_cons.mp memberB with rfl | inB
      · rw [eqIgnoreAsciiCase_comm] at same
        exact absurd same (by simp [head a inA])
      · exact ih tail inA inB

theorem matchesName_iff (differ : NamesDiffer columns) (spelled : ∃ col ∈ columns, col.name = name)
    (isCaseSensitive : Bool) {col : ColumnSpec} (member : col ∈ columns) :
    BoundPreparedStatement.matchesName isCaseSensitive name col = true ↔ col.name = name := by
  cases isCaseSensitive with
  | true => simp [BoundPreparedStatement.matchesName]
  | false =>
    simp only [BoundPreparedStatement.matchesName, Bool.false_and, Bool.false_or, Bool.not_false,
      Bool.true_and]
    obtain ⟨own, isColumn, rfl⟩ := spelled
    constructor
    · intro same
      rw [differ.eq_of_ignoreCase member isColumn same]
    · intro same
      rw [same]
      exact eqIgnoreAsciiCase_refl _

end Names

section Prepared
variable {columns : List ColumnSpec} {p p' : BoundPreparedStatement} {bound : Bound} {name : String}
  {value : Option Value}

theorem BoundPreparedStatement.bindCqlValueByName_ok {isCaseSensitive : Bool}
    (called : p.bindCqlValueByName name isCaseSensitive value = some (.ok, p')) :
    (∃ j, p.columnNamed name isCaseSensitive j = true) ∧ p'.statement = p.statement ∧
      ∀ j, p'.boundValues[j]? = if p.columnNamed name isCaseSensitive j = true
        then some (.set value) else p.boundValues[j]? := by
  rcases bindCqlValueByName_outcome called with ⟨failed, -⟩ | ⟨-, bound⟩
  · exact absurd rfl failed
  · exact bound

/-- The prepared statement after binds of column names: each column has what was bound last
by its name. -/
structure BoundPreparedStatement.Holds (columns : List ColumnSpec) (p : BoundPreparedStatement)
    (bound : Bound) : Prop where
  statement : p.statement = .newFromPreparedStatement columns
  slots : p.boundValues = columns.map (slotFor bound)

theorem BoundPreparedStatement.Holds.bindByName (holds : p.Holds columns bound)
    (differ : NamesDiffer columns) (spelled : ∃ col ∈ columns, col.name = name) {isCaseSensitive : Bool}
    (called : p.bindCqlValueByName name isCaseSensitive value = some (.ok, p')) :
    p'.Holds columns ((name, value) :: bound) := by
  obtain ⟨-, same, slots⟩ := bindCqlValueByName_ok called
  refine ⟨same.trans holds.statement, List.ext_getElem? (fun j => ?_)⟩
  have specs : p.statement.variableColSpecs = columns := by rw [holds.statement]; rfl
  rw [slots, columnNamed, specs, holds.slots, List.getElem?_map, List.getElem?_map]
  cases at' : columns[j]? with
  | none => rfl
  | some col =>
    have member := List.mem_of_getElem? at'
    have matches' := matchesName_iff differ spelled isCaseSensitive member
    simp only [Option.any_some, Option.map_some, matches', slotFor, List.lookup_cons]
    by_cases is : col.name = name
    · simp [is]
    · rw [if_neg is, beq_eq_false_iff_ne.mpr is]

end Prepared

section Simple
variable {columns : List ColumnSpec} {q : BoundSimpleStatement} {bound : Bound} {name : String}

/- There is a slot for every column, so a name of a column never lacks one. -/
theorem BoundSimpleStatement.Holds.room (holds : q.Holds bound true)
    (enough : q.boundValues.length = columns.length)
    (names : ∀ other, (bound.lookup other).isSome = true → ∃ col ∈ columns, col.name = other)
    (spelled : ∃ col ∈ columns, col.name = name) (absent : q.nameToBoundIndex.lookup name = none) :
    q.nameToBoundIndex.length < q.boundValues.length := by
  have fits : (q.nameToBoundIndex.length + 1) ≤ (columns.map ColumnSpec.name).length := by
    apply (holds.inside.1.allocate absent).length_le
    rw [List.forall_mem_cons]
    constructor
    · exact List.mem_map.mpr spelled
    · intro entry member
      apply List.mem_map.mpr
      apply names
      rw [← holds.names, lookup_of_mem holds.inside.1.1 member]
      rfl
  rw [List.length_map] at fits
  omega

theorem BoundSimpleStatement.Holds.bindByName_ok (holds : q.Holds bound true)
    (room : q.nameToBoundIndex.lookup name = none → q.nameToBoundIndex.length < q.boundValues.length)
    (value : Option Value) : (q.bindCqlValueByName name value).1 = .ok ∧
      (q.bindCqlValueByName name value).2.query = q.query ∧
      (q.bindCqlValueByName name value).2.boundValues.length = q.boundValues.length := by
  unfold bindCqlValueByName
  split
  · rename_i i known
    have inside := Nat.lt_of_lt_of_le (holds.inside.1.slot_lt known) holds.inside.2
    rw [bindCqlValue, if_pos inside]
    exact ⟨rfl, rfl, List.length_set⟩
  · rename_i absent
    have free := room absent
    rw [if_neg (Nat.not_le.mpr free), bindCqlValue, if_pos free]
    exact ⟨rfl, rfl, List.length_set⟩

end Simple

/-- A simple and a prepared statement with the same values bound to the columns. -/
structure Alike (columns : List ColumnSpec) (query : String) (q : BoundSimpleStatement)
    (p : BoundPreparedStatement) (bound : Bound) : Prop where
  query : q.query = query
  simple : q.Holds bound true
  length : q.boundValues.length = columns.length
  names : ∀ name, (bound.lookup name).isSome = true → ∃ col ∈ columns, col.name = name
  prepared : p.Holds columns bound

section Alike
variable {columns : List ColumnSpec} {query : String} {q : BoundSimpleStatement}
  {p p' : BoundPreparedStatement} {bound : Bound}

/- A name in quotes is found only if it is spelled as the column. -/
theorem Bind.Spelled.column {b : Bind} (spelled : b.Spelled columns) (holds : p.Holds columns bound)
    (called : p.bindCqlValueByName (unquote b.1).1 (unquote b.1).2 b.2 = some (.ok, p')) :
    ∃ col ∈ columns, col.name = (unquote b.1).1 := by
  cases quoted : (unquote b.1).2 with
  | false =>
    rw [unquote_plain quoted]
    exact spelled quoted
  | true =>
    obtain ⟨⟨j, named⟩, -⟩ := BoundPreparedStatement.bindCqlValueByName_ok called
    have specs : p.statement.variableColSpecs = columns := by rw [holds.statement]; rfl
    rw [BoundPreparedStatement.columnNamed, specs, Option.any_eq_true] at named
    obtain ⟨col, at', is⟩ := named
    rw [quoted] at is
    refine ⟨col, List.mem_of_getElem? at', ?_⟩
    simpa [BoundPreparedStatement.matchesName] using is

theorem Alike.bind (alike : Alike columns query q p bound) (differ : NamesDiffer columns) {b : Bind}
    (spelled : b.Spelled columns) {s : BoundStatement}
    (called : call (.prepared p) b.call = some (.ok, s)) :
    ∃ q' p' bound', call (.simple q) b.call = some (.ok, .simple q') ∧ s = .prepared p' ∧
      Alike columns query q' p' bound' := by
  simp only [Bind.call, call, BoundStatement.bindCqlValueByName] at called ⊢
  split at called
  · cases called
  · rename_i nonempty
    rw [if_neg nonempty]
    obtain ⟨⟨code, p'⟩, boundTo, is⟩ := Option.map_eq_some_iff.mp called
    obtain ⟨rfl, rfl⟩ := Prod.mk.inj is
    have column := spelled.column alike.prepared boundTo
    have room := alike.simple.room alike.length alike.names column
    obtain ⟨ok, sameQuery, length⟩ := alike.simple.bindByName_ok room b.2
    have simple := alike.simple.bindByName (unquote b.1).1 b.2
    rw [if_pos ok] at simple
    refine ⟨_, p', _, congrArg some (Prod.ext ok rfl), rfl, sameQuery.trans alike.query, simple,
      length.trans alike.length, ?_, alike.prepared.bindByName differ column boundTo⟩
    intro name known
    rw [List.lookup_cons] at known
    split at known
    · rename_i same
      rw [beq_iff_eq.mp same]
      exact column
    · exact alike.names name known

theorem alike_run (differ : NamesDiffer columns) {binds : List Bind}
    (spelled : ∀ b ∈ binds, b.Spelled columns) (alike : Alike columns query q p bound)
    (ran : run stepOk (.prepared p) (binds.map Bind.call) = some (.prepared p')) :
    ∃ q' bound', run stepOk (.simple q) (binds.map Bind.call) = some (.simple q') ∧
      Alike columns query q' p' bound' := by
  induction binds generalizing q p bound with
  | nil =>
    cases ran
    exact ⟨q, bound, rfl, alike⟩
  | cons b binds ih =>
    rw [List.forall_mem_cons] at spelled
    rw [List.map_cons, run_cons_some] at ran
    obtain ⟨s, stepped, rest⟩ := ran
    obtain ⟨q₁, p₁, bound₁, boundTo, rfl, next⟩ :=
      alike.bind differ spelled.1 (stepOk_eq_some.mp stepped)
    obtain ⟨q', bound', ran', last⟩ := ih spelled.2 next rest
    refine ⟨q', bound', ?_, last⟩
    rw [List.map_cons, run_cons_some]
    exact ⟨.simple q₁, stepOk_eq_some.mpr boundTo, ran'⟩

theorem alike_start (columns : List ColumnSpec) (query : String) :
    Alike columns query ⟨query, List.replicate columns.length .unset, []⟩
      ⟨.newFromPreparedStatement columns, List.replicate columns.length .unset⟩ [] where
  query := rfl
  simple := ⟨⟨dense_nil, Nat.zero_le _⟩, fun _ => rfl, nofun⟩
  length := List.length_replicate
  names _ known := by cases known
  prepared := ⟨rfl, List.map_const.symm⟩

end Alike

section Rows
variable {E C : Type} {cell : ColumnType → Slot → Except E C}
  {vec : List ColumnSpec → List Slot → Except E (List C)} {columns : List ColumnSpec}
  {query : String} {q : BoundSimpleStatement} {p : BoundPreparedStatement} {bound : Bound}

theorem Alike.execute (alike : Alike columns query q p bound) (positional : Positional cell vec)
    {describe : String → List ColumnSpec} (described : describe query = columns)
    (set : ∀ slot ∈ p.boundValues, slot ≠ .unset) (row : List C) :
    BoundStatement.execute cell vec describe (.simple q) = .ok row ↔
      BoundStatement.execute cell vec describe (.prepared p) = .ok row := by
  have known : ∀ col ∈ columns, ∃ value, bound.lookup col.name = some value := by
    intro col member
    have bound' := set (slotFor bound col) (by
      rw [alike.prepared.slots]
      exact List.mem_map_of_mem member)
    unfold slotFor at bound'
    split at bound'
    · rename_i value is
      exact ⟨value, is⟩
    · exact absurd rfl bound'
  have specs : p.statement.variableColSpecs = columns := by rw [alike.prepared.statement]; rfl
  simp only [BoundStatement.execute, alike.query, described, specs, alike.prepared.slots]
  rw [mapError_eq_ok, positional, List.length_map, and_iff_right rfl]
  cases columns with
  | nil =>
    rw [if_pos (by simpa using alike.length), List.map_nil, List.zip_nil_left, List.forall₂_nil_left_iff]
    simp [eq_comm]
  | cons first columns =>
    have some' : bound ≠ [] := by
      rintro rfl
      obtain ⟨value, is⟩ := known first List.mem_cons_self
      cases is
    have nonempty : ¬ q.boundValues.isEmpty = true := by
      rw [List.isEmpty_iff_length_eq_zero, alike.length]
      exact Nat.succ_ne_zero _
    rw [if_neg nonempty, serialize_last alike.simple some', serializeLast, mapM_eq_ok]
    refine forall₂_iff_zip (r := fun col slot => slot = slotFor bound col ∧ col ∈ first :: columns) ?_ ?_ row
    · rintro col _ ⟨rfl, member⟩ c
      obtain ⟨value, is⟩ := known col member
      simp only [slotFor, is, mapError_eq_ok]
    · rw [List.forall₂_map_right_iff, List.forall₂_same]
      exact fun col member => ⟨rfl, member⟩

end Rows

/-- For a query whose parameters differ by more than the case of letters: if every name
without quotes is spelled as its column, binds by name that succeed on the prepared
statement succeed on the simple one, and once every parameter is bound the simple statement
is executed with the same row. -/
theorem spelled_names_resolve_alike {E C : Type} (cell : ColumnType → Slot → Except E C)
    (vec : List ColumnSpec → List Slot → Except E (List C)) (positional : Positional cell vec)
    (describe : String → List ColumnSpec) (query : String)
    (differ : NamesDiffer (describe query)) (binds : List Bind) (p : BoundPreparedStatement)
    (ran : run stepOk (.newPrepared (.newFromPreparedStatement (describe query)))
      (binds.map Bind.call) = some (.prepared p))
    (set : ∀ slot ∈ p.boundValues, slot ≠ .unset)
    (spelled : ∀ b ∈ binds, b.Spelled (describe query)) :
    ∃ q, run stepOk (.newUnprepared query (describe query).length) (binds.map Bind.call) =
        some (.simple q) ∧
      ∀ row, BoundStatement.execute cell vec describe (.simple q) = .ok row ↔
        BoundStatement.execute cell vec describe (.prepared p) = .ok row := by
  obtain ⟨q, bound, ran', alike⟩ := alike_run differ spelled (alike_start (describe query) query) ran
  exact ⟨q, ran', fun row => alike.execute positional rfl set row⟩

/- Two parameters, one of them bound by its quoted name. -/
theorem spelled_names_resolve_alike_quoted :
    ∃ p q, run stepOk (.newPrepared (.newFromPreparedStatement [⟨"x", .native .int⟩, ⟨"Y", .native .text⟩]))
        [.bindByName "\"Y\"" none, .bindByName "x" (some (.scalar (.int 1)))] = some (.prepared p) ∧
      run stepOk (.newUnprepared "q" 2)
        [.bindByName "\"Y\"" none, .bindByName "x" (some (.scalar (.int 1)))] = some (.simple q) ∧
      ∀ row, BoundStatement.execute (serializeSlot standardSize)
          (vecSerialize (serializeSlot standardSize) .sizeOverflow)
          (fun _ => [⟨"x", .native .int⟩, ⟨"Y", .native .text⟩]) (.simple q) = .ok row ↔
        BoundStatement.execute (serializeSlot standardSize)
          (vecSerialize (serializeSlot standardSize) .sizeOverflow)
          (fun _ => [⟨"x", .native .int⟩, ⟨"Y", .native .text⟩]) (.prepared p) = .ok row := by
  have differ : NamesDiffer [⟨"x", .native .int⟩, ⟨"Y", .native .text⟩] := by
    unfold NamesDiffer
    rw [List.pairwise_pair]
    rfl
  have spelled : ∀ b ∈ ([("\"Y\"", none), ("x", some (.scalar (.int 1)))] : List Bind),
      b.Spelled [⟨"x", .native .int⟩, ⟨"Y", .native .text⟩] := by
    rw [List.forall_mem_cons, List.forall_mem_singleton]
    constructor
    · intro plain
      exact absurd plain (by decide)
    · intro _
      exact ⟨⟨"x", .native .int⟩, List.mem_cons_self, rfl⟩
  obtain ⟨q, ran, rows⟩ := spelled_names_resolve_alike (serializeSlot standardSize)
    (vecSerialize (serializeSlot standardSize) .sizeOverflow)
    (vecSerialize_positional (serializeSlot standardSize) .sizeOverflow)
    (fun _ => [⟨"x", .native .int⟩, ⟨"Y", .native .text⟩]) "q" differ
    [("\"Y\"", none), ("x", some (.scalar (.int 1)))]
    ⟨.newFromPreparedStatement [⟨"x", .native .int⟩, ⟨"Y", .native .text⟩],
      [.set (some (.scalar (.int 1))), .set none]⟩ rfl (by simp) spelled
  exact ⟨_, q, rfl, ran, rows⟩

/-- A name without quotes in another case than its column: both statements take the value,
but the simple one is turned away when it is executed. -/
theorem other_case_unknown_when_executed :
    ∃ p q, run stepOk (.newPrepared (.newFromPreparedStatement [⟨"x", .native .int⟩]))
        [.bindByName "X" (some (.scalar (.int 1)))] = some (.prepared p) ∧
      p.boundValues = [.set (some (.scalar (.int 1)))] ∧
      run stepOk (.newUnprepared "q" 1) [.bindByName "X" (some (.scalar (.int 1)))] = some (.simple q) ∧
      BoundStatement.execute (serializeSlot standardSize)
          (vecSerialize (serializeSlot standardSize) .sizeOverflow)
          (fun _ => [⟨"x", .native .int⟩]) (.prepared p) = .ok [[0, 0, 0, 4, 0, 0, 0, 1]] ∧
      BoundStatement.execute (serializeSlot standardSize)
          (vecSerialize (serializeSlot standardSize) .sizeOverflow)
          (fun _ => [⟨"x", .native .int⟩]) (.simple q) = .error (.unknownNamedParameter "x") :=
  ⟨_, _, rfl, rfl, rfl, rfl, rfl⟩

end CppRsDriver.Statement
