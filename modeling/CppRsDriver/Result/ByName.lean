import CppRsDriver.Result.Row

/-! Columns looked up by name: in a row, among the parameters of a prepared statement,
and when a value is bound. A pointer to a column is its position; a panic gives `none`. -/
namespace CppRsDriver.Result

open CppRsDriver.Lib CppRsDriver.Types CppRsDriver.Statement

/- Both quotes are looked for in the whole name, and then taken off one after the other. -/
def stripQuotes (name : String) : Option (String × Bool) :=
  if name.toList.head? = some '"' ∧ name.toList.getLast? = some '"' then
    let withoutFirst := name.toList.tail
    if withoutFirst.getLast? = some '"' then some (String.ofList withoutFirst.dropLast, true)
    else none
  else some (name, false)

/-- `cass_row_get_column_by_name_n`. -/
def CassRow.getColumnByName (row : CassRow) (name : CassStr) : Option (Option Nat) :=
  match name with
  | .error _ => some none
  | .ok name => (stripQuotes name).map (fun (name, isCaseSensitive) =>
      let found := row.resultMetadata.colSpecs.findIdx? (fun colSpec =>
        isCaseSensitive && colSpec.name == name ||
          !isCaseSensitive && eqIgnoreAsciiCase colSpec.name name)
      found.filter (· < row.columns.length))

def getVariableDataTypeByName (self : CassPrepared) (name : String) : Option (Option Nat) :=
  match self.variableColSpecs.findIdx? (fun colSpec => colSpec.name == name) with
  | none => some none
  | some index => if index < self.variableColDataTypes.length then some (some index) else none

/-- `cass_prepared_parameter_data_type_by_name_n`. -/
def parameterDataTypeByName (prepared : CassPrepared) (name : CassStr) : Option (Option Nat) :=
  match name with
  | .error _ => some none
  | .ok name => getVariableDataTypeByName prepared name

def isSet : Slot → Bool
  | .set _ => true
  | .unset => false

/-- The first column that gets a value when a null, which every column accepts, is bound by
this name to a new statement. -/
def firstBound (prepared : CassPrepared) (name : String) : Option Nat :=
  match (BoundStatement.newPrepared prepared).bindCqlValueByName name none with
  | some (.ok, .prepared p) => p.boundValues.findIdx? isSet
  | _ => none

section Binding
variable {p : BoundPreparedStatement}

theorem bindNull_all {indices : List Nat}
    (inside : ∀ i ∈ indices, i < p.boundValues.length ∧ i < p.statement.variableColDataTypes.length) :
    p.bindMultipleValuesByName none indices = some (.ok, { p with
      boundValues := indices.foldl (fun values i => values.set i (.set none)) p.boundValues }) := by
  induction indices generalizing p with
  | nil => rfl
  | cons i indices ih =>
    rw [List.forall_mem_cons] at inside
    have first : p.bindCqlValue i none =
        some (.ok, { p with boundValues := p.boundValues.set i (.set none) }) := by
      simp only [BoundPreparedStatement.bindCqlValue, List.getElem?_eq_getElem inside.1.1,
        List.getElem?_eq_getElem inside.1.2, isTypeCompatible, Option.map_some, if_true]
    rw [BoundPreparedStatement.bindMultipleValuesByName, first]
    have later := ih (p := { p with boundValues := p.boundValues.set i (.set none) })
      (by simpa using inside.2)
    simpa using later

theorem findIdx?_bound (matching : ColumnSpec → Bool) (colSpecs : List ColumnSpec) :
    (((colSpecs.zipIdx.filter (fun (col, _) => matching col)).map Prod.snd).foldl
      (fun values i => values.set i (.set none))
      (List.replicate colSpecs.length (.unset : Slot))).findIdx? isSet =
      colSpecs.findIdx? matching := by
  have slots : ((colSpecs.zipIdx.filter (fun (col, _) => matching col)).map Prod.snd).foldl
      (fun values i => values.set i (.set none))
      (List.replicate colSpecs.length (.unset : Slot)) =
      colSpecs.map (fun col => if matching col then .set none else .unset) := by
    apply List.ext_getElem?
    intro i
    simp only [getElem?_foldl_set, mem_filter_zipIdx, List.length_replicate, List.getElem?_map]
    cases found : colSpecs[i]? with
    | none =>
      have outside : colSpecs.length ≤ i := List.getElem?_eq_none_iff.mp found
      simp [outside]
    | some col =>
      have inside : i < colSpecs.length := (List.getElem?_eq_some_iff.mp found).1
      cases is : matching col <;> simp [is, inside]
  rw [slots, List.findIdx?_map]
  congr 1
  funext col
  cases is : matching col <;> simp [is, isSet]

theorem firstBound_eq (colSpecs : List ColumnSpec) {name : String} (nonempty : name ≠ "") :
    firstBound (.newFromPreparedStatement colSpecs) name =
      colSpecs.findIdx? (BoundPreparedStatement.matchesName (unquote name).2 (unquote name).1) := by
  have first := findIdx?_bound (BoundPreparedStatement.matchesName (unquote name).2 (unquote name).1)
    colSpecs
  have member := fun i => @mem_filter_zipIdx _
    (BoundPreparedStatement.matchesName (unquote name).2 (unquote name).1) colSpecs i
  simp only [firstBound, BoundStatement.bindCqlValueByName, if_neg nonempty,
    BoundStatement.newPrepared, BoundPreparedStatement.bindCqlValueByName,
    CassPrepared.newFromPreparedStatement]
  generalize (colSpecs.zipIdx.filter (fun (col, _) => BoundPreparedStatement.matchesName
    (unquote name).2 (unquote name).1 col)).map Prod.snd = indices at first member ⊢
  cases indices with
  | nil => simpa [isSet] using first
  | cons i indices =>
    rw [List.isEmpty_cons, if_neg Bool.false_ne_true, bindNull_all]
    · exact first
    · intro j inside
      obtain ⟨col, found, -⟩ := (member j).mp inside
      have bound := (List.getElem?_eq_some_iff.mp found).1
      simpa using bound

end Binding

/-- The rule of `bind_cql_value_by_name`, on the name of a column. -/
def matchesRule (name colName : String) : Bool :=
  (unquote name).2 && colName == (unquote name).1 ||
    !(unquote name).2 && eqIgnoreAsciiCase colName (unquote name).1

section Rules
variable {name : String}

/- A lone quote is the first and the last character at once. -/
theorem stripQuotes_eq (other : name ≠ "\"") : stripQuotes name = some (unquote name) := by
  unfold stripQuotes unquote
  cases chars : name.toList with
  | nil => simp
  | cons c rest =>
    by_cases quote : c = '"'
    · subst quote
      cases rest with
      | nil =>
        have lone : name = "\"" := by
          rw [← String.ofList_toList (s := name), chars]
        exact absurd lone other
      | cons d rest =>
        by_cases last : (d :: rest).getLast? = some '"' <;>
          simp [List.getLast?_cons_cons, last]
    · simp [quote]

theorem stripQuotes_lone : stripQuotes "\"" = none := by decide

theorem unquote_ne (quoted : (unquote name).2 = true) : (unquote name).1 ≠ name := by
  intro same
  have lengths := congrArg (fun s => s.toList.length) same
  unfold unquote at quoted lengths
  split at quoted
  · rename_i rest chars
    split at quoted
    · rename_i last
      simp only [if_pos last, String.toList_ofList, List.length_dropLast, chars, List.length_cons]
        at lengths
      omega
    · contradiction
  · contradiction

end Rules

/-- The name is spelled as the column that binding takes first; quoted, it names no column. -/
def SpelledAsColumn (names : List String) (name : String) : Prop :=
  if (unquote name).2 then (unquote name).1 ∉ names ∧ name ∉ names
  else ∀ colName, names.find? (fun colName => eqIgnoreAsciiCase colName name) = some colName →
    colName = name

section Spelled
variable {names : List String} {name : String}

/- No column is spelled with the quotes and without them, so neither spelling is taken. -/
theorem findIdx_eq_of_quoted (quoted : (unquote name).2 = true) :
    names.findIdx? (fun colName => colName == name) = names.findIdx? (matchesRule name) ↔
      (unquote name).1 ∉ names ∧ name ∉ names := by
  have rule : matchesRule name = fun colName => colName == (unquote name).1 := by
    funext colName
    simp [matchesRule, quoted]
  rw [findIdx?_eq_iff, rule]
  constructor
  · intro both
    have absent : names.find? (fun colName => colName == name || colName == (unquote name).1) =
        none := by
      cases found : names.find? (fun colName => colName == name || colName == (unquote name).1) with
      | none => rfl
      | some colName =>
        obtain ⟨whole, inside⟩ := both colName found
        exact absurd ((beq_iff_eq.mp inside).symm.trans (beq_iff_eq.mp whole)) (unquote_ne quoted)
    rw [List.find?_eq_none] at absent
    constructor
    · intro member
      simpa using absent _ member
    · intro member
      simpa using absent _ member
  · rintro ⟨noInside, noWhole⟩ colName found
    have member := List.mem_of_find?_eq_some found
    have is := List.find?_some found
    rw [Bool.or_eq_true, beq_iff_eq, beq_iff_eq] at is
    rcases is with rfl | rfl
    · contradiction
    · contradiction

theorem findIdx_eq_of_unquoted (unquoted : (unquote name).2 = false) :
    names.findIdx? (fun colName => colName == name) = names.findIdx? (matchesRule name) ↔
      ∀ colName, names.find? (fun colName => eqIgnoreAsciiCase colName name) = some colName →
        colName = name := by
  have rule : matchesRule name = fun colName => eqIgnoreAsciiCase colName name := by
    funext colName
    simp [matchesRule, unquoted, unquote_plain unquoted]
  have either : (fun colName => colName == name || eqIgnoreAsciiCase colName name) =
      fun colName => eqIgnoreAsciiCase colName name := by
    funext colName
    by_cases same : colName = name
    · simp [same, eqIgnoreAsciiCase]
    · simp [same]
  rw [findIdx?_eq_iff, rule, either]
  constructor
  · intro both colName found
    exact beq_iff_eq.mp (both colName found).1
  · intro spelled colName found
    have matched := List.find?_some (p := fun colName => eqIgnoreAsciiCase colName name) found
    exact ⟨beq_iff_eq.mpr (spelled colName found), matched⟩

end Spelled

theorem spelledAsColumn_iff (names : List String) (name : String) :
    names.findIdx? (fun colName => colName == name) = names.findIdx? (matchesRule name) ↔
      SpelledAsColumn names name := by
  rw [SpelledAsColumn]
  split
  · rename_i quoted
    exact findIdx_eq_of_quoted quoted
  · rename_i unquoted
    exact findIdx_eq_of_unquoted (Bool.eq_false_iff.mpr unquoted)

section Lookups
variable {colSpecs : List ColumnSpec} {name : String}

theorem firstBound_names (nonempty : name ≠ "") :
    firstBound (.newFromPreparedStatement colSpecs) name =
      (colSpecs.map ColumnSpec.name).findIdx? (matchesRule name) := by
  rw [firstBound_eq colSpecs nonempty, List.findIdx?_map]
  rfl

theorem getColumnByName_eq {row : CassRow}
    (names : row.resultMetadata.colSpecs.map CassColumnSpec.name = colSpecs.map ColumnSpec.name)
    (whole : row.columns.length = row.resultMetadata.colSpecs.length) (other : name ≠ "\"") :
    row.getColumnByName (.ok name) =
      some ((colSpecs.map ColumnSpec.name).findIdx? (matchesRule name)) := by
  rw [← names, List.findIdx?_map]
  simp only [CassRow.getColumnByName, stripQuotes_eq other, Option.map_some]
  congr 1
  change (row.resultMetadata.colSpecs.findIdx? (matchesRule name ∘ CassColumnSpec.name)).filter _ = _
  cases found : row.resultMetadata.colSpecs.findIdx? (matchesRule name ∘ CassColumnSpec.name) with
  | none => rfl
  | some i =>
    have bound := (List.findIdx?_eq_some_iff_getElem.mp found).1
    rw [← whole] at bound
    simp [bound]

theorem parameterDataTypeByName_eq :
    parameterDataTypeByName (.newFromPreparedStatement colSpecs) (.ok name) =
      some ((colSpecs.map ColumnSpec.name).findIdx? (fun colName => colName == name)) := by
  rw [List.findIdx?_map]
  simp only [parameterDataTypeByName, getVariableDataTypeByName,
    CassPrepared.newFromPreparedStatement, Function.comp_def]
  cases found : colSpecs.findIdx? (fun colSpec => colSpec.name == name) with
  | none => rfl
  | some i =>
    have bound := (List.findIdx?_eq_some_iff_getElem.mp found).1
    simp [bound]

end Lookups

/-- The two lookups return, and find the column that binding takes first, for exactly the
names that are no lone quote and are spelled as that column. -/
theorem lookups_follow_binding_iff (colSpecs : List ColumnSpec) (row : CassRow)
    (names : row.resultMetadata.colSpecs.map CassColumnSpec.name = colSpecs.map ColumnSpec.name)
    (whole : row.columns.length = row.resultMetadata.colSpecs.length) (name : String)
    (nonempty : name ≠ "") :
    (row.getColumnByName (.ok name) =
        some (firstBound (.newFromPreparedStatement colSpecs) name) ∧
      parameterDataTypeByName (.newFromPreparedStatement colSpecs) (.ok name) =
        some (firstBound (.newFromPreparedStatement colSpecs) name)) ↔
      name ≠ "\"" ∧ SpelledAsColumn (colSpecs.map ColumnSpec.name) name := by
  rw [firstBound_names nonempty, parameterDataTypeByName_eq, Option.some.injEq,
    spelledAsColumn_iff]
  apply and_congr_left'
  constructor
  · rintro found rfl
    rw [CassRow.getColumnByName, stripQuotes_lone] at found
    cases found
  · intro other
    exact getColumnByName_eq names whole other

def nullRow (columns : List ColumnSpec) : CassRow :=
  ⟨columns.map (fun col => ⟨⟨col.typ, none, none⟩, getColumnType col.typ⟩), .fromColumnSpecs columns⟩

/- Of two columns that differ in case only, the first is found under its own name; a name that no
column has is found nowhere. -/
theorem lookups_follow_binding_iff_exact :
    let columns : List ColumnSpec := [⟨"a", .native .int⟩, ⟨"B", .native .text⟩, ⟨"b", .native .int⟩]
    let p := CassPrepared.newFromPreparedStatement columns
    firstBound p "a" = some 0 ∧ firstBound p "B" = some 1 ∧ firstBound p "c" = none ∧
      ∀ name ∈ ["a", "B", "c"], (nullRow columns).getColumnByName (.ok name) = some (firstBound p name) ∧
        parameterDataTypeByName p (.ok name) = some (firstBound p name) := by
  intro columns p
  refine ⟨by decide +kernel, by decide +kernel, by decide +kernel, fun name member => ?_⟩
  have plain : name ≠ "" ∧ name ≠ "\"" ∧ (unquote name).2 = false ∧
      (columns.map ColumnSpec.name).find? (fun colName => eqIgnoreAsciiCase colName name) ∈
        [none, some name] := by
    simp only [List.mem_cons, List.not_mem_nil, or_false] at member
    rcases member with rfl | rfl | rfl <;> decide +kernel
  obtain ⟨nonempty, other, unquoted, found⟩ := plain
  refine (lookups_follow_binding_iff columns (nullRow columns) rfl rfl name nonempty).mpr ⟨other, ?_⟩
  rw [SpelledAsColumn, unquoted, if_neg Bool.false_ne_true]
  intro colName is
  rw [is] at found
  simpa using found

def oneColumn : List ColumnSpec := [⟨"a", .native .int⟩]

def oneColumnRow : CassRow := nullRow oneColumn

/-- A lone quote ends the program in a row; the data type of a parameter is found neither
under its name in another case nor under its quoted name. -/
theorem lookups_differ_from_binding :
    oneColumnRow.getColumnByName (.ok "\"") = none ∧
      firstBound (.newFromPreparedStatement oneColumn) "\"" = none ∧
      parameterDataTypeByName (.newFromPreparedStatement oneColumn) (.ok "A") = some none ∧
      firstBound (.newFromPreparedStatement oneColumn) "A" = some 0 ∧
      parameterDataTypeByName (.newFromPreparedStatement oneColumn) (.ok "\"a\"") = some none ∧
      firstBound (.newFromPreparedStatement oneColumn) "\"a\"" = some 0 := by
  decide +kernel

end CppRsDriver.Result
