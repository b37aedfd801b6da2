import CppRsDriver.Statement.Binding
import CppRsDriver.Statement.Row

/-! Values bound by name to a simple statement: every name has a slot of its own, and a
column gets what was bound last under its name. -/
namespace CppRsDriver.Statement

open CppRsDriver.Lib CppRsDriver.Types CppRsDriver.Wire

/-- What was bound by name since the last reset, last bind first. -/
abbrev Bound := List (String × Option Value)

/- Only a bind that succeeds counts. -/
def boundAfter (bound : Bound) (code : CassError) : Call → Bound
  | .resetParameters _ => []
  | .bindByName name value => if code = .ok then ((unquote name).1, value) :: bound else bound
  | .bind _ _ => bound

def onlyByNameAfter (onlyByName : Bool) (code : CassError) : Call → Bool
  | .resetParameters _ => true
  | .bindByName _ _ => onlyByName
  | .bind _ _ => onlyByName && code != .ok

/-- The successful binds by name after the last reset of a run of calls. -/
def boundFrom (s : BoundStatement) (bound : Bound) : List Call → Bound
  | [] => bound
  | c :: calls =>
    match call s c with
    | some (code, next) => boundFrom next (boundAfter bound code c) calls
    | none => bound

/-- No bind by index has succeeded after the last reset. -/
def onlyByNameFrom (s : BoundStatement) (onlyByName : Bool) : List Call → Bool
  | [] => onlyByName
  | c :: calls =>
    match call s c with
    | some (code, next) => onlyByNameFrom next (onlyByNameAfter onlyByName code c) calls
    | none => onlyByName

/-- The row of a statement with values bound by name: each column gets the last value bound
under its name, and the first one that has none is an error. -/
def serializeLast {E C : Type} (cell : ColumnType → Slot → Except E C) (bound : Bound)
    (columns : List ColumnSpec) : Except (RowError E) (List C) :=
  columns.mapM (fun col =>
    match bound.lookup col.name with
    | none => .error (.unknownNamedParameter col.name)
    | some value => (cell col.typ (.set value)).mapError .values)

/-- The slots of the names against what was bound under them. -/
structure BoundSimpleStatement.Holds (q : BoundSimpleStatement) (bound : Bound) (onlyByName : Bool) :
    Prop where
  inside : q.NamesInside
  names : ∀ name, (q.nameToBoundIndex.lookup name).isSome = (bound.lookup name).isSome
  values : onlyByName = true → ∀ name i, q.nameToBoundIndex.lookup name = some i →
    ∃ value, bound.lookup name = some value ∧ q.boundValues[i]? = some (.set value)

section Steps
variable {q : BoundSimpleStatement} {bound : Bound} {onlyByName : Bool}

theorem BoundSimpleStatement.Holds.write (holds : q.Holds bound onlyByName) {name : String}
    {i : Nat} {names : List (String × Nat)} (value : Option Value)
    (inside : Dense names ∧ names.length ≤ q.boundValues.length)
    (found : names.lookup name = some i)
    (others : ∀ other, other ≠ name → names.lookup other = q.nameToBoundIndex.lookup other) :
    (⟨q.query, q.boundValues.set i (.set value), names⟩ : BoundSimpleStatement).Holds
      ((name, value) :: bound) onlyByName where
  inside := ⟨inside.1, by simpa using inside.2⟩
  names := by
    intro other
    by_cases same : other = name
    · subst same
      simp [found]
    · have differs : (other == name) = false := beq_eq_false_iff_ne.mpr same
      rw [List.lookup_cons, differs, others other same]
      exact holds.names other
  values := by
    intro only other j at'
    by_cases same : other = name
    · subst same
      cases Option.some.inj (found.symm.trans at')
      have bound : i < q.boundValues.length := Nat.lt_of_lt_of_le (inside.1.slot_lt found) inside.2
      exact ⟨value, by simp, List.getElem?_set_self bound⟩
    · have differs : (other == name) = false := beq_eq_false_iff_ne.mpr same
      have apart : i ≠ j := by
        rintro rfl
        exact same (inside.1.injective at' found)
      rw [List.lookup_cons, differs, List.getElem?_set_ne apart]
      rw [others other same] at at'
      exact holds.values only other j at'

theorem BoundSimpleStatement.Holds.bindByName (holds : q.Holds bound onlyByName) (name : String)
    (value : Option Value) :
    (q.bindCqlValueByName name value).2.Holds
      (if (q.bindCqlValueByName name value).1 = .ok then (name, value) :: bound else bound)
      onlyByName := by
  cases known : q.nameToBoundIndex.lookup name with
  | some i =>
    have room : i < q.boundValues.length :=
      Nat.lt_of_lt_of_le (holds.inside.1.slot_lt known) holds.inside.2
    have written : q.bindCqlValueByName name value =
        (.ok, { q with boundValues := q.boundValues.set i (.set value) }) := by
      simp only [BoundSimpleStatement.bindCqlValueByName, known, BoundSimpleStatement.bindCqlValue,
        if_pos room]
    rw [written, if_pos rfl]
    exact holds.write value holds.inside known (fun _ _ => rfl)
  | none =>
    rcases Nat.lt_or_ge q.nameToBoundIndex.length q.boundValues.length with room | full
    · have written : q.bindCqlValueByName name value = (.ok,
          { q with
            boundValues := q.boundValues.set q.nameToBoundIndex.length (.set value)
            nameToBoundIndex := (name, q.nameToBoundIndex.length) :: q.nameToBoundIndex }) := by
        simp only [BoundSimpleStatement.bindCqlValueByName, known, if_neg (Nat.not_le.mpr room),
          BoundSimpleStatement.bindCqlValue, if_pos room]
      rw [written, if_pos rfl]
      apply holds.write value ⟨holds.inside.1.allocate known, room⟩
      · simp
      · intro other differs
        rw [List.lookup_cons, beq_eq_false_iff_ne.mpr differs]
    · have rejected : q.bindCqlValueByName name value = (.libNameDoesNotExist, q) := by
        simp only [BoundSimpleStatement.bindCqlValueByName, known, if_pos full]
      have failed : CassError.libNameDoesNotExist ≠ .ok := by decide
      rw [rejected, if_neg failed]
      exact holds

theorem BoundSimpleStatement.Holds.bind (holds : q.Holds bound onlyByName) (i : Nat)
    (value : Option Value) :
    (q.bindCqlValue i value).2.Holds bound
      (onlyByName && (q.bindCqlValue i value).1 != .ok) := by
  unfold BoundSimpleStatement.bindCqlValue
  split
  · refine ⟨⟨holds.inside.1, ?_⟩, holds.names, ?_⟩
    · rw [List.length_set]
      exact holds.inside.2
    · intro only
      simp at only
  · refine ⟨holds.inside, holds.names, ?_⟩
    intro only
    exact holds.values (Bool.and_eq_true_iff.mp only).1

theorem call_holds (holds : q.Holds bound onlyByName) (c : Call) :
    ∃ code q', call (.simple q) c = some (code, .simple q') ∧
      q'.Holds (boundAfter bound code c) (onlyByNameAfter onlyByName code c) := by
  cases c with
  | resetParameters count =>
    refine ⟨.ok, ⟨q.query, List.replicate count .unset, []⟩, rfl, ?_⟩
    exact ⟨⟨dense_nil, Nat.zero_le _⟩, fun _ => rfl, nofun⟩
  | bind i value => exact ⟨_, _, rfl, holds.bind i value⟩
  | bindByName name value =>
    by_cases empty : name = ""
    · refine ⟨.libBadParams, q, ?_, ?_⟩
      · simp only [call, BoundStatement.bindCqlValueByName, if_pos empty]
      · rw [boundAfter, if_neg (by decide)]
        exact holds
    · refine ⟨_, _, ?_, holds.bindByName (unquote name).1 value⟩
      simp only [call, BoundStatement.bindCqlValueByName, if_neg empty]
      rfl

theorem run_holds {calls : List Call} (holds : q.Holds bound onlyByName) :
    ∃ q', run step (.simple q) calls = some (.simple q') ∧
      q'.Holds (boundFrom (.simple q) bound calls) (onlyByNameFrom (.simple q) onlyByName calls) := by
  induction calls generalizing q bound onlyByName with
  | nil => exact ⟨q, rfl, holds⟩
  | cons c calls ih =>
    obtain ⟨code, next, called, kept⟩ := call_holds holds c
    obtain ⟨q', ran, final⟩ := ih kept
    refine ⟨q', ?_, ?_⟩
    · rw [run_cons_some]
      exact ⟨.simple next, by rw [step, called]; rfl, ran⟩
    · simp only [boundFrom, onlyByNameFrom, called]
      exact final

end Steps

section Rows
variable {E C : Type} {cell : ColumnType → Slot → Except E C}
  {vec : List ColumnSpec → List Slot → Except E (List C)} {q : BoundSimpleStatement} {bound : Bound}

open SimpleQueryRowSerializer

theorem serialize_not_panicked (inside : q.NamesInside) (columns : List ColumnSpec) :
    serialize cell vec ⟨q.boundValues, q.nameToBoundIndex⟩ columns ≠ .error .panicked := by
  intro panicked
  unfold serialize at panicked
  split at panicked
  · obtain ⟨err, -, is⟩ := mapError_eq_error.mp panicked
    cases is
  · obtain ⟨col, -, failed⟩ := mapM_eq_error panicked
    unfold serializeColumn at failed
    split at failed
    · cases failed
    · rename_i i found
      have room : i < q.boundValues.length :=
        Nat.lt_of_lt_of_le (inside.1.slot_lt found) inside.2
      simp only [List.getElem?_eq_getElem room] at failed
      obtain ⟨err, -, is⟩ := mapError_eq_error.mp failed
      cases is

theorem serialize_last (holds : q.Holds bound true) (some' : bound ≠ []) (columns : List ColumnSpec) :
    serialize cell vec ⟨q.boundValues, q.nameToBoundIndex⟩ columns =
      serializeLast cell bound columns := by
  have named : q.nameToBoundIndex ≠ [] := by
    intro none
    cases bound with
    | nil => contradiction
    | cons entry bound =>
      have same := holds.names entry.1
      simp [none] at same
  unfold serialize serializeLast
  rw [if_neg (by simpa using named)]
  congr 1
  funext col
  unfold serializeColumn
  cases found : q.nameToBoundIndex.lookup col.name with
  | none =>
    have absent : bound.lookup col.name = none := by
      have same := holds.names col.name
      rw [found] at same
      exact Option.not_isSome_iff_eq_none.mp (by simp [← same])
    rw [absent]
  | some i =>
    obtain ⟨value, last, at'⟩ := holds.values rfl col.name i found
    simp only [last, at']

end Rows

/-- Whatever is bound and reset, the names have slots 0 to k - 1, each its own and all of
them there, so a row is never read outside them; and if binds by name succeeded since the
last reset and no others, the row has for each column what was bound last by its name. -/
theorem named_binding_last_write_wins {E C : Type} (cell : ColumnType → Slot → Except E C)
    (vec : List ColumnSpec → List Slot → Except E (List C)) (query : String) (parameterCount : Nat)
    (calls : List Call) :
    ∃ q, run step (.newUnprepared query parameterCount) calls = some (.simple q) ∧
      (∀ name other i, q.nameToBoundIndex.lookup name = some i →
        q.nameToBoundIndex.lookup other = some i → name = other) ∧
      (∀ i, (∃ name, q.nameToBoundIndex.lookup name = some i) ↔ i < q.nameToBoundIndex.length) ∧
      q.nameToBoundIndex.length ≤ q.boundValues.length ∧
      (∀ columns, SimpleQueryRowSerializer.serialize cell vec
        ⟨q.boundValues, q.nameToBoundIndex⟩ columns ≠ .error .panicked) ∧
      (onlyByNameFrom (.newUnprepared query parameterCount) true calls = true →
        boundFrom (.newUnprepared query parameterCount) [] calls ≠ [] →
        ∀ columns, SimpleQueryRowSerializer.serialize cell vec
            ⟨q.boundValues, q.nameToBoundIndex⟩ columns =
          serializeLast cell (boundFrom (.newUnprepared query parameterCount) [] calls) columns) := by
  have start : (⟨query, List.replicate parameterCount .unset, []⟩ : BoundSimpleStatement).Holds
      [] true := ⟨⟨dense_nil, Nat.zero_le _⟩, fun _ => rfl, nofun⟩
  obtain ⟨q, ran, holds⟩ := @run_holds _ _ _ calls start
  refine ⟨q, ran, ?_, holds.inside.1.slot_iff, holds.inside.2,
    serialize_not_panicked holds.inside, ?_⟩
  · intro name other i left right
    exact holds.inside.1.injective left right
  · intro only some' columns
    have named : q.Holds (boundFrom (.newUnprepared query parameterCount) [] calls) true :=
      ⟨holds.inside, holds.names, fun _ => holds.values only⟩
    exact serialize_last named some' columns

/- Two names, one of them bound twice, against columns in another order. -/
theorem named_binding_last_write_wins_twice :
    let calls : List Call := [.bind 1 none, .resetParameters 2, .bindByName "b" none,
      .bindByName "a" (some (.scalar (.int 1))), .bindByName "\"b\"" (some (.scalar (.int 2)))]
    ∃ q, run step (.newUnprepared "q" 3) calls = some (.simple q) ∧
      ∀ columns, SimpleQueryRowSerializer.serialize (serializeSlot standardSize)
          (vecSerialize (serializeSlot standardSize) .sizeOverflow)
          ⟨q.boundValues, q.nameToBoundIndex⟩ columns =
        serializeLast (serializeSlot standardSize)
          [("b", some (.scalar (.int 2))), ("a", some (.scalar (.int 1))), ("b", none)] columns := by
  intro calls
  obtain ⟨q, ran, -, -, -, -, last⟩ := named_binding_last_write_wins (serializeSlot standardSize)
    (vecSerialize (serializeSlot standardSize) .sizeOverflow) "q" 3 calls
  exact ⟨q, ran, last rfl nofun⟩

/-- Nothing is bound: no column has a value under its name, and an unset value is written
for each of them. -/
theorem unnamed_binding_by_position :
    ∃ q, run step (.newUnprepared "q" 1) [] = some (.simple q) ∧
      onlyByNameFrom (.newUnprepared "q" 1) true [] = true ∧
      boundFrom (.newUnprepared "q" 1) [] [] = [] ∧
      SimpleQueryRowSerializer.serialize (serializeSlot standardSize)
          (vecSerialize (serializeSlot standardSize) .sizeOverflow)
          ⟨q.boundValues, q.nameToBoundIndex⟩ [⟨"a", .native .int⟩] = .ok [unsetCell] :=
  ⟨_, rfl, rfl, rfl, rfl⟩

end CppRsDriver.Statement
