import CppRsDriver.Statement.Model
import CppRsDriver.Types.Objects

/-! What a call leaves behind that fails. Only the calls by name that may address several
columns or fields can change something: they stop at the first one that refuses the value,
after those before it have taken it. -/
namespace CppRsDriver.Types

open CppRsDriver.Lib

section UserTypes
variable {D : Type} {types : TypeOps D} {value : Option (CassCqlValue D)} {code : CassError}

/- Whether the field at an index has the name. -/
def fieldNamed (fields : List (String × D)) (name : String) (index : Nat) : Bool :=
  fields[index]?.any (fun field => field.1 == name)

/-- There is no slot at the index, or the value is not of the field's type. -/
def CassUserType.Refuses (types : TypeOps D) (u : CassUserType D) (fields : List (String × D))
    (value : Option (CassCqlValue D)) (index : Nat) : Prop :=
  u.fieldValues.length ≤ index ∨
    ∃ field, fields[index]? = some field ∧ isTypeCompatible types value field.2 = some false

/-- The first field of the name that refuses the value, and the user type in which the fields of
the name before it hold the value. -/
structure CassUserType.StopsAt (types : TypeOps D) (u : CassUserType D) (fields : List (String × D))
    (name : String) (value : Option (CassCqlValue D)) (index : Nat) (after : CassUserType D) : Prop where
  named : fieldNamed fields name index = true
  refuses : CassUserType.Refuses types u fields value index
  first : ∀ j < index, fieldNamed fields name j = true → ¬ CassUserType.Refuses types u fields value j
  dataType : after.dataType = u.dataType
  slots : ∀ j, after.fieldValues[j]? =
    if j < index ∧ fieldNamed fields name j = true then some value else u.fieldValues[j]?

/-- The user type while the fields are gone through: those of the name before the bound took
the value, the others have what they had. -/
structure CassUserType.SetBefore (types : TypeOps D) (u : CassUserType D) (fields : List (String × D))
    (name : String) (value : Option (CassCqlValue D)) (bound : Nat) (current : CassUserType D) :
    Prop where
  accepted : ∀ j < bound, fieldNamed fields name j = true →
    ¬ CassUserType.Refuses types u fields value j
  dataType : current.dataType = u.dataType
  length : current.fieldValues.length = u.fieldValues.length
  slots : ∀ j, current.fieldValues[j]? =
    if j < bound ∧ fieldNamed fields name j = true then some value else u.fieldValues[j]?

namespace CassUserType.SetBefore
variable {u current : CassUserType D} {fields : List (String × D)} {name : String} {bound : Nat}

theorem start (types : TypeOps D) (u : CassUserType D) (fields : List (String × D)) (name : String)
    (value : Option (CassCqlValue D)) : SetBefore types u fields name value 0 u where
  accepted j less := absurd less (Nat.not_lt_zero j)
  dataType := rfl
  length := rfl
  slots j := by rw [if_neg (by omega)]

/- The slots that are left are as many as at the start. -/
theorem refuses_iff (before : SetBefore types u fields name value bound current) (index : Nat) :
    current.Refuses types fields value index ↔ u.Refuses types fields value index := by
  unfold Refuses
  rw [before.length]

theorem set (before : SetBefore types u fields name value bound current)
    (named : fieldNamed fields name bound = true) (inside : bound < current.fieldValues.length)
    (accepts : ¬ current.Refuses types fields value bound) :
    SetBefore types u fields name value (bound + 1)
      { current with fieldValues := current.fieldValues.set bound value } where
  accepted j less isNamed := by
    rcases Nat.lt_succ_iff_lt_or_eq.mp less with earlier | rfl
    · exact before.accepted j earlier isNamed
    · exact mt (before.refuses_iff j).mpr accepts
  dataType := before.dataType
  length := List.length_set.trans before.length
  slots j := by
    rw [List.getElem?_set]
    by_cases here : bound = j
    · subst here
      rw [if_pos rfl, if_pos inside, if_pos ⟨Nat.lt_succ_self _, named⟩]
    · rw [if_neg here, before.slots]
      have same : j < bound ↔ j < bound + 1 := by omega
      simp only [same]

theorem skip (before : SetBefore types u fields name value bound current)
    (other : fieldNamed fields name bound = false) :
    SetBefore types u fields name value (bound + 1) current where
  accepted j less isNamed := by
    rcases Nat.lt_succ_iff_lt_or_eq.mp less with earlier | rfl
    · exact before.accepted j earlier isNamed
    · exact absurd isNamed (Bool.eq_false_iff.mp other)
  dataType := before.dataType
  length := before.length
  slots j := by
    rw [before.slots]
    by_cases here : bound = j
    · subst here
      rw [if_neg (by simp [other]), if_neg (by simp [other])]
    · have same : j < bound ↔ j < bound + 1 := by omega
      simp only [same]

theorem stopsAt (before : SetBefore types u fields name value bound current)
    (named : fieldNamed fields name bound = true) (refuses : current.Refuses types fields value bound) :
    StopsAt types u fields name value bound current where
  named := named
  refuses := (before.refuses_iff bound).mp refuses
  first := before.accepted
  dataType := before.dataType
  slots := before.slots

end CassUserType.SetBefore

/- The induction is on the fields that are left. -/
theorem CassUserType.setFieldsFrom_stops {name : String} {u after : CassUserType D}
    (passed rest : List (String × D)) (found : Bool) (current : CassUserType D)
    (before : SetBefore types u (passed ++ rest) name value passed.length current)
    (kept : found = false → current = u)
    (called : setFieldsFrom types name value passed.length rest found current = some (code, after))
    (failed : code ≠ .ok) :
    after = u ∨ ∃ index, StopsAt types u (passed ++ rest) name value index after := by
  induction rest generalizing passed found current with
  | nil =>
    cases called
    cases found with
    | true => exact absurd rfl failed
    | false => exact .inl (kept rfl)
  | cons field rest ih =>
    have here : (passed ++ field :: rest)[passed.length]? = some field := by simp
    have named : fieldNamed (passed ++ field :: rest) name passed.length = (field.1 == name) := by
      rw [fieldNamed, here, Option.any_some]
    have ih := ih (passed ++ [field])
    rw [List.append_assoc, List.singleton_append, List.length_append, List.length_singleton] at ih
    unfold setFieldsFrom at called
    split at called
    · rename_i is
      rw [is, beq_self_eq_true] at named
      split at called
      · rename_i outside
        cases called
        exact .inr ⟨_, before.stopsAt named (.inl outside)⟩
      · rename_i inside
        obtain ⟨ok, compatible, called⟩ := Option.bind_eq_some_iff.mp called
        cases ok with
        | false =>
          cases called
          exact .inr ⟨_, before.stopsAt named (.inr ⟨field, here, compatible⟩)⟩
        | true =>
          have accepts : ¬ current.Refuses types (passed ++ field :: rest) value passed.length := by
            rintro (outside | ⟨other, at', incompatible⟩)
            · exact inside outside
            · cases here.symm.trans at'
              cases compatible.symm.trans incompatible
          exact ih true _ (before.set named (Nat.lt_of_not_ge inside) accepts) Bool.noConfusion called
    · rename_i other
      rw [beq_eq_false_iff_ne.mpr other] at named
      exact ih found current (before.skip named) kept called

theorem CassUserType.setFieldByName_failed {u after : CassUserType D} {name : String}
    (called : u.setFieldByName types name value = some (code, after)) (failed : code ≠ .ok) :
    after = u ∨ ∃ fields index, u.fieldTypes types = some fields ∧
      StopsAt types u fields name value index after := by
  obtain ⟨fields, is, called⟩ := Option.bind_eq_some_iff.mp called
  rcases setFieldsFrom_stops [] fields false u (.start types u fields name value) (fun _ => rfl) called failed
    with kept | ⟨index, stops⟩
  · exact .inl kept
  · exact .inr ⟨fields, index, is, stops⟩

end UserTypes

/-- The container that a failed call leaves, if it is not the one it was called on: a user
type in which the fields of a name were set up to the first one that refuses the value. -/
def PartlySet {D : Type} (types : TypeOps D) (setter : Setter) (value : Option (CassCqlValue D))
    (object after : ApiObject D) : Prop :=
  ∃ name u u' fields index, setter = .userTypeSetByName name ∧ object = .userType u ∧
    after = .userType u' ∧ u.fieldTypes types = some fields ∧
    CassUserType.StopsAt types u fields name value index u'

theorem applySetter_failed {D : Type} {types : TypeOps D} {value : Option (CassCqlValue D)}
    {code : CassError} {setter : Setter} {object after : ApiObject D}
    (called : applySetter types setter object value = some (code, after)) (failed : code ≠ .ok) :
    after = object ∨ PartlySet types setter value object after := by
  have writes := applySetter_writes called
  cases writes with
  | rejected => exact .inl rfl
  | tuple | collection | userType | vector => exact absurd rfl failed
  | byName u code indices =>
    cases setter with
    | tupleSet | collectionAppend | vectorSet => cases called
    | userTypeSet index =>
      obtain ⟨⟨code', u'⟩, set, is⟩ := Option.map_eq_some_iff.mp called
      obtain ⟨rfl, same⟩ := Prod.mk.inj is
      rw [← same]
      rcases CassUserType.setFieldByIndex_outcome set with ⟨-, rfl⟩ | ⟨rfl, -⟩
      · exact .inl rfl
      · exact absurd rfl failed
    | userTypeSetByName name =>
      simp only [applySetter] at called
      split at called
      · exact .inl (Prod.mk.inj (Option.some.inj called)).2.symm
      · obtain ⟨⟨code', u'⟩, set, is⟩ := Option.map_eq_some_iff.mp called
        obtain ⟨rfl, same⟩ := Prod.mk.inj is
        rw [← same]
        rcases CassUserType.setFieldByName_failed set failed with rfl | ⟨fields, index, types', stops⟩
        · exact .inl rfl
        · exact .inr ⟨name, u, u', fields, index, rfl, rfl, rfl, types', stops⟩

/-- The body of the functions that put a value into a container: the value is converted
first, and a failure there is the result. -/
def setValue {D : Type} (types : TypeOps D) (objects : List (ApiObject D)) (setter : Setter)
    (argument : Argument) (object : ApiObject D) : Option (CassError × ApiObject D) := do
  match ← argumentOf types objects argument with
  | .error e => some (e, object)
  | .ok value => applySetter types setter object value

/-- This is what a step does to the container. -/
theorem step_setValue (fuel : Nat) (s : State) (o : Nat) (setter : Setter) (argument : Argument) :
    step fuel s (.set o setter argument) = s.objects[o]?.bind (fun object =>
      (setValue (s.heap.ops fuel) s.objects setter argument object).map (fun result =>
        { s with objects := s.objects.set o result.2 })) := by
  simp only [step, setValue, Option.bind_eq_bind]
  cases at' : s.objects[o]? with
  | none => rfl
  | some object =>
    cases argumentOf (s.heap.ops fuel) s.objects argument with
    | none => rfl
    | some value =>
      cases value with
      | error e => simp [set_of_getElem? at']
      | ok value =>
        simp only [Option.bind_some]
        exact Option.map_eq_bind.symm

end CppRsDriver.Types

namespace CppRsDriver.Statement

open CppRsDriver.Lib CppRsDriver.Types

namespace BoundPreparedStatement
variable {p p' : BoundPreparedStatement} {value : Option Value} {code : CassError}

/- Whether the column at an index has the name. -/
def columnNamed (p : BoundPreparedStatement) (name : String) (isCaseSensitive : Bool) (index : Nat) :
    Bool :=
  p.statement.variableColSpecs[index]?.any (matchesName isCaseSensitive name)

/-- There is no slot or no column at the index, or the value is not of the column's type. -/
def Refuses (p : BoundPreparedStatement) (value : Option Value) (index : Nat) : Prop :=
  p.boundValues.length ≤ index ∨ p.statement.variableColDataTypes[index]? = none ∨
    ∃ dt, p.statement.variableColDataTypes[index]? = some dt ∧
      isTypeCompatible CassDataType.ops value dt = some false

/-- The first column of the name that refuses the value, and the statement in which the columns
of the name before it hold the value. -/
structure StopsAt (p : BoundPreparedStatement) (name : String) (isCaseSensitive : Bool)
    (value : Option Value) (index : Nat) (p' : BoundPreparedStatement) : Prop where
  named : p.columnNamed name isCaseSensitive index = true
  refuses : p.Refuses value index
  first : ∀ j < index, p.columnNamed name isCaseSensitive j = true → ¬ p.Refuses value j
  statement : p'.statement = p.statement
  slots : ∀ j, p'.boundValues[j]? = if j < index ∧ p.columnNamed name isCaseSensitive j = true
    then some (.set value) else p.boundValues[j]?

theorem bindCqlValue_outcome {index : Nat} (bound : p.bindCqlValue index value = some (code, p')) :
    code ≠ .ok ∧ p' = p ∧ p.Refuses value index ∨
      code = .ok ∧ index < p.boundValues.length ∧ ¬ p.Refuses value index ∧
        p' = { p with boundValues := p.boundValues.set index (.set value) } := by
  unfold bindCqlValue at bound
  split at bound
  · rename_i slot dt isSlot typed
    obtain ⟨compatible, checked, is⟩ := Option.map_eq_some_iff.mp bound
    cases compatible with
    | false =>
      cases is
      exact .inl ⟨by decide, rfl, .inr (.inr ⟨dt, typed, checked⟩)⟩
    | true =>
      cases is
      obtain ⟨inside, -⟩ := List.getElem?_eq_some_iff.mp isSlot
      refine .inr ⟨rfl, inside, ?_, rfl⟩
      rintro (outside | untyped | ⟨other, typed', refused⟩)
      · exact absurd inside (Nat.not_lt.mpr outside)
      · cases typed.symm.trans untyped
      · cases typed.symm.trans typed'
        cases checked.symm.trans refused
  · rename_i missing
    cases bound
    refine .inl ⟨by decide, rfl, ?_⟩
    cases slot : p.boundValues[index]? with
    | none => exact .inl (List.getElem?_eq_none_iff.mp slot)
    | some found =>
      cases typed : p.statement.variableColDataTypes[index]? with
      | none => exact .inr (.inl typed)
      | some dt => exact absurd typed (missing found dt slot)

/-- The loop binds the columns before the first one that refuses the value, or all of them. -/
theorem bindMultipleValuesByName_outcome (indices : List Nat)
    (bound : p.bindMultipleValuesByName value indices = some (code, p')) :
    ∃ before rest, indices = before ++ rest ∧
      (∀ j ∈ before, j < p.boundValues.length ∧ ¬ p.Refuses value j) ∧
      p' = { p with
        boundValues := before.foldl (fun values i => values.set i (.set value)) p.boundValues } ∧
      (code ≠ .ok ∧ (∃ index after, rest = index :: after ∧ p.Refuses value index) ∨
        code = .ok ∧ rest = []) := by
  induction indices generalizing p with
  | nil =>
    cases bound
    exact ⟨[], [], rfl, by simp, rfl, .inr ⟨rfl, rfl⟩⟩
  | cons i indices ih =>
    simp only [bindMultipleValuesByName, Option.bind_eq_bind, Option.bind_eq_some_iff] at bound
    obtain ⟨⟨status, next⟩, first, rest⟩ := bound
    rcases bindCqlValue_outcome first with ⟨refused, rfl, refuses⟩ | ⟨rfl, inside, accepts, rfl⟩
    · rw [if_pos refused] at rest
      cases rest
      exact ⟨[], i :: indices, rfl, by simp, rfl, .inl ⟨refused, i, indices, rfl, refuses⟩⟩
    · obtain ⟨before, after, rfl, slots, rfl, ends⟩ := ih rest
      simp only [Refuses, List.length_set] at slots ends
      refine ⟨i :: before, after, rfl, ?_, rfl, ends⟩
      rw [List.forall_mem_cons]
      exact ⟨⟨inside, accepts⟩, slots⟩

theorem named_indices (p : BoundPreparedStatement) (name : String) (isCaseSensitive : Bool) :
    let indices := (p.statement.variableColSpecs.zipIdx.filter
      (fun (col, _) => matchesName isCaseSensitive name col)).map Prod.snd
    indices.Pairwise (· < ·) ∧ ∀ j, j ∈ indices ↔ p.columnNamed name isCaseSensitive j = true := by
  refine ⟨?_, fun j => ?_⟩
  · have sorted : (p.statement.variableColSpecs.zipIdx.map Prod.snd).Pairwise (· < ·) := by
      rw [List.zipIdx_map_snd]
      exact List.pairwise_lt_range'
    exact sorted.sublist (List.filter_sublist.map _)
  · rw [mem_filter_zipIdx, columnNamed, Option.any_eq_true]

theorem bindCqlValueByName_outcome {name : String} {isCaseSensitive : Bool}
    (bound : p.bindCqlValueByName name isCaseSensitive value = some (code, p')) :
    code ≠ .ok ∧ (p' = p ∨ ∃ index, p.StopsAt name isCaseSensitive value index p') ∨
      code = .ok ∧ (∃ j, p.columnNamed name isCaseSensitive j = true) ∧ p'.statement = p.statement ∧
        ∀ j, p'.boundValues[j]? = if p.columnNamed name isCaseSensitive j = true
          then some (.set value) else p.boundValues[j]? := by
  obtain ⟨sorted, members⟩ := p.named_indices name isCaseSensitive
  unfold bindCqlValueByName at bound
  generalize (p.statement.variableColSpecs.zipIdx.filter
    (fun (col, _) => matchesName isCaseSensitive name col)).map Prod.snd = indices at *
  simp only at bound
  split at bound
  · cases bound
    exact .inl ⟨by decide, .inl rfl⟩
  · rename_i nonempty
    obtain ⟨before, rest, rfl, taken, rfl, ends⟩ := bindMultipleValuesByName_outcome indices bound
    have slots : ∀ j, (before.foldl (fun values i => values.set i (.set value)) p.boundValues)[j]? =
        if j ∈ before then some (.set value) else p.boundValues[j]? := by
      intro j
      rw [getElem?_foldl_set]
      have same : j ∈ before ∧ j < p.boundValues.length ↔ j ∈ before :=
        and_iff_left_of_imp (fun member => (taken j member).1)
      simp only [same]
    rcases ends with ⟨failed, index, after, rfl, refuses⟩ | ⟨ok, rfl⟩
    · have earlier : ∀ j, j ∈ before ↔ j < index ∧ p.columnNamed name isCaseSensitive j = true := by
        intro j
        rw [mem_before sorted, members]
      refine .inl ⟨failed, .inr ⟨index, ?_⟩⟩
      exact {
        named := (members index).mp (by simp)
        refuses := refuses
        first := fun j less named => (taken j ((earlier j).mpr ⟨less, named⟩)).2
        statement := rfl
        slots := fun j => by simp only [slots, earlier] }
    · rw [List.append_nil] at nonempty members
      refine .inr ⟨ok, ?_, rfl, fun j => ?_⟩
      · obtain ⟨i, member⟩ := List.exists_mem_of_ne_nil before (by simpa using nonempty)
        exact ⟨i, (members i).mp member⟩
      · simp only [slots, members]

end BoundPreparedStatement

namespace BoundSimpleStatement
variable {q : BoundSimpleStatement} {value : Option Value}

theorem bindCqlValue_failed {index : Nat} (failed : (q.bindCqlValue index value).1 ≠ .ok) :
    (q.bindCqlValue index value).2 = q := by
  unfold bindCqlValue at failed ⊢
  split
  · rename_i inside
    rw [if_pos inside] at failed
    exact absurd rfl failed
  · rfl

/- A new name is entered only when there is a slot for it. -/
theorem bindCqlValueByName_failed {name : String}
    (failed : (q.bindCqlValueByName name value).1 ≠ .ok) : (q.bindCqlValueByName name value).2 = q := by
  unfold bindCqlValueByName at failed ⊢
  split at failed
  · exact bindCqlValue_failed failed
  · rename_i absent
    simp only at failed ⊢
    split
    · rfl
    · rename_i room
      rw [if_neg room, bindCqlValue, if_pos (Nat.lt_of_not_ge room)] at failed
      exact absurd rfl failed

end BoundSimpleStatement

/-- The statement that a failed call leaves, if it is not the one it was called on: a
prepared statement in which the columns of a name were bound up to the first one that
refuses the value. -/
def PartlyBound (s : BoundStatement) (c : Call) (s' : BoundStatement) : Prop :=
  ∃ p p' name value index, s = .prepared p ∧ s' = .prepared p' ∧ c = .bindByName name value ∧
    p.StopsAt (unquote name).1 (unquote name).2 value index p'

theorem call_failed {s s' : BoundStatement} {c : Call} {code : CassError}
    (called : call s c = some (code, s')) (failed : code ≠ .ok) : s' = s ∨ PartlyBound s c s' := by
  cases c with
  | resetParameters count =>
    cases called
    exact absurd rfl failed
  | bind index value =>
    left
    cases s with
    | simple q =>
      cases called
      exact congrArg _ (BoundSimpleStatement.bindCqlValue_failed failed)
    | prepared p =>
      obtain ⟨⟨status, p'⟩, bound, is⟩ := Option.map_eq_some_iff.mp called
      cases is
      rcases BoundPreparedStatement.bindCqlValue_outcome bound with ⟨-, rfl, -⟩ | ⟨rfl, -⟩
      · rfl
      · exact absurd rfl failed
  | bindByName name value =>
    simp only [call, BoundStatement.bindCqlValueByName] at called
    split at called
    · cases called
      exact .inl rfl
    · cases s with
      | simple q =>
        cases called
        exact .inl (congrArg _ (BoundSimpleStatement.bindCqlValueByName_failed failed))
      | prepared p =>
        obtain ⟨⟨status, p'⟩, bound, is⟩ := Option.map_eq_some_iff.mp called
        cases is
        rcases BoundPreparedStatement.bindCqlValueByName_outcome bound with
          ⟨-, rfl | ⟨index, stops⟩⟩ | ⟨rfl, -⟩
        · exact .inl rfl
        · exact .inr ⟨p, p', name, value, index, rfl, rfl, rfl, stops⟩
        · exact absurd rfl failed

/-- A call that fails leaves the statement or container as it was; only a bind to a
prepared statement or a set of a user type by name may have written the value to the
columns or fields of that name before the first one that refuses it, and to no others. -/
theorem failed_calls_keep_contents :
    (∀ (s s' : BoundStatement) (c : Call) (code : CassError), call s c = some (code, s') →
      code ≠ .ok → s' = s ∨ PartlyBound s c s') ∧
    ∀ (D : Type) (types : TypeOps D) (objects : List (ApiObject D)) (setter : Setter)
      (argument : Argument) (object after : ApiObject D) (code : CassError),
      setValue types objects setter argument object = some (code, after) → code ≠ .ok →
        after = object ∨ ∃ value, argumentOf types objects argument = some (.ok value) ∧
          PartlySet types setter value object after := by
  constructor
  · exact fun s s' c code called failed => call_failed called failed
  · intro D types objects setter argument object after code called failed
    obtain ⟨converted, is, called⟩ := Option.bind_eq_some_iff.mp called
    cases converted with
    | error e =>
      cases called
      exact .inl rfl
    | ok value =>
      rcases applySetter_failed called failed with kept | partly
      · exact .inl kept
      · exact .inr ⟨value, is, partly⟩

/- Two columns of one name, of which only the first takes an integer, and a tuple without
a second slot. -/
theorem failed_calls_keep_contents_twice_named :
    (∃ s', call (.newPrepared (.newFromPreparedStatement [⟨"x", .native .int⟩, ⟨"x", .native .text⟩]))
        (.bindByName "x" (some (.scalar (.int 1)))) = some (.libInvalidValueType, s') ∧
      (s' = .newPrepared (.newFromPreparedStatement [⟨"x", .native .int⟩, ⟨"x", .native .text⟩]) ∨
        PartlyBound (.newPrepared (.newFromPreparedStatement [⟨"x", .native .int⟩, ⟨"x", .native .text⟩]))
          (.bindByName "x" (some (.scalar (.int 1)))) s')) ∧
    ∃ after, setValue CassDataType.ops [] (.tupleSet 1) (.scalar (.int 1)) (.tuple ⟨none, [none]⟩) =
        some (.libIndexOutOfBounds, after) ∧
      (after = .tuple ⟨none, [none]⟩ ∨
        ∃ value, argumentOf CassDataType.ops [] (.scalar (.int 1)) = some (.ok value) ∧
          PartlySet CassDataType.ops (.tupleSet 1) value (.tuple ⟨none, [none]⟩) after) := by
  obtain ⟨statements, containers⟩ := failed_calls_keep_contents
  refine ⟨⟨_, rfl, ?_⟩, ⟨_, rfl, ?_⟩⟩
  · exact statements _ _ _ .libInvalidValueType rfl (by decide)
  · exact containers CassDataType _ _ _ _ _ _ .libIndexOutOfBounds rfl (by decide)

/-- The first of two columns of one name is bound although the call fails, and so is the
first of two fields of one name. -/
theorem failed_bind_by_name_binds_first :
    (∃ s', call (.newPrepared (.newFromPreparedStatement [⟨"x", .native .int⟩, ⟨"x", .native .text⟩]))
        (.bindByName "x" (some (.scalar (.int 1)))) = some (.libInvalidValueType, s') ∧
      s' ≠ .newPrepared (.newFromPreparedStatement [⟨"x", .native .int⟩, ⟨"x", .native .text⟩])) ∧
    ∃ after, setValue CassDataType.ops [] (.userTypeSetByName "x") (.scalar (.int 1))
        (.userType ⟨.mk (.udt { fieldTypes := [("x", .mk (.value .int)), ("x", .mk (.value .text))] }),
          [none, none]⟩) = some (.libInvalidValueType, after) ∧
      after ≠ .userType ⟨.mk (.udt { fieldTypes := [("x", .mk (.value .int)), ("x", .mk (.value .text))] }),
        [none, none]⟩ := by
  refine ⟨⟨_, rfl, fun same => ?_⟩, ⟨_, rfl, fun same => ?_⟩⟩
  · cases same
  · cases same

end CppRsDriver.Statement
