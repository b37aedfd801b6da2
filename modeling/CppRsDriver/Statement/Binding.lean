import CppRsDriver.Lib.Slots
import CppRsDriver.Statement.Model

/-! What a call may do to a statement. -/
namespace CppRsDriver.Statement

open CppRsDriver.Lib CppRsDriver.Types

/-- Writes of one value into slots of a prepared statement, each after a type check. -/
inductive CheckedWrites (value : Option Value) :
    BoundPreparedStatement → BoundPreparedStatement → Prop where
  | done (p) : CheckedWrites value p p
  | write (p p' : BoundPreparedStatement) (i : Nat) (dt : CassDataType)
      (typed : p.statement.variableColDataTypes[i]? = some dt)
      (compatible : isTypeCompatible CassDataType.ops value dt = some true)
      (rest : CheckedWrites value { p with boundValues := p.boundValues.set i (.set value) } p') :
      CheckedWrites value p p'

namespace BoundPreparedStatement

theorem bindCqlValue_cases {p p' : BoundPreparedStatement} {i : Nat} {value : Option Value}
    {code : CassError} (bound : p.bindCqlValue i value = some (code, p')) :
    p' = p ∨ ∃ dt, p.statement.variableColDataTypes[i]? = some dt ∧
      isTypeCompatible CassDataType.ops value dt = some true ∧
      p' = { p with boundValues := p.boundValues.set i (.set value) } := by
  simp only [bindCqlValue] at bound
  split at bound
  · rename_i slot dt _ typed
    obtain ⟨compatible, checked, result⟩ := Option.map_eq_some_iff.mp bound
    cases compatible with
    | false => exact .inl (Prod.mk.inj result).2.symm
    | true => exact .inr ⟨dt, typed, checked, (Prod.mk.inj result).2.symm⟩
  · exact .inl (Prod.mk.inj (Option.some.inj bound)).2.symm

theorem bindCqlValue_writes {p p' p'' : BoundPreparedStatement} {i : Nat} {value : Option Value}
    {code : CassError} (bound : p.bindCqlValue i value = some (code, p'))
    (rest : CheckedWrites value p' p'') : CheckedWrites value p p'' := by
  rcases bindCqlValue_cases bound with rfl | ⟨dt, typed, compatible, rfl⟩
  · exact rest
  · exact .write p p'' i dt typed compatible rest

theorem bindMultipleValuesByName_writes {p p' : BoundPreparedStatement} {value : Option Value}
    {indices : List Nat} {code : CassError}
    (bound : p.bindMultipleValuesByName value indices = some (code, p')) :
    CheckedWrites value p p' := by
  induction indices generalizing p with
  | nil =>
    cases (Prod.mk.inj (Option.some.inj bound)).2
    exact .done _
  | cons i indices ih =>
    simp only [bindMultipleValuesByName, Option.bind_eq_bind, Option.bind_eq_some_iff] at bound
    obtain ⟨⟨status, next⟩, first, rest⟩ := bound
    apply bindCqlValue_writes first
    -- the loop stops at the first index that is turned away
    split at rest
    · cases (Prod.mk.inj (Option.some.inj rest)).2
      exact .done _
    · exact ih rest

theorem bindCqlValueByName_writes {p p' : BoundPreparedStatement} {name : String} {sensitive : Bool}
    {value : Option Value} {code : CassError}
    (bound : p.bindCqlValueByName name sensitive value = some (code, p')) :
    CheckedWrites value p p' := by
  simp only [bindCqlValueByName] at bound
  split at bound
  · cases (Prod.mk.inj (Option.some.inj bound)).2
    exact .done p
  · exact bindMultipleValuesByName_writes bound

end BoundPreparedStatement

/-- The effects a call can have on a statement. -/
inductive Transition : BoundStatement → Call → BoundStatement → Prop where
  | rejected (s c) : Transition s c s
  | reset (s count) : Transition s (.resetParameters count) (s.resetBoundValues count)
  | bind (q : BoundSimpleStatement) (i value) (inside : i < q.boundValues.length) :
      Transition (.simple q) (.bind i value)
        (.simple { q with boundValues := q.boundValues.set i (.set value) })
  | bindKnown (q : BoundSimpleStatement) (name value i)
      (known : q.nameToBoundIndex.lookup (unquote name).1 = some i) :
      Transition (.simple q) (.bindByName name value)
        (.simple { q with boundValues := q.boundValues.set i (.set value) })
  | bindNew (q : BoundSimpleStatement) (name value)
      (absent : q.nameToBoundIndex.lookup (unquote name).1 = none)
      (room : q.nameToBoundIndex.length < q.boundValues.length) :
      Transition (.simple q) (.bindByName name value)
        (.simple { q with
          boundValues := q.boundValues.set q.nameToBoundIndex.length (.set value)
          nameToBoundIndex := ((unquote name).1, q.nameToBoundIndex.length) :: q.nameToBoundIndex })
  | prepared (p p' : BoundPreparedStatement) (c) (value) (writes : CheckedWrites value p p') :
      Transition (.prepared p) c (.prepared p')

namespace BoundSimpleStatement

theorem bindCqlValue_transition (q : BoundSimpleStatement) (i : Nat) (value : Option Value) :
    Transition (.simple q) (.bind i value) (.simple (q.bindCqlValue i value).2) := by
  simp only [bindCqlValue]
  split
  · rename_i inside
    exact .bind q i value inside
  · exact .rejected _ _

theorem bindCqlValueByName_transition (q : BoundSimpleStatement) (name : String)
    (value : Option Value) :
    Transition (.simple q) (.bindByName name value)
      (.simple (q.bindCqlValueByName (unquote name).1 value).2) := by
  simp only [bindCqlValueByName]
  split
  · rename_i i known
    simp only [bindCqlValue]
    split
    · exact .bindKnown q name value i known
    · exact .rejected _ _
  · rename_i absent
    split
    · exact .rejected _ _
    · rename_i room
      have inside : q.nameToBoundIndex.length < q.boundValues.length := Nat.lt_of_not_ge room
      rw [bindCqlValue, if_pos inside]
      exact .bindNew q name value absent inside

end BoundSimpleStatement

theorem step_transition {s t : BoundStatement} {c : Call} (stepped : step s c = some t) :
    Transition s c t := by
  obtain ⟨⟨code, next⟩, called, rfl⟩ := Option.map_eq_some_iff.mp stepped
  cases c with
  | resetParameters count =>
    cases (Prod.mk.inj (Option.some.inj called)).2
    exact .reset s count
  | bind i value =>
    cases s with
    | simple q =>
      cases (Prod.mk.inj (Option.some.inj called)).2
      exact q.bindCqlValue_transition i value
    | prepared p =>
      obtain ⟨⟨status, p'⟩, bound, result⟩ := Option.map_eq_some_iff.mp called
      cases (Prod.mk.inj result).2
      exact .prepared p p' _ value (BoundPreparedStatement.bindCqlValue_writes bound (.done _))
  | bindByName name value =>
    simp only [call, BoundStatement.bindCqlValueByName] at called
    split at called
    · cases (Prod.mk.inj (Option.some.inj called)).2
      exact .rejected _ _
    · cases s with
      | simple q =>
        cases (Prod.mk.inj (Option.some.inj called)).2
        exact q.bindCqlValueByName_transition name value
      | prepared p =>
        obtain ⟨⟨status, p'⟩, bound, result⟩ := Option.map_eq_some_iff.mp called
        cases (Prod.mk.inj result).2
        exact .prepared p p' _ value (BoundPreparedStatement.bindCqlValueByName_writes bound)

/-- A statement as it comes from `cass_statement_new` or `cass_prepared_bind`. -/
inductive Fresh : BoundStatement → Prop where
  | simple (query parameterCount) : Fresh (.newUnprepared query parameterCount)
  | prepared (colSpecs) : Fresh (.newPrepared (.newFromPreparedStatement colSpecs))

/-- The names of a simple statement have slots of their own. -/
def BoundSimpleStatement.NamesInside (q : BoundSimpleStatement) : Prop :=
  Dense q.nameToBoundIndex ∧ q.nameToBoundIndex.length ≤ q.boundValues.length

def BoundStatement.NamesInside : BoundStatement → Prop
  | .simple q => q.NamesInside
  | .prepared _ => True

theorem Transition.namesInside {s t : BoundStatement} {c : Call} (transition : Transition s c t)
    (inside : s.NamesInside) : t.NamesInside := by
  cases transition with
  | rejected => exact inside
  | prepared => trivial
  | reset s count =>
    cases s with
    | simple q => exact ⟨dense_nil, Nat.zero_le _⟩
    | prepared p => trivial
  | bind q i value | bindKnown q name value i known =>
    refine ⟨inside.1, ?_⟩
    rw [List.length_set]
    exact inside.2
  | bindNew q name value absent room =>
    refine ⟨inside.1.allocate absent, ?_⟩
    rw [List.length_set]
    exact room

theorem Fresh.namesInside {start s : BoundStatement} (fresh : Fresh start) {calls : List Call}
    (ran : run step start calls = some s) : s.NamesInside := by
  have initial : start.NamesInside := by
    cases fresh with
    | simple => exact ⟨dense_nil, Nat.zero_le _⟩
    | prepared => trivial
  exact run_invariant (fun _ _ _ inside stepped => (step_transition stepped).namesInside inside)
    initial ran

end CppRsDriver.Statement
