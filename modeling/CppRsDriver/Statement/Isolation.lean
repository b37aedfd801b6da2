import CppRsDriver.Statement.Owned

/-! A request keeps the query, options and values it was made with, and what is set on one
object is seen through no other. Both are read off the machine of owned objects. -/
namespace CppRsDriver.Statement

open CppRsDriver.Lib

namespace Owned

variable {values after : List Contents} {a : Action}

/-- An action changes the object it works on, or adds one, or does nothing. -/
theorem step_cases (stepped : step values a = some after) :
    after = values ∨ (∃ c, after = values ++ [c]) ∨
      ∃ i c, a.target = some i ∧ after = values.set i c := by
  cases a with
  | statementNew _ _ | prepare _ _ | batchNew _ =>
    exact .inr (.inl ⟨_, (Option.some.inj stepped).symm⟩)
  | statementCall i call =>
    simp only [step] at stepped
    split at stepped
    · obtain ⟨s, -, rfl⟩ := Option.map_eq_some_iff.mp stepped
      exact .inr (.inr ⟨i, _, rfl, rfl⟩)
    · cases stepped
  | execute connected i | executeBatch connected i =>
    simp only [step] at stepped
    split at stepped
    · split at stepped
      · exact .inr (.inl ⟨_, (Option.some.inj stepped).symm⟩)
      · exact .inl (Option.some.inj stepped).symm
    · cases stepped
  | getPrepared i | preparedBind i | prepareFromExisting i =>
    simp only [step] at stepped
    split at stepped
    · exact .inr (.inl ⟨_, (Option.some.inj stepped).symm⟩)
    · cases stepped
  | statementSet i setter | batchSet i setter | batchAddStatement i j =>
    simp only [step] at stepped
    split at stepped
    · exact .inr (.inr ⟨i, _, rfl, (Option.some.inj stepped).symm⟩)
    · cases stepped
  | resolveProfile i handle =>
    obtain ⟨c, -, rfl⟩ := Option.map_eq_some_iff.mp stepped
    exact .inr (.inr ⟨i, c, rfl, rfl⟩)
  | free i =>
    simp only [step] at stepped
    split at stepped
    · cases stepped
    · cases stepped
    · exact .inr (.inr ⟨i, _, rfl, (Option.some.inj stepped).symm⟩)

theorem step_frame (stepped : step values a = some after) {j : Nat} {c : Contents}
    (away : a.target ≠ some j) (there : values[j]? = some c) : after[j]? = some c := by
  rcases step_cases stepped with rfl | ⟨d, rfl⟩ | ⟨i, d, target, rfl⟩
  · exact there
  · rwa [List.getElem?_append_left (List.getElem?_eq_some_iff.mp there).1]
  · have differs : i ≠ j := fun same => away (same ▸ target)
    rwa [List.getElem?_set_ne differs]

end Owned

/-- A statement, but for the handle of its execution profile. -/
def CassStatement.withoutHandle (s : CassStatement PreparedContents) :
    CassStatement PreparedContents :=
  { s with statement := Owned.setOptions (QueryOptions.setHandle none) s.statement }

def CassBatch.withoutHandle (b : CassBatch BatchContents) : CassBatch BatchContents :=
  { b with state := b.state.setHandle none }

/-- A request has the query, options and bound values of a statement or batch. -/
def Object.Carries : Contents → Contents → Prop
  | .request s _, .statement source => s.withoutHandle = source.withoutHandle
  | .batchRequest b _, .batch source => b.withoutHandle = source.withoutHandle
  | _, _ => False

theorem Owned.setOptions_setHandle (handle : Option ExecutionProfileHandle)
    (b : BoundOf PreparedContents) :
    setOptions (QueryOptions.setHandle none) (setOptions (QueryOptions.setHandle handle) b) =
      setOptions (QueryOptions.setHandle none) b := by
  cases b <;> rfl

namespace Owned

variable {values after : List Contents} {a : Action}

/-- A request is done, or has what it was made from. -/
def Keeps (values : List Contents) (i : Nat) (source : Contents) : Prop :=
  values[i]? = some .freed ∨ ∃ c, values[i]? = some c ∧ c.Carries source

theorem carries_resolve {c d source : Contents} {handle : Option ExecutionProfileHandle}
    (resolved : resolve handle c = some d) (carries : c.Carries source) : d.Carries source := by
  cases c with
  | request s done =>
    cases done with
    | true => cases resolved
    | false =>
      cases resolved
      cases source with
      | statement original =>
        simp only [Object.Carries, CassStatement.withoutHandle, setOptions_setHandle] at carries ⊢
        exact carries
      | _ => exact carries.elim
  | batchRequest b done =>
    cases done with
    | true => cases resolved
    | false =>
      cases resolved
      cases source with
      | batch original => exact carries
      | _ => exact carries.elim
  | _ => cases resolved

theorem request_step {i : Nat} {c source : Contents} (there : values[i]? = some c)
    (carries : c.Carries source) (target : a.target = some i) (stepped : step values a = some after) :
    after = values.set i .freed ∨ ∃ handle d, resolve handle c = some d ∧ after = values.set i d := by
  cases a with
  | resolveProfile j handle =>
    cases target
    simp only [step, there, Option.bind_some, Option.map_eq_some_iff] at stepped
    obtain ⟨d, resolved, rfl⟩ := stepped
    exact .inr ⟨handle, d, resolved, rfl⟩
  | free j =>
    cases target
    simp only [step] at stepped
    split at stepped
    · cases stepped
    · cases stepped
    · exact .inl (Option.some.inj stepped).symm
  | statementSet j _ | statementCall j _ | batchSet j _ | batchAddStatement j _ =>
    cases target
    cases c with
    | request s done => simp [step, there] at stepped
    | batchRequest b done => simp [step, there] at stepped
    | _ => cases source <;> exact carries.elim
  | _ => cases target

theorem freed_step {i : Nat} (there : values[i]? = some .freed) (stepped : step values a = some after) :
    a.target ≠ some i := by
  intro target
  cases a with
  | statementSet j _ | statementCall j _ | batchSet j _ | batchAddStatement j _
  | resolveProfile j _ | free j =>
    cases target
    simp [step, there, resolve] at stepped
  | _ => cases target

theorem step_keeps {i : Nat} {source : Contents} (kept : Keeps values i source)
    (stepped : step values a = some after) : Keeps after i source := by
  rcases kept with done | ⟨c, there, carries⟩
  · exact .inl (step_frame stepped (freed_step done stepped) done)
  · by_cases target : a.target = some i
    · have inside := (List.getElem?_eq_some_iff.mp there).1
      rcases request_step there carries target stepped with rfl | ⟨handle, d, resolved, rfl⟩
      · exact .inl (List.getElem?_set_self inside)
      · exact .inr ⟨d, List.getElem?_set_self inside, carries_resolve resolved carries⟩
    · exact .inr ⟨c, step_frame stepped target there, carries⟩

end Owned

namespace State

theorem Represents.keeps {s : State} {values : List Contents} (rep : s.Represents values) {i : Nat}
    {source : Contents} : Owned.Keeps values i source ↔
      s.contents i = some .freed ∨ ∃ c, s.contents i = some c ∧ c.Carries source := by
  rw [Owned.Keeps, rep.contents i]

theorem run_keeps {s t : State} {values : List Contents} (inv : s.Inv) (rep : s.Represents values)
    {i : Nat} {source : Contents} (kept : Owned.Keeps values i source) {actions : List Action}
    (ran : run State.step s actions = some t) :
    t.contents i = some .freed ∨ ∃ c, t.contents i = some c ∧ c.Carries source := by
  have keeps : ∀ (s : State) a t,
      (s.Inv ∧ ∃ values, s.Represents values ∧ Owned.Keeps values i source) → s.step a = some t →
      t.Inv ∧ ∃ values, t.Represents values ∧ Owned.Keeps values i source := by
    rintro s a t ⟨inv, values, rep, kept⟩ stepped
    obtain ⟨inv', after, owned, rep'⟩ := step_simulates inv rep stepped
    exact ⟨inv', after, rep', Owned.step_keeps kept owned⟩
  obtain ⟨-, final, rep', kept'⟩ := run_invariant keeps ⟨inv, values, rep, kept⟩ ran
  exact rep'.keeps.mp kept'

end State

theorem Owned.execute_carries {values after : List Contents} {a : Action} {i : Nat}
    (executes : a = .execute true i ∨ a = .executeBatch true i) (stepped : step values a = some after) :
    ∃ source, values[i]? = some source ∧ Keeps after values.length source := by
  rcases executes with rfl | rfl
  · simp only [step] at stepped
    split at stepped
    · rename_i s there
      cases stepped
      exact ⟨_, there, .inr ⟨.request s false, List.getElem?_concat_length, rfl⟩⟩
    · cases stepped
  · simp only [step] at stepped
    split at stepped
    · rename_i b there
      cases stepped
      exact ⟨_, there, .inr ⟨.batchRequest b false, List.getElem?_concat_length, rfl⟩⟩
    · cases stepped

/-- A request has what its statement or batch had at the call until it is done, and an
action on one object changes nothing that is seen through another one. -/
theorem requests_and_siblings_isolated {actions : List Action} {s : State}
    (ran : run State.step .initial actions = some s) :
    (∀ (a : Action) (i : Nat), a = .execute true i ∨ a = .executeBatch true i →
      ∀ t later u, s.step a = some t → run State.step t later = some u →
        ∃ source, s.contents i = some source ∧
          (u.contents s.objects.length = some .freed ∨
            ∃ request, u.contents s.objects.length = some request ∧ request.Carries source)) ∧
    ∀ a t, s.step a = some t → ∀ j c, a.target ≠ some j → s.contents j = some c →
      t.contents j = some c := by
  obtain ⟨inv, values, rep⟩ :=
    State.run_represents ⟨State.inv_initial, [], State.represents_initial⟩ ran
  refine ⟨fun a i executes t later u stepped ran' => ?_, fun a t stepped j c away there => ?_⟩
  · obtain ⟨inv', after, owned, rep'⟩ := State.step_simulates inv rep stepped
    obtain ⟨source, there, kept⟩ := Owned.execute_carries executes owned
    refine ⟨source, (rep.contents i).trans there, ?_⟩
    rw [rep.length]
    exact State.run_keeps inv' rep' kept ran'
  · obtain ⟨-, after, owned, rep'⟩ := State.step_simulates inv rep stepped
    rw [rep.contents j] at there
    rw [rep'.contents j]
    exact Owned.step_frame owned away there

/-- Two statements of one prepared statement. -/
def siblings : List Action := [.prepare [] {}, .preparedBind 0, .preparedBind 0]

/-- The first statement is executed and gets a consistency while the request is in flight. -/
theorem requests_and_siblings_isolated_prepared : ∃ s t u c source,
    run State.step .initial siblings = some s ∧ s.step (.execute true 1) = some t ∧
    run State.step t [.statementSet 1 (.option (.consistency .one)), .resolveProfile 3 none] = some u ∧
    s.contents 1 = some source ∧
    (u.contents 3 = some .freed ∨ ∃ request, u.contents 3 = some request ∧ request.Carries source) ∧
    s.contents 2 = some c ∧ t.contents 2 = some c := by
  have ran : run State.step .initial siblings = some _ := rfl
  have isolated := requests_and_siblings_isolated ran
  obtain ⟨source, there, kept⟩ := isolated.1 (.execute true 1) 1 (.inl rfl) _
    [.statementSet 1 (.option (.consistency .one)), .resolveProfile 3 none] _ rfl rfl
  exact ⟨_, _, _, _, source, ran, rfl, rfl, there, kept, rfl,
    isolated.2 (.execute true 1) _ rfl 2 _ nofun rfl⟩

end CppRsDriver.Statement
