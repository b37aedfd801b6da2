import CppRsDriver.Statement.Sharing

/-! Statements, batches and requests behave as if each of them had its own copy of all it
refers to: the machine of counted references refines one without references. -/
namespace CppRsDriver.Statement

open CppRsDriver.Lib CppRsDriver.Types

/-! Objects that own what they show. -/
namespace Owned

def setOptions (change : QueryOptions → QueryOptions) :
    BoundOf PreparedContents → BoundOf PreparedContents
  | .simple q options => .simple q (change options)
  | .prepared p values => .prepared { p with options := change p.options } values

def setStatement (setter : StatementSetter) (s : CassStatement PreparedContents) :
    CassStatement PreparedContents :=
  match setter.options with
  | none => setter.own s
  | some change => { setter.own s with statement := setOptions change (setter.own s).statement }

def callStatement (c : Call) (s : CassStatement PreparedContents) :
    Option (CassStatement PreparedContents) := do
  let bound ← Statement.step s.statement.toBound c
  return { s with statement := s.statement.put bound }

def setBatch (setter : BatchSetter) (b : CassBatch BatchContents) : CassBatch BatchContents :=
  match setter.options with
  | none => setter.own b
  | some change =>
    { setter.own b with
      state := { (setter.own b).state with config := change (setter.own b).state.config } }

/-- The copy of a request gets the handle of its profile. -/
def resolve (handle : Option ExecutionProfileHandle) : Contents → Option Contents
  | .request s false =>
    some (.request { s with statement := setOptions (QueryOptions.setHandle handle) s.statement } true)
  | .batchRequest b false => some (.batchRequest { b with state := b.state.setHandle handle } true)
  | _ => none

def step (values : List Contents) : Action → Option (List Contents)
  | .statementNew query parameterCount =>
    some (values ++
      [.statement (.new (.simple ⟨query, List.replicate parameterCount .unset, []⟩ {}))])
  | .prepare colSpecs options =>
    some (values ++ [.prepared ⟨.newFromPreparedStatement colSpecs, options⟩])
  | .getPrepared i =>
    match values[i]? with
    | some (.prepared p) => some (values ++ [.prepared p])
    | _ => none
  | .preparedBind i =>
    match values[i]? with
    | some (.prepared p) =>
      some (values ++ [.statement
        (.new (.prepared p (List.replicate p.prepared.variableColSpecs.length .unset)))])
    | _ => none
  | .prepareFromExisting i =>
    match values[i]? with
    | some (.statement ⟨.prepared p _, _, _, _⟩) => some (values ++ [.prepared p])
    | _ => none
  | .statementSet i setter =>
    match values[i]? with
    | some (.statement s) => some (values.set i (.statement (setStatement setter s)))
    | _ => none
  | .statementCall i c =>
    match values[i]? with
    | some (.statement s) => (callStatement c s).map (fun s => values.set i (.statement s))
    | _ => none
  | .batchNew batchType => some (values ++ [.batch ⟨.new batchType, none⟩])
  | .batchSet i setter =>
    match values[i]? with
    | some (.batch b) => some (values.set i (.batch (setBatch setter b)))
    | _ => none
  | .batchAddStatement i j =>
    match values[i]?, values[j]? with
    | some (.batch b), some (.statement s) =>
      some (values.set i (.batch { b with state := b.state.addStatement s.statement }))
    | _, _ => none
  | .execute connected i =>
    match values[i]? with
    | some (.statement s) => if connected then some (values ++ [.request s false]) else some values
    | _ => none
  | .executeBatch connected i =>
    match values[i]? with
    | some (.batch b) => if connected then some (values ++ [.batchRequest b false]) else some values
    | _ => none
  | .resolveProfile i handle =>
    (values[i]?.bind (resolve handle)).map (fun c => values.set i c)
  | .free i =>
    match values[i]? with
    | none => none
    | some .freed => none
    | some _ => some (values.set i .freed)

end Owned

namespace State

def preparedRefs (s : State) : List (Option Nat) := s.objects.map Object.preparedRef

def batchRefs (s : State) : List (Option Nat) := s.objects.map Object.batchRef

/-- The strong counts are the numbers of objects that hold the references. -/
structure Inv (s : State) : Prop where
  prepareds : s.prepareds.Counted s.preparedRefs
  batches : s.batches.Counted s.batchRefs

/-- The objects with copies of all they refer to. -/
structure Represents (s : State) (values : List Contents) : Prop where
  length : s.objects.length = values.length
  contents : ∀ i, s.contents i = values[i]?

end State

theorem Object.read_congr {o : Object Nat Nat} {h h' : ArcHeap PreparedContents}
    {k k' : ArcHeap BatchContents} (prepareds : ∀ r, o.preparedRef = some r → h'.get? r = h.get? r)
    (batches : ∀ r, o.batchRef = some r → k'.get? r = k.get? r) : o.read h' k' = o.read h k := by
  have statements (s : CassStatement Nat)
      (same : ∀ r, s.statement.ref = some r → h'.get? r = h.get? r) : s.read h' = s.read h := by
    unfold CassStatement.read
    cases shape : s.statement with
    | simple q options => rfl
    | prepared arc values => simp only [BoundOf.read, same arc (by simp [shape, BoundOf.ref])]
  cases o with
  | prepared arc => simp only [read, prepareds arc rfl]
  | statement s => simp only [read, statements s prepareds]
  | request s resolved => simp only [read, statements s prepareds]
  | batch b => simp only [read, CassBatch.read, batches b.state rfl]
  | batchRequest b resolved => simp only [read, CassBatch.read, batches b.state rfl]
  | freed => rfl

namespace State

variable {s t : State} {values : List Contents}

theorem Represents.object (rep : s.Represents values) {i : Nat} {o : Object Nat Nat}
    (found : s.objects[i]? = some o) :
    ∃ c, o.read s.prepareds s.batches = some c ∧ values[i]? = some c := by
  have inside : i < values.length := rep.length ▸ (List.getElem?_eq_some_iff.mp found).1
  have same := rep.contents i
  simp only [State.contents, found, Option.bind_some, List.getElem?_eq_getElem inside] at same
  exact ⟨values[i], same, List.getElem?_eq_getElem inside⟩

theorem Represents.prepared (rep : s.Represents values) {i arc : Nat}
    (found : s.objects[i]? = some (.prepared arc)) :
    ∃ p, s.prepareds.get? arc = some p ∧ values[i]? = some (.prepared p) := by
  obtain ⟨c, shown, there⟩ := rep.object found
  obtain ⟨p, content, rfl⟩ := Option.map_eq_some_iff.mp shown
  exact ⟨p, content, there⟩

theorem Represents.statement (rep : s.Represents values) {i : Nat} {st : CassStatement Nat}
    (found : s.objects[i]? = some (.statement st)) :
    ∃ v, st.read s.prepareds = some v ∧ values[i]? = some (.statement v) := by
  obtain ⟨c, shown, there⟩ := rep.object found
  obtain ⟨v, shows, rfl⟩ := Option.map_eq_some_iff.mp shown
  exact ⟨v, shows, there⟩

theorem Represents.batch (rep : s.Represents values) {i : Nat} {b : CassBatch Nat}
    (found : s.objects[i]? = some (.batch b)) :
    ∃ v, b.read s.batches = some v ∧ values[i]? = some (.batch v) := by
  obtain ⟨c, shown, there⟩ := rep.object found
  obtain ⟨v, shows, rfl⟩ := Option.map_eq_some_iff.mp shown
  exact ⟨v, shows, there⟩

theorem Inv.replace {i : Nat} {old o : Object Nat Nat} {c : Contents}
    {h : ArcHeap PreparedContents} {k : ArcHeap BatchContents} (rep : s.Represents values)
    (found : s.objects[i]? = some old)
    (prepareds : s.prepareds.Replaces s.preparedRefs i h o.preparedRef)
    (batches : s.batches.Replaces s.batchRefs i k o.batchRef) (shows : o.read h k = some c) :
    (State.mk h k (s.objects.set i o)).Inv ∧
      (State.mk h k (s.objects.set i o)).Represents (values.set i c) := by
  have inside := (List.getElem?_eq_some_iff.mp found).1
  refine ⟨⟨?_, ?_⟩, ⟨by simp [rep.length], fun j => ?_⟩⟩
  · simpa [preparedRefs, List.map_set] using prepareds.counted
  · simpa [batchRefs, List.map_set] using batches.counted
  · by_cases same : i = j
    · subst same
      simp only [State.contents, List.getElem?_set_self inside, Option.bind_some, shows,
        List.getElem?_set_self (rep.length ▸ inside)]
    · rw [List.getElem?_set_ne same, ← rep.contents j]
      simp only [State.contents, List.getElem?_set_ne same]
      cases there : s.objects[j]? with
      | none => rfl
      | some other =>
        apply Object.read_congr
        · intro r held
          exact prepareds.others j r (Ne.symm same) (by simp [preparedRefs, there, held])
        · intro r held
          exact batches.others j r (Ne.symm same) (by simp [batchRefs, there, held])

theorem Inv.extend {o : Object Nat Nat} {c : Contents} {h : ArcHeap PreparedContents}
    {k : ArcHeap BatchContents} (rep : s.Represents values)
    (prepareds : s.prepareds.Extends s.preparedRefs h o.preparedRef)
    (batches : s.batches.Extends s.batchRefs k o.batchRef) (shows : o.read h k = some c) :
    (State.mk h k (s.objects ++ [o])).Inv ∧
      (State.mk h k (s.objects ++ [o])).Represents (values ++ [c]) := by
  refine ⟨⟨?_, ?_⟩, ⟨by simp [rep.length], fun j => ?_⟩⟩
  · simpa [preparedRefs] using prepareds.counted
  · simpa [batchRefs] using batches.counted
  · rcases Nat.lt_trichotomy j s.objects.length with old | rfl | outside
    · have before := rep.contents j
      rw [List.getElem?_append_left (rep.length ▸ old), ← before]
      simp only [State.contents, List.getElem?_append_left old, List.getElem?_eq_getElem old,
        Option.bind_some]
      apply Object.read_congr
      · intro r held
        exact prepareds.others r (held ▸ List.mem_map_of_mem (List.getElem_mem old))
      · intro r held
        exact batches.others r (held ▸ List.mem_map_of_mem (List.getElem_mem old))
    · rw [rep.length, List.getElem?_concat_length]
      simp only [State.contents, ← rep.length, List.getElem?_concat_length, Option.bind_some, shows]
    · have beyond : values.length < j := rep.length ▸ outside
      rw [List.getElem?_eq_none (by simp only [List.length_append, List.length_singleton]; omega)]
      simp only [State.contents]
      rw [List.getElem?_eq_none (by simp only [List.length_append, List.length_singleton]; omega)]
      rfl

theorem Inv.shared (inv : s.Inv) (rep : s.Represents values) {o : Object Nat Nat} {c : Contents}
    (prepareds : o.preparedRef = none ∨ o.preparedRef ∈ s.preparedRefs)
    (batches : o.batchRef = none ∨ o.batchRef ∈ s.batchRefs)
    (shows : o.read s.prepareds s.batches = some c) :
    (s.share o).Inv ∧ (s.share o).Represents (values ++ [c]) := by
  apply Inv.extend rep
  · rcases prepareds with unheld | held
    · rw [unheld]
      exact inv.prepareds.skip
    · exact inv.prepareds.share held
  · rcases batches with unheld | held
    · rw [unheld]
      exact inv.batches.skip
    · exact inv.batches.share held
  · rw [← shows]
    exact Object.read_congr (fun r _ => ArcHeap.get?_clone _ _ r) (fun r _ => ArcHeap.get?_clone _ _ r)

theorem preparedRef_held {i : Nat} {o : Object Nat Nat} (found : s.objects[i]? = some o) :
    s.preparedRefs[i]? = some o.preparedRef := by
  simp [preparedRefs, found]

theorem batchRef_held {i : Nat} {o : Object Nat Nat} (found : s.objects[i]? = some o) :
    s.batchRefs[i]? = some o.batchRef := by
  simp [batchRefs, found]

end State

/-! What the operations show, against the operations on owned objects. -/
section Operations
variable {h : ArcHeap PreparedContents} {k : ArcHeap BatchContents} {refs : List (Option Nat)} {i : Nat}

theorem BoundOf.setOptions_replaces (counted : h.Counted refs) {b : BoundOf Nat}
    (held : refs[i]? = some b.ref) (change : QueryOptions → QueryOptions) :
    h.Replaces refs i (b.setOptions h change).1 (b.setOptions h change).2.ref := by
  cases b with
  | simple q options => exact counted.keep held
  | prepared arc values =>
    exact counted.mutate held (fun p => { p with options := change p.options })

theorem BoundOf.setOptions_read (b : BoundOf Nat) (change : QueryOptions → QueryOptions) :
    (b.setOptions h change).2.read (b.setOptions h change).1 =
      (b.read h).map (Owned.setOptions change) := by
  cases b with
  | simple q options => rfl
  | prepared arc values =>
    simp only [setOptions, read, ArcHeap.get?_makeMut, Option.map_map]
    rfl

theorem BoundOf.put_ref (b : BoundOf Nat) (bound : BoundStatement) : (b.put bound).ref = b.ref := by
  cases b <;> cases bound <;> rfl

theorem BoundOf.put_read (b : BoundOf Nat) (bound : BoundStatement) :
    (b.put bound).read h = (b.read h).map (fun c => c.put bound) := by
  cases b with
  | simple q options => cases bound <;> rfl
  | prepared arc values =>
    cases bound <;> simp only [put, read, Option.map_map] <;> rfl

namespace CassStatement

theorem read_eq_some {s : CassStatement Nat} {c : CassStatement PreparedContents} :
    s.read h = some c ↔ s.statement.read h = some c.statement ∧ s.pagingState = c.pagingState ∧
      s.pagingEnabled = c.pagingEnabled ∧ s.execProfile = c.execProfile := by
  obtain ⟨b, state, enabled, profile⟩ := c
  simp [read, Option.map_eq_some_iff, mk.injEq]

theorem own_statement {P : Type} (setter : StatementSetter) (s : CassStatement P) :
    (setter.own s).statement = s.statement := by
  cases setter <;> rfl

theorem own_read (setter : StatementSetter) {s : CassStatement Nat}
    {c : CassStatement PreparedContents} (shows : s.read h = some c) :
    (setter.own s).read h = some (setter.own c) := by
  obtain ⟨b, state, enabled, profile⟩ := read_eq_some.mp shows
  rw [read_eq_some, own_statement, own_statement]
  refine ⟨b, ?_⟩
  cases setter <;> simp [StatementSetter.own, state, enabled, profile]

theorem setOptions_read {s : CassStatement Nat} {c : CassStatement PreparedContents}
    (shows : s.read h = some c) (change : QueryOptions → QueryOptions) :
    (s.setOptions h change).2.read (s.setOptions h change).1 =
      some { c with statement := Owned.setOptions change c.statement } := by
  obtain ⟨b, own⟩ := read_eq_some.mp shows
  rw [read_eq_some]
  refine ⟨?_, own⟩
  simp only [setOptions, BoundOf.setOptions_read, b, Option.map_some]

theorem set_replaces (counted : h.Counted refs) {s : CassStatement Nat}
    (held : refs[i]? = some s.statement.ref) (setter : StatementSetter) :
    h.Replaces refs i (s.set h setter).1 (s.set h setter).2.statement.ref := by
  rw [← own_statement setter s] at held
  unfold set
  cases setter.options with
  | none => exact counted.keep held
  | some change => exact BoundOf.setOptions_replaces counted held change

theorem set_read {s : CassStatement Nat} {c : CassStatement PreparedContents}
    (shows : s.read h = some c) (setter : StatementSetter) :
    (s.set h setter).2.read (s.set h setter).1 = some (Owned.setStatement setter c) := by
  unfold set Owned.setStatement
  cases setter.options with
  | none => exact own_read setter shows
  | some change => exact setOptions_read (own_read setter shows) change

theorem call_spec {s s' : CassStatement Nat} {c : CassStatement PreparedContents} {call : Call}
    (shows : s.read h = some c) (called : s.call h call = some s') :
    s'.statement.ref = s.statement.ref ∧
      ∃ c', Owned.callStatement call c = some c' ∧ s'.read h = some c' := by
  obtain ⟨b, own⟩ := read_eq_some.mp shows
  simp only [CassStatement.call, b, Option.bind_eq_bind, Option.bind_some, Option.bind_eq_some_iff,
    Option.pure_def, Option.some.injEq] at called
  obtain ⟨bound, bound_eq, rfl⟩ := called
  refine ⟨BoundOf.put_ref _ _, { c with statement := c.statement.put bound }, ?_, ?_⟩
  · simp [Owned.callStatement, bound_eq]
  · rw [read_eq_some]
    refine ⟨?_, own⟩
    simp only [BoundOf.put_read, b, Option.map_some]

end CassStatement

namespace CassBatch

theorem read_eq_some {b : CassBatch Nat} {c : CassBatch BatchContents} :
    b.read k = some c ↔ k.get? b.state = some c.state ∧ b.execProfile = c.execProfile := by
  obtain ⟨state, profile⟩ := c
  simp [read, Option.map_eq_some_iff, mk.injEq]

theorem makeMut_replaces (counted : k.Counted refs) {b : CassBatch Nat}
    (held : refs[i]? = some (some b.state)) (change : BatchContents → BatchContents) :
    k.Replaces refs i (b.makeMut k change).1 (some (b.makeMut k change).2.state) :=
  counted.mutate held change

theorem makeMut_read {b : CassBatch Nat} {c : CassBatch BatchContents} (shows : b.read k = some c)
    (change : BatchContents → BatchContents) :
    (b.makeMut k change).2.read (b.makeMut k change).1 = some { c with state := change c.state } := by
  obtain ⟨state, profile⟩ := read_eq_some.mp shows
  rw [read_eq_some]
  refine ⟨?_, profile⟩
  simp only [makeMut, ArcHeap.get?_makeMut, state, Option.map_some]

theorem own_state {B : Type} (setter : BatchSetter) (b : CassBatch B) :
    (setter.own b).state = b.state := by
  cases setter <;> rfl

theorem own_read (setter : BatchSetter) {b : CassBatch Nat} {c : CassBatch BatchContents}
    (shows : b.read k = some c) : (setter.own b).read k = some (setter.own c) := by
  obtain ⟨state, profile⟩ := read_eq_some.mp shows
  rw [read_eq_some, own_state, own_state]
  refine ⟨state, ?_⟩
  cases setter <;> simp [BatchSetter.own, profile]

theorem set_replaces (counted : k.Counted refs) {b : CassBatch Nat}
    (held : refs[i]? = some (some b.state)) (setter : BatchSetter) :
    k.Replaces refs i (b.set k setter).1 (some (b.set k setter).2.state) := by
  rw [← own_state setter b] at held
  unfold set
  cases setter.options with
  | none => exact counted.keep held
  | some change => exact makeMut_replaces counted held _

theorem set_read {b : CassBatch Nat} {c : CassBatch BatchContents} (shows : b.read k = some c)
    (setter : BatchSetter) : (b.set k setter).2.read (b.set k setter).1 = some (Owned.setBatch setter c) := by
  unfold set Owned.setBatch
  cases setter.options with
  | none => exact own_read setter shows
  | some change => exact makeMut_read (own_read setter shows) _

end CassBatch

end Operations

namespace State

variable {s t : State} {values : List Contents}

theorem Inv.setStatement (inv : s.Inv) (rep : s.Represents values) {i : Nat} {old : Object Nat Nat}
    {result : ArcHeap PreparedContents × CassStatement Nat} {c : CassStatement PreparedContents}
    {make : CassStatement Nat → Object Nat Nat} {wrap : CassStatement PreparedContents → Contents}
    (prepareds : ∀ st, (make st).preparedRef = st.statement.ref)
    (batches : ∀ st, (make st).batchRef = none)
    (reads : ∀ h k st, (make st).read h k = (st.read h).map wrap)
    (found : s.objects[i]? = some old) (unheld : old.batchRef = none)
    (replaces : s.prepareds.Replaces s.preparedRefs i result.1 result.2.statement.ref)
    (shows : result.2.read result.1 = some c) :
    (s.setStatement i result make).Inv ∧
      (s.setStatement i result make).Represents (values.set i (wrap c)) := by
  apply Inv.replace rep found
  · rw [prepareds]
    exact replaces
  · rw [batches]
    exact inv.batches.keep (unheld ▸ batchRef_held found)
  · rw [reads, shows]
    rfl

theorem Inv.setBatch (inv : s.Inv) (rep : s.Represents values) {i : Nat} {old : Object Nat Nat}
    {result : ArcHeap BatchContents × CassBatch Nat} {c : CassBatch BatchContents}
    {make : CassBatch Nat → Object Nat Nat} {wrap : CassBatch BatchContents → Contents}
    (prepareds : ∀ b, (make b).preparedRef = none)
    (batches : ∀ b, (make b).batchRef = some b.state)
    (reads : ∀ h k b, (make b).read h k = (b.read k).map wrap)
    (found : s.objects[i]? = some old) (unheld : old.preparedRef = none)
    (replaces : s.batches.Replaces s.batchRefs i result.1 (some result.2.state))
    (shows : result.2.read result.1 = some c) :
    (s.setBatch i result make).Inv ∧
      (s.setBatch i result make).Represents (values.set i (wrap c)) := by
  apply Inv.replace rep found
  · rw [prepareds]
    exact inv.prepareds.keep (unheld ▸ preparedRef_held found)
  · rw [batches]
    exact replaces
  · rw [reads, shows]
    rfl

/-- The state after an action stands for the owned objects after it, and has exact counts. -/
def Simulates (t : State) (values : List Contents) (a : Action) : Prop :=
  t.Inv ∧ ∃ after, Owned.step values a = some after ∧ t.Represents after

theorem simulates_of {a : Action} {after : List Contents} (kept : t.Inv ∧ t.Represents after)
    (owned : Owned.step values a = some after) : t.Simulates values a :=
  ⟨kept.1, after, owned, kept.2⟩

theorem prepare_simulates (inv : s.Inv) (rep : s.Represents values) {colSpecs : List ColumnSpec}
    {options : QueryOptions} (stepped : s.step (.prepare colSpecs options) = some t) :
    t.Simulates values (.prepare colSpecs options) := by
  cases stepped
  refine simulates_of (Inv.extend rep (inv.prepareds.create _) inv.batches.skip ?_) rfl
  exact congrArg (Option.map Object.prepared) (ArcHeap.get?_new _ _)

theorem batchNew_simulates (inv : s.Inv) (rep : s.Represents values) {batchType : BatchType}
    (stepped : s.step (.batchNew batchType) = some t) : t.Simulates values (.batchNew batchType) := by
  cases stepped
  refine simulates_of (Inv.extend rep inv.prepareds.skip (inv.batches.create _) ?_) rfl
  have shows : CassBatch.read (s.batches.new (.new batchType)).1
      ⟨(s.batches.new (.new batchType)).2, none⟩ = some ⟨.new batchType, none⟩ :=
    CassBatch.read_eq_some.mpr ⟨ArcHeap.get?_new _ _, rfl⟩
  exact congrArg (Option.map Object.batch) shows

theorem getPrepared_simulates (inv : s.Inv) (rep : s.Represents values) {i : Nat}
    (stepped : s.step (.getPrepared i) = some t) : t.Simulates values (.getPrepared i) := by
  unfold step at stepped
  simp only at stepped
  split at stepped
  · rename_i arc found
    cases stepped
    obtain ⟨p, content, there⟩ := rep.prepared found
    have held := List.mem_of_getElem? (preparedRef_held found)
    have reads : (Object.prepared arc).read s.prepareds s.batches = some (.prepared p) :=
      congrArg (Option.map Object.prepared) content
    exact simulates_of (inv.shared rep (.inr held) (.inl rfl) reads) (by unfold Owned.step; simp only [there])
  · cases stepped

theorem preparedBind_simulates (inv : s.Inv) (rep : s.Represents values) {i : Nat}
    (stepped : s.step (.preparedBind i) = some t) : t.Simulates values (.preparedBind i) := by
  unfold step at stepped
  simp only at stepped
  split at stepped
  · rename_i arc found
    obtain ⟨p, content, there⟩ := rep.prepared found
    simp only [content, Option.bind_eq_bind, Option.bind_some, Option.pure_def,
      Option.some.injEq] at stepped
    subst stepped
    have held := List.mem_of_getElem? (preparedRef_held found)
    let slots : List Slot := List.replicate p.prepared.variableColSpecs.length .unset
    have reads : (Object.statement (.new (.prepared arc slots))).read s.prepareds s.batches =
        some (.statement (.new (.prepared p slots))) := by
      simp only [Object.read, CassStatement.read, CassStatement.new, BoundOf.read, content,
        Option.map_some]
    exact simulates_of (inv.shared rep (.inr held) (.inl rfl) reads)
      (by unfold Owned.step; simp only [there, slots])
  · cases stepped

theorem prepareFromExisting_simulates (inv : s.Inv) (rep : s.Represents values) {i : Nat}
    (stepped : s.step (.prepareFromExisting i) = some t) :
    t.Simulates values (.prepareFromExisting i) := by
  unfold step at stepped
  simp only at stepped
  split at stepped
  · rename_i st found
    obtain ⟨arc, is, rfl⟩ := Option.map_eq_some_iff.mp stepped
    obtain ⟨b, state, enabled, profile⟩ := st
    obtain ⟨v, shows, there⟩ := rep.statement found
    cases b with
    | simple q options => cases is
    | prepared arc values =>
      cases is
      obtain ⟨p, content, rfl⟩ : ∃ p, s.prepareds.get? arc = some p ∧
          (⟨.prepared p values, state, enabled, profile⟩ : CassStatement PreparedContents) = v := by
        simpa [CassStatement.read, BoundOf.read] using shows
      have held := List.mem_of_getElem? (preparedRef_held found)
      have reads : (Object.prepared arc).read s.prepareds s.batches = some (.prepared p) :=
        congrArg (Option.map Object.prepared) content
      exact simulates_of (inv.shared rep (.inr held) (.inl rfl) reads)
        (by unfold Owned.step; simp only [there])
  · cases stepped

theorem statementSet_simulates (inv : s.Inv) (rep : s.Represents values) {i : Nat}
    {setter : StatementSetter} (stepped : s.step (.statementSet i setter) = some t) :
    t.Simulates values (.statementSet i setter) := by
  unfold step at stepped
  simp only at stepped
  split at stepped
  · rename_i st found
    cases stepped
    obtain ⟨v, shows, there⟩ := rep.statement found
    refine simulates_of (inv.setStatement rep (fun _ => rfl) (fun _ => rfl) (fun _ _ _ => rfl) found
      rfl (CassStatement.set_replaces inv.prepareds (preparedRef_held found) setter)
      (CassStatement.set_read shows setter)) ?_
    unfold Owned.step
    simp only [there]
  · cases stepped

theorem statementCall_simulates (inv : s.Inv) (rep : s.Represents values) {i : Nat} {call : Call}
    (stepped : s.step (.statementCall i call) = some t) :
    t.Simulates values (.statementCall i call) := by
  unfold step at stepped
  simp only at stepped
  split at stepped
  · rename_i st found
    simp only [Option.bind_eq_bind, Option.bind_eq_some_iff, Option.pure_def,
      Option.some.injEq] at stepped
    obtain ⟨st', called, rfl⟩ := stepped
    obtain ⟨v, shows, there⟩ := rep.statement found
    obtain ⟨same, v', owned, shows'⟩ := CassStatement.call_spec shows called
    refine simulates_of (inv.setStatement rep (fun _ => rfl) (fun _ => rfl) (fun _ _ _ => rfl) found
      rfl (inv.prepareds.keep ?_) shows') ?_
    · rw [same]
      exact preparedRef_held found
    · unfold Owned.step
      simp only [there, owned, Option.map_some]
  · cases stepped

theorem batchSet_simulates (inv : s.Inv) (rep : s.Represents values) {i : Nat}
    {setter : BatchSetter} (stepped : s.step (.batchSet i setter) = some t) :
    t.Simulates values (.batchSet i setter) := by
  unfold step at stepped
  simp only at stepped
  split at stepped
  · rename_i b found
    cases stepped
    obtain ⟨v, shows, there⟩ := rep.batch found
    refine simulates_of (inv.setBatch rep (fun _ => rfl) (fun _ => rfl) (fun _ _ _ => rfl) found rfl
      (CassBatch.set_replaces inv.batches (batchRef_held found) setter)
      (CassBatch.set_read shows setter)) ?_
    unfold Owned.step
    simp only [there]
  · cases stepped

theorem batchAddStatement_simulates (inv : s.Inv) (rep : s.Represents values) {i j : Nat}
    (stepped : s.step (.batchAddStatement i j) = some t) :
    t.Simulates values (.batchAddStatement i j) := by
  unfold step at stepped
  simp only at stepped
  split at stepped
  · rename_i b st found added
    obtain ⟨v, shows, there⟩ := rep.batch found
    obtain ⟨w, shows', there'⟩ := rep.statement added
    simp only [(CassStatement.read_eq_some.mp shows').1, Option.bind_eq_bind, Option.bind_some,
      Option.pure_def, Option.some.injEq] at stepped
    subst stepped
    refine simulates_of (inv.setBatch rep (fun _ => rfl) (fun _ => rfl) (fun _ _ _ => rfl) found rfl
      (CassBatch.makeMut_replaces inv.batches (batchRef_held found) _)
      (CassBatch.makeMut_read shows _)) ?_
    unfold Owned.step
    simp only [there, there']
  · cases stepped

theorem execute_simulates (inv : s.Inv) (rep : s.Represents values) {connected : Bool} {i : Nat}
    (stepped : s.step (.execute connected i) = some t) :
    t.Simulates values (.execute connected i) := by
  unfold step at stepped
  simp only at stepped
  split at stepped
  · rename_i st found
    obtain ⟨v, shows, there⟩ := rep.statement found
    cases connected with
    | false =>
      cases stepped
      exact simulates_of ⟨inv, rep⟩ (by unfold Owned.step; simp [there])
    | true =>
      cases stepped
      have held := List.mem_of_getElem? (preparedRef_held found)
      have reads : (Object.request st false).read s.prepareds s.batches = some (.request v false) :=
        congrArg (Option.map (fun c => Object.request c false)) shows
      exact simulates_of (inv.shared rep (.inr held) (.inl rfl) reads) (by unfold Owned.step; simp [there])
  · cases stepped

theorem executeBatch_simulates (inv : s.Inv) (rep : s.Represents values) {connected : Bool} {i : Nat}
    (stepped : s.step (.executeBatch connected i) = some t) :
    t.Simulates values (.executeBatch connected i) := by
  unfold step at stepped
  simp only at stepped
  split at stepped
  · rename_i b found
    obtain ⟨v, shows, there⟩ := rep.batch found
    cases connected with
    | false =>
      cases stepped
      exact simulates_of ⟨inv, rep⟩ (by unfold Owned.step; simp [there])
    | true =>
      cases stepped
      have held := List.mem_of_getElem? (batchRef_held found)
      have reads : (Object.batchRequest b false).read s.prepareds s.batches =
          some (.batchRequest v false) :=
        congrArg (Option.map (fun c => Object.batchRequest c false)) shows
      exact simulates_of (inv.shared rep (.inl rfl) (.inr held) reads) (by unfold Owned.step; simp [there])
  · cases stepped

theorem resolveProfile_simulates (inv : s.Inv) (rep : s.Represents values) {i : Nat}
    {handle : Option ExecutionProfileHandle} (stepped : s.step (.resolveProfile i handle) = some t) :
    t.Simulates values (.resolveProfile i handle) := by
  unfold step at stepped
  simp only at stepped
  split at stepped
  · rename_i st found
    cases stepped
    obtain ⟨c, shown, there⟩ := rep.object found
    obtain ⟨v, shows, rfl⟩ := Option.map_eq_some_iff.mp shown
    refine simulates_of (inv.setStatement rep (fun _ => rfl) (fun _ => rfl) (fun _ _ _ => rfl) found
      rfl (BoundOf.setOptions_replaces inv.prepareds (preparedRef_held found) _)
      (CassStatement.setOptions_read shows _)) ?_
    unfold Owned.step
    simp only [there, Option.bind_some, Owned.resolve, Option.map_some]
  · rename_i b found
    cases stepped
    obtain ⟨c, shown, there⟩ := rep.object found
    obtain ⟨v, shows, rfl⟩ := Option.map_eq_some_iff.mp shown
    refine simulates_of (inv.setBatch rep (fun _ => rfl) (fun _ => rfl) (fun _ _ _ => rfl) found rfl
      (CassBatch.makeMut_replaces inv.batches (batchRef_held found) _)
      (CassBatch.makeMut_read shows _)) ?_
    unfold Owned.step
    simp only [there, Option.bind_some, Owned.resolve, Option.map_some]
  · cases stepped

theorem read_ne_freed {h : ArcHeap PreparedContents} {k : ArcHeap BatchContents}
    {o : Object Nat Nat} (live : o ≠ .freed) : o.read h k ≠ some .freed := by
  cases o with
  | freed => exact absurd rfl live
  | _ => simp [Object.read]

theorem free_simulates (inv : s.Inv) (rep : s.Represents values) {i : Nat}
    (stepped : s.step (.free i) = some t) : t.Simulates values (.free i) := by
  unfold step at stepped
  simp only at stepped
  split at stepped
  · cases stepped
  · cases stepped
  · rename_i o live found
    cases stepped
    obtain ⟨c, shown, there⟩ := rep.object found
    refine simulates_of (Inv.replace rep found (inv.prepareds.release (preparedRef_held found))
      (inv.batches.release (batchRef_held found)) rfl) ?_
    have shown_live : c ≠ .freed := by
      rintro rfl
      exact read_ne_freed live shown
    unfold Owned.step
    simp only [there]

/-- A step on references is the same step on owned objects, and keeps the counts. -/
theorem step_simulates (inv : s.Inv) (rep : s.Represents values) {a : Action}
    (stepped : s.step a = some t) : t.Simulates values a := by
  cases a with
  | statementNew query parameterCount =>
    cases stepped
    exact simulates_of (inv.shared rep (.inl rfl) (.inl rfl) rfl) rfl
  | prepare colSpecs options => exact prepare_simulates inv rep stepped
  | getPrepared i => exact getPrepared_simulates inv rep stepped
  | preparedBind i => exact preparedBind_simulates inv rep stepped
  | prepareFromExisting i => exact prepareFromExisting_simulates inv rep stepped
  | statementSet i setter => exact statementSet_simulates inv rep stepped
  | statementCall i c => exact statementCall_simulates inv rep stepped
  | batchNew batchType => exact batchNew_simulates inv rep stepped
  | batchSet i setter => exact batchSet_simulates inv rep stepped
  | batchAddStatement i j => exact batchAddStatement_simulates inv rep stepped
  | execute connected i => exact execute_simulates inv rep stepped
  | executeBatch connected i => exact executeBatch_simulates inv rep stepped
  | resolveProfile i handle => exact resolveProfile_simulates inv rep stepped
  | free i => exact free_simulates inv rep stepped

theorem inv_initial : initial.Inv := ⟨ArcHeap.counted_empty, ArcHeap.counted_empty⟩

theorem represents_initial : initial.Represents [] := ⟨rfl, fun _ => rfl⟩

/-- Every reachable state stands for objects that own what they show. -/
theorem run_represents {s t : State} (kept : s.Inv ∧ ∃ values, s.Represents values)
    {actions : List Action} (ran : run State.step s actions = some t) :
    t.Inv ∧ ∃ values, t.Represents values := by
  have keeps : ∀ (s : State) a t, (s.Inv ∧ ∃ values, s.Represents values) → s.step a = some t →
      t.Inv ∧ ∃ values, t.Represents values := by
    rintro s a t ⟨inv, values, rep⟩ stepped
    obtain ⟨inv', after, -, rep'⟩ := step_simulates inv rep stepped
    exact ⟨inv', after, rep'⟩
  exact run_invariant keeps kept ran

end State

end CppRsDriver.Statement
