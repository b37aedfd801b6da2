import CppRsDriver.Types.Api

/-! What the calls do. Data types are created over existing ones, and an existing one is only
ever extended or renamed; its kind never changes. Containers are created empty, and written by
setters. -/
namespace CppRsDriver.Types

open CppRsDriver.Lib Relation

section Heaps
variable {h : Heap}

theorem Heap.alloc_valid {inner : CassDataTypeInner Nat} {d : Nat} :
    (h.alloc inner).valid d ↔ h.valid d ∨ d = h.cells.length := by
  simp only [Heap.valid, Heap.alloc, List.length_append, List.length_singleton]
  omega

theorem Heap.update_valid {inner : CassDataTypeInner Nat} {d e : Nat} :
    (h.update d inner).valid e ↔ h.valid e := by
  simp only [Heap.valid, Heap.update, List.length_set]

theorem Heap.alloc_closed {inner : CassDataTypeInner Nat} (closed : h.Closed h.valid)
    (children : ∀ e ∈ inner.children, h.valid e) :
    (h.alloc inner).Closed (h.alloc inner).valid := by
  intro d valid e member
  rw [Heap.alloc_valid] at valid ⊢
  rcases valid with old | rfl
  · rw [Heap.inner_alloc old] at member
    exact .inl (closed d old e member)
  · rw [Heap.inner_alloc_self] at member
    exact .inl (children e member)

theorem Heap.update_closed {inner : CassDataTypeInner Nat} {d : Nat} (closed : h.Closed h.valid)
    (children : ∀ e ∈ inner.children, h.valid e) :
    (h.update d inner).Closed (h.update d inner).valid := by
  intro e valid e' member
  rw [Heap.update_valid] at valid ⊢
  by_cases same : e = d
  · subst same
    rw [Heap.inner_update_self valid] at member
    exact children e' member
  · rw [Heap.inner_update_ne same] at member
    exact closed e valid e' member

theorem Heap.valid_of_vector {d typ : Nat} {dimensions : UInt16}
    (is : h.inner d = .vector typ dimensions) : h.valid d := by
  by_contra outside
  have default : h.inner d = .custom "" := by
    simp only [Heap.inner, List.getD_eq_getElem?_getD, List.getElem?_eq_none (Nat.not_lt.mp outside),
      Option.getD_none]
  cases default.symm.trans is

end Heaps

/-- The modifications of a data type, with the subtype they add if they add one. -/
inductive CassDataTypeInner.Grows {D : Type} :
    CassDataTypeInner D → CassDataTypeInner D → Option D → Prop where
  | list (frozen sub) : Grows (.list none frozen) (.list (some sub) frozen) (some sub)
  | set (frozen sub) : Grows (.set none frozen) (.set (some sub) frozen) (some sub)
  | mapKey (frozen sub) : Grows (.map .untyped frozen) (.map (.key sub) frozen) (some sub)
  | mapValue (frozen k sub) :
      Grows (.map (.key k) frozen) (.map (.keyAndValue k sub) frozen) (some sub)
  | tuple (types sub) : Grows (.tuple types) (.tuple (types ++ [sub])) (some sub)
  | field (u : UdtDataType D) (name sub) :
      Grows (.udt u) (.udt { u with fieldTypes := u.fieldTypes ++ [(name, sub)] }) (some sub)
  | typeName (u : UdtDataType D) (name) : Grows (.udt u) (.udt { u with name }) none
  | keyspace (u : UdtDataType D) (keyspace) : Grows (.udt u) (.udt { u with keyspace }) none
  | className (old new) : Grows (.custom old) (.custom new) none

section Functions
variable {inner after : CassDataTypeInner Nat} {sub : Nat}

theorem addSubDataType_grows (added : inner.addSubDataType sub = .ok after) :
    inner.Grows after (some sub) := by
  unfold CassDataTypeInner.addSubDataType at added
  split at added
  all_goals cases added
  · exact .list _ _
  · exact .set _ _
  · exact .mapValue _ _ _
  · exact .mapKey _ _
  · exact .tuple _ _

theorem onUdt_ok {change : UdtDataType Nat → UdtDataType Nat}
    (changed : onUdt inner change = .ok after) :
    ∃ u, inner = .udt u ∧ after = .udt (change u) := by
  unfold onUdt at changed
  split at changed
  · exact ⟨_, rfl, (Except.ok.inj changed).symm⟩
  · contradiction

theorem addSubTypeByName_grows {name : String} (added : addSubTypeByName inner name sub = .ok after) :
    inner.Grows after (some sub) := by
  obtain ⟨u, rfl, rfl⟩ := onUdt_ok added
  exact .field u name sub

theorem setTypeName_grows {name : String} (changed : setTypeName inner name = .ok after) :
    inner.Grows after none := by
  obtain ⟨u, rfl, rfl⟩ := onUdt_ok changed
  exact .typeName u name

theorem setKeyspace_grows {keyspace : String} (changed : setKeyspace inner keyspace = .ok after) :
    inner.Grows after none := by
  obtain ⟨u, rfl, rfl⟩ := onUdt_ok changed
  exact .keyspace u keyspace

theorem setClassName_grows {className : String} (changed : setClassName inner className = .ok after) :
    inner.Grows after none := by
  unfold setClassName at changed
  split at changed
  · cases changed
    exact .className _ _
  · cases changed

theorem CassDataTypeInner.Grows.children {D : Type} {inner after : CassDataTypeInner D}
    {sub : Option D} (grows : inner.Grows after sub) :
    ∀ e ∈ after.children, e ∈ inner.children ∨ sub = some e := by
  cases grows <;> simp [CassDataTypeInner.children, eq_comm]

end Functions

namespace Heap

/-- One data type is created or modified. -/
inductive Change (h : Heap) : Heap → Prop where
  | alloc (inner) (children : ∀ e ∈ inner.children, h.valid e) : Change h (h.alloc inner)
  | update (d after sub) (valid : h.valid d) (grows : (h.inner d).Grows after sub)
      (subValid : ∀ e, sub = some e → h.valid e) : Change h (h.update d after)

/-- What a data type may become. -/
def Evolves : CassDataTypeInner Nat → CassDataTypeInner Nat → Prop :=
  ReflTransGen (fun inner after => ∃ sub, inner.Grows after sub)

variable {h h' : Heap} {d : Nat}

theorem Change.closed (change : h.Change h') (closed : h.Closed h.valid) : h'.Closed h'.valid := by
  cases change with
  | alloc inner children => exact alloc_closed closed children
  | update d after sub valid grows subValid =>
    apply update_closed closed
    intro e member
    rcases grows.children e member with old | new
    · exact closed d valid e old
    · exact subValid e new

theorem Change.valid (change : h.Change h') (valid : h.valid d) : h'.valid d := by
  cases change with
  | alloc inner children => exact alloc_valid.mpr (.inl valid)
  | update => exact update_valid.mpr valid

theorem Change.evolves (change : h.Change h') (valid : h.valid d) :
    Evolves (h.inner d) (h'.inner d) := by
  cases change with
  | alloc inner children =>
    rw [inner_alloc valid]
    exact .refl
  | update e after sub _ grows subValid =>
    by_cases same : d = e
    · subst same
      rw [inner_update_self valid]
      exact .single ⟨sub, grows⟩
    · rw [inner_update_ne same]
      exact .refl

theorem Evolves.tuple {types : List Nat} {after : CassDataTypeInner Nat}
    (evolves : Evolves (.tuple types) after) : ∃ more, after = .tuple (types ++ more) := by
  induction evolves with
  | refl => exact ⟨[], by rw [List.append_nil]⟩
  | tail _ change ih =>
    obtain ⟨more, rfl⟩ := ih
    obtain ⟨_, grows⟩ := change
    cases grows with
    | tuple _ sub => exact ⟨more ++ [sub], by rw [List.append_assoc]⟩

theorem Evolves.udt {u : UdtDataType Nat} {after : CassDataTypeInner Nat}
    (evolves : Evolves (.udt u) after) :
    ∃ v more, after = .udt v ∧ v.fieldTypes = u.fieldTypes ++ more := by
  induction evolves with
  | refl => exact ⟨u, [], rfl, by rw [List.append_nil]⟩
  | tail _ change ih =>
    obtain ⟨v, more, rfl, fields⟩ := ih
    obtain ⟨_, grows⟩ := change
    cases grows with
    | field _ name sub => exact ⟨_, more ++ [(name, sub)], rfl, by simp [fields]⟩
    | typeName | keyspace => exact ⟨_, more, rfl, fields⟩

/-- Any number of changes. -/
def Changes : Heap → Heap → Prop := ReflTransGen Change

theorem Changes.closed (changes : Changes h h') (closed : h.Closed h.valid) : h'.Closed h'.valid := by
  induction changes with
  | refl => exact closed
  | tail _ change ih => exact change.closed ih

theorem Changes.evolves (changes : Changes h h') (valid : h.valid d) :
    h'.valid d ∧ Evolves (h.inner d) (h'.inner d) := by
  induction changes with
  | refl => exact ⟨valid, .refl⟩
  | tail _ change ih => exact ⟨change.valid ih.1, ih.2.trans (change.evolves ih.1)⟩

theorem empty_closed : Closed {} (Heap.valid {}) := fun d valid => absurd valid (Nat.not_lt_zero d)

end Heap

/-- What a call does to the data types: it leaves them, creates one, or modifies one. A leaf
that is added to a data type is created first. -/
inductive HeapStep (fuel : Nat) (h : Heap) : Call → Heap → Prop where
  | kept (call) : HeapStep fuel h call h
  | plain (call inner) (childless : inner.children = [])
      (noVector : ∀ typ dimensions, inner ≠ .vector typ dimensions) :
      HeapStep fuel h call (h.alloc inner)
  | copied (d) (valid : h.valid d) :
      HeapStep fuel h (.dataTypeNewFromExisting d) (h.alloc (h.inner d))
  | vector (d dimensions) (valid : h.valid d) (full : h.isFullyTyped fuel d = some true)
      (nonzero : dimensions ≠ 0) :
      HeapStep fuel h (.dataTypeNewVector d dimensions) (h.alloc (.vector d dimensions))
  | grown (call d after sub) (valid : h.valid d) (grows : (h.inner d).Grows after sub)
      (subValid : ∀ e, sub = some e → h.valid e)
      (adds : ∀ e, sub = some e →
        call = .addSubType d e ∨ ∃ name, call = .addSubTypeByName d name e) :
      HeapStep fuel h call (h.update d after)
  | grownByLeaf (call d type after) (valid : h.valid d)
      (grows : (h.inner d).Grows after (some h.cells.length))
      (adds : call = .addSubValueType d type ∨ ∃ name, call = .addSubValueTypeByName d name type) :
      HeapStep fuel h call ((h.alloc (.value type)).update d after)

/-- A container as the calls create it: without a data type or for one that exists, with a slot
for each of its parts and without values. -/
inductive Created (h : Heap) : ApiObject Nat → Prop where
  | tuple (itemCount) : Created h (.tuple (CassTuple.new itemCount))
  | collection (kind) : Created h (.collection (CassCollection.new kind))
  | tupleFrom (d types) (valid : h.valid d) (is : h.inner d = .tuple types) :
      Created h (.tuple ⟨some d, List.replicate types.length none⟩)
  | listFrom (d typ frozen) (valid : h.valid d) (is : h.inner d = .list typ frozen) :
      Created h (.collection ⟨.list, some d, []⟩)
  | setFrom (d typ frozen) (valid : h.valid d) (is : h.inner d = .set typ frozen) :
      Created h (.collection ⟨.set, some d, []⟩)
  | mapFrom (d typ frozen) (valid : h.valid d) (is : h.inner d = .map typ frozen) :
      Created h (.collection ⟨.map, some d, []⟩)
  | userTypeFrom (d udt) (valid : h.valid d) (is : h.inner d = .udt udt) :
      Created h (.userType ⟨d, List.replicate udt.fieldTypes.length none⟩)
  | vectorFrom (d typ dimensions) (valid : h.valid d) (is : h.inner d = .vector typ dimensions) :
      Created h (.vector ⟨d, typ, List.replicate dimensions.toNat none⟩)

section Created
variable {fuel : Nat} {h : Heap} {d : Nat}

theorem tupleNew_created {tuple : CassTuple Nat} (valid : h.valid d)
    (new : CassTuple.newFromDataType (h.ops fuel) d = some tuple) : Created h (.tuple tuple) := by
  unfold CassTuple.newFromDataType at new
  split at new
  all_goals cases new
  exact .tupleFrom d _ valid (by assumption)

theorem collectionNew_created {collection : CassCollection Nat} (valid : h.valid d)
    (new : CassCollection.newFromDataType (h.ops fuel) d = some collection) :
    Created h (.collection collection) := by
  unfold CassCollection.newFromDataType at new
  split at new
  all_goals cases new
  · exact .listFrom d _ _ valid (by assumption)
  · exact .setFrom d _ _ valid (by assumption)
  · exact .mapFrom d _ _ valid (by assumption)

theorem userTypeNew_created {userType : CassUserType Nat} (valid : h.valid d)
    (new : CassUserType.newFromDataType (h.ops fuel) d = some userType) :
    Created h (.userType userType) := by
  unfold CassUserType.newFromDataType at new
  split at new
  all_goals cases new
  exact .userTypeFrom d _ valid (by assumption)

theorem vectorNew_created {vector : CassVector Nat} (valid : h.valid d)
    (new : CassVector.newFromDataType (h.ops fuel) d = some vector) : Created h (.vector vector) := by
  unfold CassVector.newFromDataType at new
  split at new
  all_goals cases new
  exact .vectorFrom d _ _ valid (by assumption)

end Created

section Given
variable {fuel : Nat} {s t : State}

theorem given_eq_some {refs : List Nat} {next : Option State} (is : given s refs next = some t) :
    (∀ d ∈ refs, s.heap.valid d) ∧ next = some t := by
  unfold given at is
  split at is
  · rename_i all
    rw [List.all_eq_true] at all
    refine ⟨fun d member => ?_, is⟩
    simpa [Heap.valid] using all d member
  · contradiction

theorem given_one {d : Nat} {next : State} (is : given s [d] (some next) = some t) :
    s.heap.valid d ∧ t = next := by
  obtain ⟨valid, same⟩ := given_eq_some is
  exact ⟨List.forall_mem_singleton.mp valid, (Option.some.inj same).symm⟩

theorem given_two {d sub : Nat} {next : State} (is : given s [d, sub] (some next) = some t) :
    (s.heap.valid d ∧ s.heap.valid sub) ∧ t = next := by
  obtain ⟨valid, same⟩ := given_eq_some is
  rw [List.forall_mem_cons, List.forall_mem_singleton] at valid
  exact ⟨valid, (Option.some.inj same).symm⟩

/-- A setter does nothing if its argument is a container that cannot be converted. -/
theorem set_eq_some {o : Nat} {setter : Setter} {argument : Argument}
    (stepped : step fuel s (.set o setter argument) = some t) :
    t = s ∨ ∃ object value code after, s.objects[o]? = some object ∧
      argumentOf (s.heap.ops fuel) s.objects argument = some (.ok value) ∧
      applySetter (s.heap.ops fuel) setter object value = some (code, after) ∧
      t = { s with objects := s.objects.set o after } := by
  obtain ⟨object, at', stepped⟩ := Option.bind_eq_some_iff.mp stepped
  obtain ⟨value, is, stepped⟩ := Option.bind_eq_some_iff.mp stepped
  cases value with
  | error e => exact .inl (Option.some.inj stepped).symm
  | ok v =>
    obtain ⟨⟨code, after⟩, called, stepped⟩ := Option.bind_eq_some_iff.mp stepped
    exact .inr ⟨object, v, code, after, at', is, called, (Option.some.inj stepped).symm⟩

end Given

/-- What a call does: something to the data types, or a container is created, or one is written.
The calls that change a container leave the data types alone. -/
inductive CallStep (fuel : Nat) (s : State) (call : Call) : State → Prop where
  | types (h') (next : HeapStep fuel s.heap call h') : CallStep fuel s call { s with heap := h' }
  | created (object) (created : Created s.heap object) :
      CallStep fuel s call { s with objects := s.objects ++ [object] }
  | set (o setter argument object value code after) (at' : s.objects[o]? = some object)
      (is : argumentOf (s.heap.ops fuel) s.objects argument = some (.ok value))
      (called : applySetter (s.heap.ops fuel) setter object value = some (code, after)) :
      CallStep fuel s call { s with objects := s.objects.set o after }

section Steps
variable {fuel : Nat} {s t : State} {call : Call}

theorem modify_step {d : Nat} (sub : Option Nat)
    {result : Except CassError (CassDataTypeInner Nat)} (valid : s.heap.valid d)
    (grows : ∀ after, result = .ok after → (s.heap.inner d).Grows after sub)
    (subValid : ∀ e, sub = some e → s.heap.valid e)
    (adds : ∀ e, sub = some e → call = .addSubType d e ∨ ∃ name, call = .addSubTypeByName d name e) :
    CallStep fuel s call (s.modify d result) := by
  cases result with
  | error e => exact .types s.heap (.kept call)
  | ok after => exact .types _ (.grown call d after sub valid (grows after rfl) subValid adds)

theorem modify_by_leaf_step {d : Nat} {type : CassValueType}
    {result : Except CassError (CassDataTypeInner Nat)} (valid : s.heap.valid d)
    (grows : ∀ after, result = .ok after → (s.heap.inner d).Grows after (some s.heap.cells.length))
    (adds : call = .addSubValueType d type ∨ ∃ name, call = .addSubValueTypeByName d name type) :
    CallStep fuel s call ((s.alloc (.value type)).modify d result) := by
  cases result with
  | error e => exact .types _ (.plain call (.value type) rfl nofun)
  | ok after => exact .types _ (.grownByLeaf call d type after valid (grows after rfl) adds)

/- A call that refuses to create the container adds nothing. -/
theorem newFrom_step {C : Type} {created : Option C} {wrap : C → ApiObject Nat}
    (fresh : ∀ c, created = some c → Created s.heap (wrap c)) :
    CallStep fuel s call (s.add (created.map wrap)) := by
  cases created with
  | none => exact .types s.heap (.kept call)
  | some c => exact .created (wrap c) (fresh c rfl)

/-- Every call does one of these. -/
theorem step_call (stepped : step fuel s call = some t) : CallStep fuel s call t := by
  cases call with
  | dataTypeNew type =>
    cases Option.some.inj stepped
    split
    · rename_i inner is
      refine .types _ (.plain _ inner ?_ ?_)
      · cases type <;> first | contradiction | (cases is; rfl)
      · rintro typ dimensions rfl
        cases type <;> cases is
    · exact .types s.heap (.kept _)
  | dataTypeNewFromExisting d =>
    obtain ⟨valid, rfl⟩ := given_one stepped
    exact .types _ (.copied d valid)
  | dataTypeNewTuple | dataTypeNewUdt =>
    cases Option.some.inj stepped
    exact .types _ (.plain _ _ rfl nofun)
  | dataTypeNewVector d dimensions =>
    obtain ⟨valid, is⟩ := given_eq_some stepped
    obtain ⟨full, checked, rfl⟩ := Option.map_eq_some_iff.mp is
    split
    · rename_i both
      obtain ⟨rfl, nonzero⟩ := Bool.and_eq_true_iff.mp both
      exact .types _ (.vector d dimensions (List.forall_mem_singleton.mp valid) checked
        (of_decide_eq_true nonzero))
    · exact .types s.heap (.kept _)
  | addSubType d sub =>
    obtain ⟨⟨valid, subValid⟩, rfl⟩ := given_two stepped
    apply modify_step (some sub) valid (fun _ => addSubDataType_grows)
    · rintro e ⟨⟩
      exact subValid
    · rintro e ⟨⟩
      exact .inl rfl
  | addSubTypeByName d name sub =>
    obtain ⟨⟨valid, subValid⟩, rfl⟩ := given_two stepped
    apply modify_step (some sub) valid (fun _ => addSubTypeByName_grows)
    · rintro e ⟨⟩
      exact subValid
    · rintro e ⟨⟩
      exact .inr ⟨name, rfl⟩
  | addSubValueType d type =>
    obtain ⟨valid, rfl⟩ := given_one stepped
    exact modify_by_leaf_step valid (fun _ => addSubDataType_grows) (.inl rfl)
  | addSubValueTypeByName d name type =>
    obtain ⟨valid, rfl⟩ := given_one stepped
    exact modify_by_leaf_step valid (fun _ => addSubTypeByName_grows) (.inr ⟨name, rfl⟩)
  | setTypeName d name =>
    obtain ⟨valid, rfl⟩ := given_one stepped
    exact modify_step none valid (fun _ => setTypeName_grows) nofun nofun
  | setKeyspace d keyspace =>
    obtain ⟨valid, rfl⟩ := given_one stepped
    exact modify_step none valid (fun _ => setKeyspace_grows) nofun nofun
  | setClassName d className =>
    obtain ⟨valid, rfl⟩ := given_one stepped
    exact modify_step none valid (fun _ => setClassName_grows) nofun nofun
  | tupleNew itemCount =>
    cases Option.some.inj stepped
    exact .created _ (.tuple itemCount)
  | collectionNew kind =>
    cases Option.some.inj stepped
    exact .created _ (.collection kind)
  | tupleNewFromDataType d =>
    obtain ⟨valid, rfl⟩ := given_one stepped
    exact newFrom_step (fun _ => tupleNew_created valid)
  | collectionNewFromDataType d =>
    obtain ⟨valid, rfl⟩ := given_one stepped
    exact newFrom_step (fun _ => collectionNew_created valid)
  | userTypeNewFromDataType d =>
    obtain ⟨valid, rfl⟩ := given_one stepped
    exact newFrom_step (fun _ => userTypeNew_created valid)
  | vectorNewFromDataType d =>
    obtain ⟨valid, rfl⟩ := given_one stepped
    exact newFrom_step (fun _ => vectorNew_created valid)
  | set o setter argument =>
    rcases set_eq_some stepped with rfl | ⟨object, value, code, after, at', is, called, rfl⟩
    · exact .types t.heap (.kept _)
    · exact .set o setter argument object value code after at' is called

theorem step_heap (stepped : step fuel s call = some t) : HeapStep fuel s.heap call t.heap := by
  cases step_call stepped with
  | types h' next => exact next
  | created | set => exact .kept call

theorem HeapStep.changes {h h' : Heap} (next : HeapStep fuel h call h') (closed : h.Closed h.valid) :
    Heap.Changes h h' := by
  cases next with
  | kept => exact .refl
  | plain _ inner childless =>
    refine .single (.alloc inner ?_)
    rw [childless]
    exact fun e member => absurd member List.not_mem_nil
  | copied d valid => exact .single (.alloc _ (closed d valid))
  | vector d dimensions valid => exact .single (.alloc _ (List.forall_mem_singleton.mpr valid))
  | grown _ d after sub valid grows subValid => exact .single (.update d after sub valid grows subValid)
  | grownByLeaf _ d type after valid grows =>
    have fresh : Heap.Changes h (h.alloc (.value type)) :=
      .single (.alloc (.value type) (fun e member => absurd member List.not_mem_nil))
    refine fresh.tail (.update d after (some h.cells.length) (Heap.alloc_valid.mpr (.inl valid)) ?_ ?_)
    · rw [Heap.inner_alloc valid]
      exact grows
    · rintro e ⟨⟩
      exact Heap.alloc_valid.mpr (.inr rfl)

theorem step_changes (closed : s.heap.Closed s.heap.valid) (stepped : step fuel s call = some t) :
    Heap.Changes s.heap t.heap :=
  (step_heap stepped).changes closed

theorem run_changes {calls : List Call} (closed : s.heap.Closed s.heap.valid)
    (ran : run (step fuel) s calls = some t) : Heap.Changes s.heap t.heap := by
  induction calls generalizing s with
  | nil => exact Option.some.inj ran ▸ .refl
  | cons call calls ih =>
    obtain ⟨next, stepped, rest⟩ := run_cons_some.mp ran
    have changes := step_changes closed stepped
    exact changes.trans (ih (changes.closed closed) rest)

end Steps

end CppRsDriver.Types
