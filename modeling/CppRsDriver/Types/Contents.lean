import CppRsDriver.Types.Changes

/-! What containers hold along a run of calls. A value is checked when it is put in;
the check stays right as long as the data types it looked at are not modified. -/
namespace CppRsDriver.Types

open CppRsDriver.Lib

def ApiObject.dataType {D : Type} : ApiObject D → Option D
  | .value v => v.dataType
  | .tuple t => t.dataType
  | .collection c => c.dataType
  | .userType u => some u.dataType
  | .vector v => some v.dataType

namespace State

/-- Some container was created from a data type that refers to this one, directly or
through others. -/
def inUse (s : State) (e : Nat) : Prop :=
  ∃ object ∈ s.objects, ∃ d, object.dataType = some d ∧ s.heap.Reach d e

/-- The data type, or the lack of one, of one of the containers. -/
def root (s : State) (dataType : Option Nat) : Prop :=
  within s.heap.valid dataType ∧ ∃ object ∈ s.objects, object.dataType = dataType

structure Invariant (fuel : Nat) (s : State) : Prop where
  closed : s.heap.Closed s.heap.valid
  objects : ∀ object ∈ s.objects, object.WellTyped (s.heap.ops fuel) s.root

end State

section Setters
variable {D : Type} {types : TypeOps D} {allowed : Option D → Prop}

theorem applySetter_wellTyped {setter : Setter} {object after : ApiObject D}
    {value : Option (CassCqlValue D)} {code : CassError}
    (before : object.WellTyped types allowed)
    (new : ∀ v, value = some v → WellTyped types allowed v)
    (called : applySetter types setter object value = some (code, after)) :
    after.WellTyped types allowed := by
  unfold applySetter at called
  split at called
  · obtain ⟨⟨code', t⟩, bound, is⟩ := Option.map_eq_some_iff.mp called
    cases is
    exact CassTuple.bindValue_wellTyped before new bound
  · obtain ⟨⟨code', c⟩, appended, is⟩ := Option.map_eq_some_iff.mp called
    cases is
    exact CassCollection.appendCqlValue_wellTyped before new appended
  · obtain ⟨⟨code', u⟩, set, is⟩ := Option.map_eq_some_iff.mp called
    cases is
    exact CassUserType.setFieldByIndex_wellTyped before new set
  · split at called
    · cases Option.some.inj called
      exact before
    · obtain ⟨⟨code', u⟩, set, is⟩ := Option.map_eq_some_iff.mp called
      cases is
      exact CassUserType.setFieldByName_wellTyped before new set
  · split at called
    · rename_i w
      obtain ⟨⟨code', v⟩, bound, is⟩ := Option.map_eq_some_iff.mp called
      cases is
      exact CassVector.bindValue_wellTyped before (new w rfl) bound
    · cases Option.some.inj called
      exact before
  · contradiction

theorem setFieldsFrom_dataType {name : String} {value : Option (CassCqlValue D)}
    {after : CassUserType D} {code : CassError} (rest : List (String × D)) (index : Nat)
    (found : Bool) (userType : CassUserType D)
    (called : CassUserType.setFieldsFrom types name value index rest found userType =
      some (code, after)) : after.dataType = userType.dataType := by
  induction rest generalizing index found userType with
  | nil =>
    cases Option.some.inj called
    rfl
  | cons field rest ih =>
    unfold CassUserType.setFieldsFrom at called
    split at called
    · split at called
      · cases Option.some.inj called
        rfl
      · obtain ⟨ok, -, called⟩ := Option.bind_eq_some_iff.mp called
        cases ok with
        | false =>
          cases Option.some.inj called
          rfl
        | true =>
          exact ih (index + 1) true
            { userType with fieldValues := userType.fieldValues.set index value } called
    · exact ih (index + 1) found userType called

theorem bindValue_dataType {tuple after : CassTuple D} {index : Nat}
    {value : Option (CassCqlValue D)} {code : CassError}
    (called : tuple.bindValue types index value = some (code, after)) :
    after.dataType = tuple.dataType := by
  unfold CassTuple.bindValue at called
  split at called
  · cases Option.some.inj called
    rfl
  · split at called
    · rename_i untyped
      cases Option.some.inj called
      rfl
    · split at called
      · obtain ⟨typ, -, called⟩ := Option.bind_eq_some_iff.mp called
        rcases checked_cases called with rfl | ⟨-, rfl⟩ <;> rfl
      · contradiction

theorem applySetter_dataType {setter : Setter} {object after : ApiObject D}
    {value : Option (CassCqlValue D)} {code : CassError}
    (called : applySetter types setter object value = some (code, after)) :
    after.dataType = object.dataType := by
  unfold applySetter at called
  split at called
  · obtain ⟨⟨code', t⟩, bound, is⟩ := Option.map_eq_some_iff.mp called
    cases is
    exact bindValue_dataType bound
  · obtain ⟨⟨code', c⟩, appended, is⟩ := Option.map_eq_some_iff.mp called
    cases is
    rcases CassCollection.appendCqlValue_cases appended with rfl | ⟨v, -, -, rfl⟩ <;> rfl
  · obtain ⟨⟨code', u⟩, set, is⟩ := Option.map_eq_some_iff.mp called
    cases is
    unfold CassUserType.setFieldByIndex at set
    split at set
    · cases Option.some.inj set
      rfl
    · obtain ⟨fields, -, set⟩ := Option.bind_eq_some_iff.mp set
      obtain ⟨field, -, set⟩ := Option.bind_eq_some_iff.mp set
      rcases checked_cases set with rfl | ⟨-, rfl⟩ <;> rfl
  · split at called
    · cases Option.some.inj called
      rfl
    · obtain ⟨⟨code', u⟩, set, is⟩ := Option.map_eq_some_iff.mp called
      cases is
      obtain ⟨fields, -, set⟩ := Option.bind_eq_some_iff.mp set
      exact congrArg some (setFieldsFrom_dataType _ _ _ _ set)
  · split at called
    · obtain ⟨⟨code', v⟩, bound, is⟩ := Option.map_eq_some_iff.mp called
      cases is
      unfold CassVector.bindValue at bound
      split at bound
      · cases Option.some.inj bound
        rfl
      · rcases checked_cases bound with rfl | ⟨-, rfl⟩ <;> rfl
    · cases Option.some.inj called
      rfl
  · contradiction

theorem argumentOf_wellTyped {objects : List (ApiObject D)} {argument : Argument}
    {v : CassCqlValue D} (typed : ∀ object ∈ objects, object.WellTyped types allowed)
    (is : argumentOf types objects argument = some (.ok (some v))) : WellTyped types allowed v := by
  cases argument with
  | null => cases Option.some.inj is
  | scalar s =>
    cases Option.some.inj is
    exact .scalar s
  | object o =>
    simp only [argumentOf] at is
    split at is
    · rename_i t at'
      cases Option.some.inj is
      exact CassTuple.toCqlValue_wellTyped (typed _ (List.mem_of_getElem? at'))
    · rename_i c at'
      cases converted : c.toCqlValue with
      | error e => simp [converted, Except.map] at is
      | ok w =>
        rw [converted] at is
        cases Option.some.inj is
        exact CassCollection.toCqlValue_wellTyped (typed _ (List.mem_of_getElem? at')) converted
    · rename_i u at'
      obtain ⟨w, converted, same⟩ := Option.map_eq_some_iff.mp is
      cases same
      exact CassUserType.toCqlValue_wellTyped (typed _ (List.mem_of_getElem? at')) converted
    · rename_i w at'
      cases Option.some.inj is
      exact CassVector.toCqlValue_wellTyped (typed _ (List.mem_of_getElem? at'))
    · contradiction

end Setters

section Created
variable {fuel : Nat} {h : Heap} {object : ApiObject Nat}

theorem Created.dataType_valid (created : Created h object) : within h.valid object.dataType := by
  intro d is
  cases created
  all_goals cases is
  all_goals assumption

theorem Created.wellTyped {allowed : Option Nat → Prop} (created : Created h object)
    (ok : allowed object.dataType) : object.WellTyped (h.ops fuel) allowed := by
  cases created with
  | tuple itemCount =>
    exact ⟨ok, fun dt is => by contradiction, fun v member => absurd member not_mem_unset⟩
  | collection kind =>
    exact ⟨ok, fun dt is => by contradiction, fun v member => absurd member List.not_mem_nil⟩
  | tupleFrom d types valid is =>
    exact CassTuple.newFromDataType_wellTyped ok (by simp [CassTuple.newFromDataType, Heap.ops, is])
  | listFrom d typ frozen valid is | setFrom d typ frozen valid is | mapFrom d typ frozen valid is =>
    exact CassCollection.newFromDataType_wellTyped ok
      (by simp [CassCollection.newFromDataType, Heap.ops, is])
  | userTypeFrom d udt valid is =>
    exact CassUserType.newFromDataType_wellTyped ok
      (by simp [CassUserType.newFromDataType, Heap.ops, is])
  | vectorFrom d typ dimensions valid is =>
    exact CassVector.newFromDataType_wellTyped ok
      (by simp [CassVector.newFromDataType, Heap.ops, is])

end Created

/-- The call changes no data type that a container refers to. -/
def Careful (fuel : Nat) (s : State) (call : Call) : Prop :=
  ∀ t, step fuel s call = some t → ∀ d, s.inUse d → t.heap.inner d = s.heap.inner d

section Invariant
variable {fuel : Nat} {s t : State}

theorem State.inUse_closed (s : State) : s.heap.Closed s.inUse := by
  rintro d ⟨object, member, root, is, reach⟩ e child
  exact ⟨object, member, root, is, reach.tail child⟩

theorem State.root_inUse {dataType : Option Nat} (root : s.root dataType) :
    within s.inUse dataType := by
  intro d is
  obtain ⟨-, object, member, carries⟩ := root
  exact ⟨object, member, d, carries.trans is, .refl⟩

theorem State.root_mono (heap : t.heap = s.heap)
    (kept : ∀ object ∈ s.objects, ∃ after ∈ t.objects, after.dataType = object.dataType)
    (dataType : Option Nat) (root : s.root dataType) : t.root dataType := by
  obtain ⟨valid, object, member, carries⟩ := root
  obtain ⟨after, inside, same⟩ := kept object member
  exact ⟨heap ▸ valid, after, inside, same.trans carries⟩

theorem CallStep.invariant {call : Call} (inv : s.Invariant fuel) (next : CallStep fuel s call t)
    (unchanged : ∀ d, s.inUse d → t.heap.inner d = s.heap.inner d) : t.Invariant fuel := by
  cases next with
  | types h' next =>
    -- the data types in use are a closed part in which both heaps agree
    have changes := next.changes inv.closed
    have agree : Heap.Agree s.heap h' s.inUse := ⟨s.inUse_closed, unchanged⟩
    refine ⟨changes.closed inv.closed, fun object member => ?_⟩
    have moved := (inv.objects object member).hom (agree.hom fuel) (fun _ root => State.root_inUse root)
    rw [ApiObject.mapTypes_id] at moved
    refine moved.mono ?_
    rintro _ ⟨dataType, root, rfl⟩
    rw [Option.map_id_apply]
    exact ⟨fun d is => (changes.evolves (root.1 d is)).1, root.2⟩
  | created object created =>
    have kept := State.root_mono (s := s) (t := { s with objects := s.objects ++ [object] }) rfl
      (fun o member => ⟨o, List.mem_append_left _ member, rfl⟩)
    refine ⟨inv.closed, fun o member => ?_⟩
    rcases List.mem_append.mp member with old | new
    · exact (inv.objects o old).mono kept
    · cases List.mem_singleton.mp new
      exact created.wellTyped ⟨created.dataType_valid, object, List.mem_append_right _ (by simp), rfl⟩
  | set o setter argument object value code after at' is called =>
    have kept := State.root_mono (s := s) (t := { s with objects := s.objects.set o after }) rfl
      (fun other member => by
        obtain ⟨i, is⟩ := List.getElem?_of_mem member
        by_cases here : o = i
        · subst here
          have short : o < s.objects.length := (List.getElem?_eq_some_iff.mp at').1
          cases Option.some.inj (at'.symm.trans is)
          exact ⟨after, List.mem_of_getElem? (List.getElem?_set_self short), applySetter_dataType called⟩
        · exact ⟨other, List.mem_of_getElem? ((List.getElem?_set_ne here).trans is), rfl⟩)
    have written : after.WellTyped (s.heap.ops fuel) s.root := by
      refine applySetter_wellTyped (inv.objects object (List.mem_of_getElem? at')) ?_ called
      rintro w rfl
      exact argumentOf_wellTyped inv.objects is
    refine ⟨inv.closed, fun other member => ?_⟩
    rcases List.mem_or_eq_of_mem_set member with old | rfl
    · exact (inv.objects other old).mono kept
    · exact written.mono kept

theorem careful_run_invariant {calls : List Call} (careful : Guarded (Careful fuel) (step fuel) {} calls)
    (ran : run (step fuel) {} calls = some s) : s.Invariant fuel := by
  have keeps : ∀ s call t, State.Invariant fuel s → Careful fuel s call → step fuel s call = some t →
      State.Invariant fuel t :=
    fun s call t inv careful stepped => (step_call stepped).invariant inv (careful t stepped)
  have initial : State.Invariant fuel {} :=
    ⟨Heap.empty_closed, fun o member => absurd member List.not_mem_nil⟩
  exact run_invariant_guarded keeps initial careful ran

/-- As long as no data type is modified while a container refers to it, every value in
a container is compatible with the subtype at its place, and tuples and user types
have as many slots as their data type has subtypes. -/
theorem contents_fit_unmodified_types (fuel : Nat) (calls : List Call) (s : State)
    (careful : Guarded (Careful fuel) (step fuel) {} calls) (ran : run (step fuel) {} calls = some s) :
    ∀ object ∈ s.objects, object.WellTyped (s.heap.ops fuel) (fun _ => True) := by
  have inv := careful_run_invariant careful ran
  exact fun object member => (inv.objects object member).mono (fun _ _ => trivial)

end Invariant

/- A tuple of one integer; its type refuses a class name, and a list type is given its element
type afterwards. -/
theorem contents_fit_unmodified_types_tuple :
    let calls : List Call := [.dataTypeNew .tuple, .addSubValueType 0 .int, .tupleNewFromDataType 0,
      .set 0 (.tupleSet 0) (.scalar (.int 7)), .setClassName 0 "c", .dataTypeNew .list,
      .addSubValueType 2 .text]
    ∃ s, run (step 2) {} calls = some s ∧ s.objects.length = 1 ∧
      ∀ object ∈ s.objects, object.WellTyped (s.heap.ops 2) (fun _ => True) := by
  intro calls
  refine ⟨_, rfl, rfl, contents_fit_unmodified_types 2 calls _ ?_ rfl⟩
  have unused : ∀ {s : State} {call : Call}, s.objects = [] → Careful 2 s call := by
    rintro s call none t - d ⟨object, member, -⟩
    rw [none] at member
    contradiction
  -- the tuple's type and its subtype are the first two
  have first (rest : List (CassDataTypeInner Nat)) (items : List (Option (CassCqlValue Nat))) (d : Nat)
      (used : State.inUse ⟨⟨.tuple [1] :: .value .int :: rest⟩, [.tuple ⟨some 0, items⟩]⟩ d) :
      d = 0 ∨ d = 1 := by
    obtain ⟨object, member, root, carries, reach⟩ := used
    cases List.mem_singleton.mp member
    cases Option.some.inj carries
    have closed : Heap.Closed ⟨.tuple [1] :: .value .int :: rest⟩ (fun d => d = 0 ∨ d = 1) := by
      rintro d (rfl | rfl) e child
      · exact .inr (List.mem_singleton.mp child)
      · contradiction
    exact closed.reach (.inl rfl) reach
  refine ⟨unused rfl, fun s is => ?_⟩
  cases Option.some.inj is
  refine ⟨unused rfl, fun s is => ?_⟩
  cases Option.some.inj is
  refine ⟨unused rfl, fun s is => ?_⟩
  cases Option.some.inj is
  refine ⟨fun t is d used => by cases Option.some.inj is; rfl, fun s is => ?_⟩
  cases Option.some.inj is
  refine ⟨fun t is d used => by cases Option.some.inj is; rfl, fun s is => ?_⟩
  cases Option.some.inj is
  refine ⟨fun t is d used => ?_, fun s is => ?_⟩
  · cases Option.some.inj is
    rcases first _ _ d used with rfl | rfl <;> rfl
  cases Option.some.inj is
  refine ⟨fun t is d used => ?_, fun s is => trivial⟩
  cases Option.some.inj is
  rcases first _ _ d used with rfl | rfl <;> rfl

/-- A subtype added to a data type that a container refers to: the tuple has a slot less
than its type has subtypes, and the list holds a text where its type says integer. -/
theorem contents_outdated_by_new_subtype :
    (∃ s, run (step 2) {} [.dataTypeNew .tuple, .addSubValueType 0 .int, .tupleNewFromDataType 0,
        .addSubValueType 0 .int] = some s ∧
      s.objects = [.tuple ⟨some 0, [none]⟩] ∧ s.heap.inner 0 = .tuple [1, 2]) ∧
    (∃ s, run (step 2) {} [.dataTypeNew .list, .collectionNewFromDataType 0,
        .set 0 .collectionAppend (.scalar (.text "seven")), .addSubValueType 0 .int] = some s ∧
      s.objects = [.collection ⟨.list, some 0, [.scalar (.text "seven")]⟩] ∧
      s.heap.inner 0 = .list (some 1) false ∧
      CassCqlValue.isTypeCompatible (s.heap.ops 2) (.scalar (.text "seven")) 1 = some false) :=
  ⟨⟨_, rfl, rfl, rfl⟩, ⟨_, rfl, rfl, rfl, rfl⟩⟩

end CppRsDriver.Types
