import CppRsDriver.Types.Objects
import CppRsDriver.Types.Termination

/-! Every call on containers comes back, whatever has been done to their data types
before: no index leaves a subtype list and no case that should not exist is met. The
recursive checks need data types without cycles and without custom types. -/
namespace CppRsDriver.Types

open CppRsDriver.Lib

/-- The data types have no cycle and none is custom. -/
structure Heap.Regular (h : Heap) : Prop where
  acyclic : ∀ d, h.valid d → h.ReachesNoCycle d
  known : ∀ d, h.valid d → ∀ className, h.inner d ≠ .custom className

/-- The setter is one of those for the kind of the container. -/
def Setter.Fits {D : Type} : Setter → ApiObject D → Prop
  | .tupleSet _, .tuple _ => True
  | .collectionAppend, .collection _ => True
  | .userTypeSet _, .userType _ => True
  | .userTypeSetByName _, .userType _ => True
  | .vectorSet _, .vector _ => True
  | _, _ => False

/-- The value is a null, a scalar or a container that exists. -/
def Argument.Exists (s : State) : Argument → Prop
  | .null | .scalar _ => True
  | .object o => o < s.objects.length

/-- The calls a client can make: with data types and containers that exist, with any
index and name. No call appends a null. -/
def Offered (s : State) : Call → Prop
  | .dataTypeNew _ | .dataTypeNewTuple | .dataTypeNewUdt | .tupleNew _ | .collectionNew _ => True
  | .dataTypeNewFromExisting d | .dataTypeNewVector d _ | .addSubValueType d _
  | .addSubValueTypeByName d _ _ | .setTypeName d _ | .setKeyspace d _ | .setClassName d _
  | .tupleNewFromDataType d | .collectionNewFromDataType d | .userTypeNewFromDataType d
  | .vectorNewFromDataType d => s.heap.valid d
  | .addSubType d sub | .addSubTypeByName d _ sub => s.heap.valid d ∧ s.heap.valid sub
  | .set o setter argument => (∃ object, s.objects[o]? = some object ∧ setter.Fits object) ∧
    argument.Exists s ∧ (setter = .collectionAppend → argument ≠ .null)

section Checks
variable {h : Heap} {value : Option (CassCqlValue Nat)}

theorem Heap.Regular.typecheckEquals (regular : h.Regular) (closed : h.Closed h.valid) {a b : Nat}
    (validA : h.valid a) (validB : h.valid b) :
    ∃ equal, Returns (fun depth => h.typecheckEquals depth a b) equal := by
  apply Heap.typecheckEquals_returns closed validA validB
  · exact fun e reach => regular.known e (closed.reach validA reach)
  · exact .inl (regular.acyclic a validA)

theorem isTypeCompatible_returns (regular : h.Regular) (closed : h.Closed h.valid)
    (refers : ∀ v, value = some v → ∀ d, v.RefersTo d → h.valid d) {typ : Nat} (valid : h.valid typ) :
    ∃ ok, Returns (fun depth => isTypeCompatible (h.ops depth) value typ) ok := by
  cases value with
  | none => exact ⟨true, returns_of_forall (fun _ => rfl)⟩
  | some v =>
    cases carries : v.dataType with
    | some d =>
      have exists' := refers v rfl d (.dataType v d carries)
      obtain ⟨equal, returns⟩ := regular.typecheckEquals closed exists' valid
      refine ⟨equal, ?_⟩
      simp only [isTypeCompatible, isTypeCompatible_of_dataType _ carries]
      exact returns
    | none =>
      -- without a data type of its own only the kinds are compared
      have kinds : ∃ ok, ∀ depth, v.isTypeCompatible (h.ops depth) typ = some ok := by
        cases v with
        | scalar s => exact ⟨s.isTypeCompatible (h.inner typ).getValueType, fun _ => rfl⟩
        | tuple =>
          cases carries
          exact ⟨(h.inner typ).getValueType == .tuple, fun _ => rfl⟩
        | list =>
          cases carries
          exact ⟨(h.inner typ).getValueType == .list, fun _ => rfl⟩
        | map =>
          cases carries
          exact ⟨(h.inner typ).getValueType == .map, fun _ => rfl⟩
        | set =>
          cases carries
          exact ⟨(h.inner typ).getValueType == .set, fun _ => rfl⟩
        | vector | userDefinedType => cases carries
      obtain ⟨ok, always⟩ := kinds
      exact ⟨ok, returns_of_forall always⟩

theorem checked_returns {C : Type} {check : Nat → Option Bool} {ok : Bool}
    (returns : Returns check ok) (container updated : C) :
    ∃ result, Returns (fun depth => checked (check depth) container updated) result := by
  unfold checked
  exact ⟨_, returns.map _⟩

theorem subtypeAt_children {inner : CassDataTypeInner Nat} {index sub : Nat}
    (found : CassCollection.subtypeAt inner index = .ok (some sub)) : sub ∈ inner.children := by
  unfold CassCollection.subtypeAt at found
  split at found
  all_goals simp only [Except.ok.injEq, reduceCtorEq] at found
  · subst found
    exact List.mem_singleton_self sub
  · subst found
    exact List.mem_singleton_self sub
  · split at found
    · cases found
      exact List.mem_singleton_self sub
    · cases found
  · split at found
    · cases found
      exact List.mem_cons_self
    · cases found
      exact List.mem_cons_of_mem _ List.mem_cons_self

theorem fields_valid (closed : h.Closed h.valid) {d : Nat} {udt : UdtDataType Nat} (valid : h.valid d)
    (inner : h.inner d = .udt udt) : ∀ field ∈ udt.fieldTypes, h.valid field.2 := by
  intro field member
  apply closed d valid
  rw [inner]
  exact List.mem_map_of_mem member

variable (regular : h.Regular) (closed : h.Closed h.valid)
  (refers : ∀ v, value = some v → ∀ d, v.RefersTo d → h.valid d)
include regular closed refers

theorem CassTuple.bindValue_returns {tuple : CassTuple Nat} (shaped : h.Shaped (.tuple tuple))
    (exists' : ∀ d, tuple.dataType = some d → h.valid d) (index : Nat) :
    ∃ result, Returns (fun depth => tuple.bindValue (h.ops depth) index value) result := by
  obtain ⟨dataType, items⟩ := tuple
  by_cases outside : index ≥ items.length
  · exact ⟨(.libIndexOutOfBounds, _), returns_of_forall (fun depth => if_pos outside)⟩
  cases dataType with
  | none => exact ⟨(.ok, _), returns_of_forall (fun depth => if_neg outside)⟩
  | some d =>
    obtain ⟨types, inner, enough⟩ := shaped d rfl
    simp only at enough
    have slot : types[index]? = some types[index] := List.getElem?_eq_getElem (by omega)
    have child : types[index] ∈ (h.inner d).children := by
      rw [inner]
      exact List.mem_of_getElem? slot
    have valid := closed d (exists' d rfl) _ child
    obtain ⟨ok, compatible⟩ := isTypeCompatible_returns regular closed refers valid
    obtain ⟨result, returns⟩ := checked_returns compatible (⟨some d, items⟩ : CassTuple Nat)
      ⟨some d, items.set index value⟩
    have content : ∀ depth, (h.ops depth).getUnchecked d = .tuple types := fun _ => inner
    refine ⟨result, ?_⟩
    simp only [bindValue, if_neg outside, content, slot]
    exact returns

theorem CassCollection.typecheckOnAppend_returns {collection : CassCollection Nat}
    (exists' : ∀ d, collection.dataType = some d → h.valid d) :
    ∃ code, Returns (fun depth => collection.typecheckOnAppend (h.ops depth) value) code := by
  obtain ⟨kind, dataType, items⟩ := collection
  cases dataType with
  | none => exact ⟨.ok, returns_of_forall (fun _ => rfl)⟩
  | some d =>
    have content : ∀ depth, (h.ops depth).getUnchecked d = h.inner d := fun _ => rfl
    simp only [typecheckOnAppend, content]
    cases found : subtypeAt (h.inner d) items.length with
    | error e => exact ⟨e, returns_of_forall (fun _ => rfl)⟩
    | ok subtype =>
      cases subtype with
      | none => exact ⟨.ok, returns_of_forall (fun _ => rfl)⟩
      | some sub =>
        have valid := closed d (exists' d rfl) sub (subtypeAt_children found)
        obtain ⟨ok, compatible⟩ := isTypeCompatible_returns regular closed refers valid
        exact ⟨_, compatible.map _⟩

theorem CassCollection.appendCqlValue_returns {collection : CassCollection Nat}
    (exists' : ∀ d, collection.dataType = some d → h.valid d) (given' : value ≠ none) :
    ∃ result, Returns (fun depth => collection.appendCqlValue (h.ops depth) value) result := by
  obtain ⟨v, rfl⟩ := Option.ne_none_iff_exists'.mp given'
  obtain ⟨code, returns⟩ := typecheckOnAppend_returns regular closed refers exists'
  by_cases accepted : code = .ok
  · refine ⟨(.ok, { collection with items := collection.items ++ [v] }), returns.bind ?_⟩
    exact returns_of_forall (fun _ => if_pos accepted)
  · refine ⟨(code, collection), returns.bind ?_⟩
    exact returns_of_forall (fun _ => if_neg accepted)

theorem CassUserType.setFieldByIndex_returns {userType : CassUserType Nat}
    (shaped : h.Shaped (.userType userType)) (exists' : h.valid userType.dataType) (index : Nat) :
    ∃ result, Returns (fun depth => userType.setFieldByIndex (h.ops depth) index value) result := by
  obtain ⟨udt, inner, enough⟩ := shaped
  by_cases outside : index ≥ userType.fieldValues.length
  · exact ⟨(.libIndexOutOfBounds, userType), returns_of_forall (fun depth => if_pos outside)⟩
  have slot : udt.fieldTypes[index]? = some udt.fieldTypes[index] :=
    List.getElem?_eq_getElem (by omega)
  have valid := fields_valid closed exists' inner _ (List.mem_of_getElem? slot)
  obtain ⟨ok, compatible⟩ := isTypeCompatible_returns regular closed refers valid
  obtain ⟨result, returns⟩ := checked_returns compatible userType
    { userType with fieldValues := userType.fieldValues.set index value }
  have content : ∀ depth, (h.ops depth).getUnchecked userType.dataType = .udt udt := fun _ => inner
  refine ⟨result, ?_⟩
  simp only [setFieldByIndex, if_neg outside, fieldTypes, content, Option.bind_eq_bind, Option.bind_some, slot]
  exact returns

theorem CassUserType.setFieldsFrom_returns (name : String) (rest : List (String × Nat))
    (valid : ∀ field ∈ rest, h.valid field.2) (index : Nat) (found : Bool)
    (userType : CassUserType Nat) :
    ∃ result, Returns (fun depth =>
      setFieldsFrom (h.ops depth) name value index rest found userType) result := by
  induction rest generalizing index found userType with
  | nil => exact ⟨_, returns_of_forall (fun _ => rfl)⟩
  | cons field rest ih =>
    rw [List.forall_mem_cons] at valid
    simp only [setFieldsFrom]
    by_cases named : field.1 = name
    · simp only [if_pos named]
      by_cases outside : index ≥ userType.fieldValues.length
      · exact ⟨_, returns_of_forall (fun _ => if_pos outside)⟩
      · simp only [if_neg outside]
        obtain ⟨ok, compatible⟩ := isTypeCompatible_returns regular closed refers valid.1
        cases ok with
        | false => exact ⟨(.libInvalidValueType, userType), compatible.bind (returns_of_forall (fun _ => rfl))⟩
        | true =>
          obtain ⟨result, returns⟩ := ih valid.2 (index + 1) true
            { userType with fieldValues := userType.fieldValues.set index value }
          exact ⟨result, compatible.bind returns⟩
    · simp only [if_neg named]
      exact ih valid.2 (index + 1) found userType

theorem applySetter_returns {setter : Setter} {object : ApiObject Nat} (fits : setter.Fits object)
    (shaped : h.Shaped object) (exists' : ∀ d, object.RefersTo d → h.valid d)
    (given' : setter = .collectionAppend → value ≠ none) :
    ∃ result, Returns (fun depth => applySetter (h.ops depth) setter object value) result := by
  unfold Setter.Fits at fits
  split at fits
  · rename_i index t
    obtain ⟨result, returns⟩ := CassTuple.bindValue_returns regular closed refers shaped
      (fun d is => exists' d (.dataType _ d is)) index
    exact ⟨_, returns.map _⟩
  · rename_i c
    obtain ⟨result, returns⟩ := CassCollection.appendCqlValue_returns regular closed refers
      (fun d is => exists' d (.dataType (.collection c) d is)) (given' rfl)
    exact ⟨_, returns.map _⟩
  · rename_i index u
    obtain ⟨result, returns⟩ := CassUserType.setFieldByIndex_returns regular closed refers shaped
      (exists' u.dataType (.dataType _ _ rfl)) index
    exact ⟨_, returns.map _⟩
  · rename_i name u
    by_cases empty : name = ""
    · exact ⟨(.libBadParams, .userType u), returns_of_forall (fun _ => if_pos empty)⟩
    obtain ⟨udt, inner, -⟩ := shaped
    have valid := fields_valid closed (exists' u.dataType (.dataType _ _ rfl)) inner
    obtain ⟨result, returns⟩ := CassUserType.setFieldsFrom_returns regular closed refers name
      udt.fieldTypes valid 0 false u
    have content : ∀ depth, (h.ops depth).getUnchecked u.dataType = .udt udt := fun _ => inner
    simp only [applySetter, if_neg empty, CassUserType.setFieldByName, CassUserType.fieldTypes, content]
    exact ⟨_, returns.map _⟩
  · rename_i index v
    cases value with
    | none => exact ⟨(.libBadParams, .vector v), returns_of_forall (fun _ => rfl)⟩
    | some w =>
      have valid := exists' v.elementType (.elementType (.vector v) _ rfl)
      obtain ⟨ok, compatible⟩ := isTypeCompatible_returns regular closed refers valid
      simp only [applySetter, CassVector.bindValue]
      by_cases outside : index ≥ v.items.length
      · simp only [if_pos outside]
        exact ⟨_, returns_of_forall (fun _ => rfl)⟩
      · simp only [if_neg outside]
        obtain ⟨result, returns⟩ := checked_returns compatible v
          { v with items := v.items.set index (some w) }
        exact ⟨_, returns.map _⟩
  · exact fits.elim

end Checks

section Calls
variable {s : State}

theorem argumentOf_returns (sound : s.Sound) {argument : Argument} (exists' : argument.Exists s) :
    ∃ value, (∀ depth, argumentOf (s.heap.ops depth) s.objects argument = some value) ∧
      (value = .ok none → argument = .null) := by
  cases argument with
  | null => exact ⟨.ok none, fun _ => rfl, fun _ => rfl⟩
  | scalar sc => exact ⟨.ok (some (.scalar sc)), fun _ => rfl, fun null => by cases null⟩
  | object o =>
    have at' : s.objects[o]? = some s.objects[o] := List.getElem?_eq_getElem exists'
    have shaped := sound.shaped _ (List.mem_of_getElem? at')
    generalize s.objects[o] = object at at' shaped
    simp only [argumentOf, at']
    cases object with
    | tuple t => exact ⟨.ok (some t.toCqlValue), fun _ => rfl, fun null => by cases null⟩
    | vector v => exact ⟨.ok (some v.toCqlValue), fun _ => rfl, fun null => by cases null⟩
    | value => exact shaped.elim
    | collection c =>
      refine ⟨c.toCqlValue.map some, fun _ => rfl, fun null => ?_⟩
      obtain ⟨v, -, null⟩ := map_eq_ok.mp null
      cases null
    | userType u =>
      obtain ⟨udt, inner, -⟩ := shaped
      have content : ∀ depth, (s.heap.ops depth).getUnchecked u.dataType = .udt udt := fun _ => inner
      simp only [CassUserType.toCqlValue, CassUserType.fieldTypes, content]
      exact ⟨_, fun _ => rfl, fun null => by cases null⟩

theorem set_returns (sound : s.Sound) (regular : s.heap.Regular) {o : Nat} {setter : Setter}
    {argument : Argument} (offered : Offered s (.set o setter argument)) :
    ∃ t, Returns (fun depth => step depth s (.set o setter argument)) t := by
  obtain ⟨⟨object, at', fits⟩, exists', append⟩ := offered
  have member := List.mem_of_getElem? at'
  obtain ⟨value, converted, null⟩ := argumentOf_returns sound exists'
  simp only [step, at', converted, Option.bind_eq_bind, Option.bind_some]
  cases value with
  | error e => exact ⟨s, returns_of_forall (fun _ => rfl)⟩
  | ok value =>
    have refers : ∀ v, value = some v → ∀ d, v.RefersTo d → s.heap.valid d := by
      rintro v rfl
      exact sound.argument (argumentOf_converts (converted 0))
    have given' : setter = .collectionAppend → value ≠ none := by
      rintro is rfl
      exact append is (null rfl)
    obtain ⟨result, returns⟩ := applySetter_returns regular sound.closed refers fits
      (sound.shaped object member) (sound.refers object member) given'
    exact ⟨_, returns.bind (returns_of_forall (fun _ => rfl))⟩

theorem given_returns {refs : List Nat} {next : Nat → Option State} {t : State}
    (valid : ∀ d ∈ refs, s.heap.valid d) (returns : Returns next t) :
    Returns (fun depth => given s refs (next depth)) t := by
  have all : refs.all (· < s.heap.cells.length) = true := by
    rw [List.all_eq_true]
    exact fun d member => decide_eq_true (valid d member)
  simp only [given, all, if_true]
  exact returns

theorem given_always {d : Nat} {next : Nat → State} (valid : s.heap.valid d)
    (same : ∀ depth, next depth = next 0) :
    ∃ t, Returns (fun depth => given s [d] (some (next depth))) t :=
  ⟨next 0, given_returns (List.forall_mem_singleton.mpr valid)
    (returns_of_forall (fun depth => congrArg some (same depth)))⟩

theorem offered_returns (sound : s.Sound) (regular : s.heap.Regular) (call : Call)
    (offered : Offered s call) : ∃ t, Returns (fun depth => step depth s call) t := by
  cases call with
  | set o setter argument => exact set_returns sound regular offered
  | dataTypeNew | dataTypeNewTuple | dataTypeNewUdt | tupleNew | collectionNew =>
    exact ⟨_, returns_of_forall (fun _ => rfl)⟩
  | dataTypeNewFromExisting d | addSubValueType d | addSubValueTypeByName d | setTypeName d
  | setKeyspace d | setClassName d =>
    exact given_always offered (fun _ => rfl)
  | tupleNewFromDataType d | collectionNewFromDataType d | userTypeNewFromDataType d
  | vectorNewFromDataType d =>
    -- these read the data type but check nothing
    exact given_always offered (fun _ => rfl)
  | dataTypeNewVector d dimensions =>
    have valid : ∀ e ∈ [d], s.heap.valid e := List.forall_mem_singleton.mpr offered
    obtain ⟨full, returns⟩ := Heap.isFullyTyped_returns sound.closed offered (regular.acyclic d offered)
    exact ⟨_, given_returns valid (returns.map _)⟩
  | addSubType d sub | addSubTypeByName d name sub =>
    have valid : ∀ e ∈ [d, sub], s.heap.valid e :=
      List.forall_mem_cons.mpr ⟨offered.1, List.forall_mem_singleton.mpr offered.2⟩
    exact ⟨_, given_returns valid (returns_of_forall (fun _ => rfl))⟩

end Calls

/-- In every state that calls can make, with data types that have no cycle and no custom
type, every container can be converted and every call a client can make returns: whatever
has been added to the data types or renamed since the containers were created, and at any
index and name. -/
theorem calls_return (fuel : Nat) (calls : List Call) (s : State)
    (ran : run (step fuel) {} calls = some s) (regular : s.heap.Regular) :
    (∀ argument : Argument, argument.Exists s →
      ∃ value, ∀ depth, argumentOf (s.heap.ops depth) s.objects argument = some value) ∧
    ∀ call, Offered s call → ∃ t, Returns (fun depth => step depth s call) t := by
  have sound := run_sound ran
  constructor
  · intro argument exists'
    obtain ⟨value, converted, -⟩ := argumentOf_returns sound exists'
    exact ⟨value, converted⟩
  · exact fun call offered => offered_returns sound regular call offered

/- A tuple with one slot, whose data type has got a second subtype since. -/
theorem calls_return_tuple :
    ∃ s, run (step 1) {} [.dataTypeNewTuple, .addSubValueType 0 .int, .tupleNewFromDataType 0,
        .addSubValueType 0 .text] = some s ∧
      ∃ t, Returns (fun depth => step depth s (.set 0 (.tupleSet 0) (.scalar (.int 7)))) t := by
  refine ⟨⟨⟨[.tuple [1, 2], .value .int, .value .text]⟩, [.tuple ⟨some 0, [none]⟩]⟩, rfl, ?_⟩
  have regular : Heap.Regular ⟨[.tuple [1, 2], .value .int, .value .text]⟩ := by
    refine ⟨fun d _ => Heap.reachesNoCycle_of_forward (by decide) d, fun d valid => ?_⟩
    exact Heap.reachesNoCustom_of_kinds (by decide) (by decide) valid d .refl
  have returns := calls_return 1 [.dataTypeNewTuple, .addSubValueType 0 .int, .tupleNewFromDataType 0,
    .addSubValueType 0 .text] _ rfl regular
  exact returns.2 _ ⟨⟨_, rfl, trivial⟩, trivial, fun append => by cases append⟩

end CppRsDriver.Types
