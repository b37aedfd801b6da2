import CppRsDriver.Types.Contents

/-! What the setters leave of a container. Its data type and its number of slots stay as
they are, and it holds nothing but what it held and the value it was given. -/
namespace CppRsDriver.Types

open CppRsDriver.Lib

section Writes
variable {D : Type} {types : TypeOps D} {value : Option (CassCqlValue D)} {code : CassError}

/-- What a setter can make of a container, with the code it returns: nothing if it fails,
but for the fields of a user type set by name. -/
inductive Writes (value : Option (CassCqlValue D)) : ApiObject D → CassError → ApiObject D → Prop where
  | rejected (object code) (failed : code ≠ .ok) : Writes value object code object
  | tuple (t : CassTuple D) (index) :
      Writes value (.tuple t) .ok (.tuple { t with items := t.items.set index value })
  | collection (c : CassCollection D) (v) (is : value = some v) :
      Writes value (.collection c) .ok (.collection { c with items := c.items ++ [v] })
  | userType (u : CassUserType D) (index) :
      Writes value (.userType u) .ok (.userType { u with fieldValues := u.fieldValues.set index value })
  | byName (u : CassUserType D) (code) (indices : List Nat) : Writes value (.userType u) code (.userType
      { u with fieldValues := indices.foldl (fun values i => values.set i value) u.fieldValues })
  | vector (v : CassVector D) (index w) (is : value = some w) :
      Writes value (.vector v) .ok (.vector { v with items := v.items.set index value })

theorem checked_outcome {C : Type} {check : Option Bool} {container updated after : C}
    (called : checked check container updated = some (code, after)) :
    code = .libInvalidValueType ∧ after = container ∨ code = .ok ∧ after = updated := by
  obtain ⟨ok, -, is⟩ := Option.map_eq_some_iff.mp called
  cases ok with
  | false =>
    cases is
    exact .inl ⟨rfl, rfl⟩
  | true =>
    cases is
    exact .inr ⟨rfl, rfl⟩

theorem CassTuple.bindValue_writes {tuple after : CassTuple D} {index : Nat}
    (called : tuple.bindValue types index value = some (code, after)) :
    Writes value (.tuple tuple) code (.tuple after) := by
  unfold CassTuple.bindValue at called
  split at called
  · cases called
    exact .rejected _ _ (by decide)
  · split at called
    · cases called
      exact .tuple tuple index
    · split at called
      · obtain ⟨typ, -, called⟩ := Option.bind_eq_some_iff.mp called
        rcases checked_outcome called with ⟨rfl, rfl⟩ | ⟨rfl, rfl⟩
        · exact .rejected _ _ (by decide)
        · exact .tuple tuple index
      · cases called

theorem CassCollection.appendCqlValue_writes {collection after : CassCollection D}
    (called : collection.appendCqlValue types value = some (code, after)) :
    Writes value (.collection collection) code (.collection after) := by
  obtain ⟨err, -, called⟩ := Option.bind_eq_some_iff.mp called
  split at called
  · obtain ⟨v, is, called⟩ := Option.bind_eq_some_iff.mp called
    cases called
    exact .collection collection v is
  · rename_i failed
    cases called
    exact .rejected _ _ failed

theorem CassUserType.setFieldByIndex_outcome {userType after : CassUserType D} {index : Nat}
    (called : userType.setFieldByIndex types index value = some (code, after)) :
    code ≠ .ok ∧ after = userType ∨
      code = .ok ∧ after = { userType with fieldValues := userType.fieldValues.set index value } := by
  unfold CassUserType.setFieldByIndex at called
  split at called
  · cases called
    exact .inl ⟨by decide, rfl⟩
  · obtain ⟨fields, -, called⟩ := Option.bind_eq_some_iff.mp called
    obtain ⟨field, -, called⟩ := Option.bind_eq_some_iff.mp called
    rcases checked_outcome called with ⟨rfl, rfl⟩ | set
    · exact .inl ⟨by decide, rfl⟩
    · exact .inr set

theorem CassUserType.setFieldsFrom_writes {name : String} {after : CassUserType D}
    (rest : List (String × D)) (index : Nat) (found : Bool) (userType : CassUserType D)
    (called : setFieldsFrom types name value index rest found userType = some (code, after)) :
    ∃ indices : List Nat, after = { userType with
      fieldValues := indices.foldl (fun values i => values.set i value) userType.fieldValues } := by
  induction rest generalizing index found userType with
  | nil =>
    cases called
    exact ⟨[], rfl⟩
  | cons field rest ih =>
    unfold setFieldsFrom at called
    split at called
    · split at called
      · cases called
        exact ⟨[], rfl⟩
      · obtain ⟨ok, -, called⟩ := Option.bind_eq_some_iff.mp called
        cases ok with
        | false =>
          cases called
          exact ⟨[], rfl⟩
        | true =>
          obtain ⟨indices, is⟩ := ih (index + 1) true _ called
          exact ⟨index :: indices, is⟩
    · exact ih (index + 1) found userType called

theorem CassVector.bindValue_writes {vector after : CassVector D} {index : Nat} {w : CassCqlValue D}
    (called : vector.bindValue types index w = some (code, after)) :
    Writes (some w) (.vector vector) code (.vector after) := by
  unfold CassVector.bindValue at called
  split at called
  · cases called
    exact .rejected _ _ (by decide)
  · rcases checked_outcome called with ⟨rfl, rfl⟩ | ⟨rfl, rfl⟩
    · exact .rejected _ _ (by decide)
    · exact .vector vector index w rfl

theorem applySetter_writes {setter : Setter} {object after : ApiObject D}
    (called : applySetter types setter object value = some (code, after)) :
    Writes value object code after := by
  unfold applySetter at called
  split at called
  · obtain ⟨⟨code', t⟩, bound, is⟩ := Option.map_eq_some_iff.mp called
    cases is
    exact CassTuple.bindValue_writes bound
  · obtain ⟨⟨code', c⟩, appended, is⟩ := Option.map_eq_some_iff.mp called
    cases is
    exact CassCollection.appendCqlValue_writes appended
  · obtain ⟨⟨code', u⟩, set, is⟩ := Option.map_eq_some_iff.mp called
    cases is
    rcases CassUserType.setFieldByIndex_outcome set with ⟨failed, rfl⟩ | ⟨rfl, rfl⟩
    · exact .rejected _ _ failed
    · exact .userType _ _
  · split at called
    · cases called
      exact .rejected _ _ (by decide)
    · obtain ⟨⟨code', u⟩, set, is⟩ := Option.map_eq_some_iff.mp called
      cases is
      obtain ⟨fields, -, set⟩ := Option.bind_eq_some_iff.mp set
      obtain ⟨indices, rfl⟩ := CassUserType.setFieldsFrom_writes _ _ _ _ set
      exact .byName _ _ indices
  · split at called
    · obtain ⟨⟨code', v⟩, bound, is⟩ := Option.map_eq_some_iff.mp called
      cases is
      exact CassVector.bindValue_writes bound
    · cases called
      exact .rejected _ _ (by decide)
  · cases called

end Writes

section References
variable {D : Type} {value : Option (CassCqlValue D)} {code : CassError}

/-- The values directly in a container. -/
def ApiObject.values : ApiObject D → List (CassCqlValue D)
  | .value v => [v]
  | .tuple t => t.items.filterMap id
  | .collection c => c.items
  | .userType u => u.fieldValues.filterMap id
  | .vector v => v.items.filterMap id

def ApiObject.elementType : ApiObject D → Option D
  | .value v => v.elementType
  | .vector v => some v.elementType
  | _ => none

/-- The container refers to a data type: its own, the element type of a vector, or one
that a value in it refers to. -/
inductive ApiObject.RefersTo : ApiObject D → D → Prop where
  | dataType (object d) (is : object.dataType = some d) : RefersTo object d
  | elementType (object d) (is : object.elementType = some d) : RefersTo object d
  | value (object w d) (member : w ∈ object.values) (inside : w.RefersTo d) : RefersTo object d

theorem mem_set_filterMap {slots : List (Option (CassCqlValue D))} {index : Nat} {w : CassCqlValue D}
    (member : w ∈ (slots.set index value).filterMap id) : w ∈ slots.filterMap id ∨ value = some w := by
  simp only [List.mem_filterMap, id, exists_eq_right] at member ⊢
  exact (List.mem_or_eq_of_mem_set member).imp_right Eq.symm

theorem Writes.values {object after : ApiObject D} (writes : Writes value object code after) :
    ∀ w ∈ after.values, w ∈ object.values ∨ value = some w := by
  intro w member
  cases writes with
  | rejected => exact .inl member
  | tuple t index | userType u index | vector v index w is => exact mem_set_filterMap member
  | collection c v is =>
    rcases List.mem_append.mp member with old | last
    · exact .inl old
    · cases List.mem_singleton.mp last
      exact .inr is
  | byName u code indices =>
    simp only [ApiObject.values, List.mem_filterMap, id, exists_eq_right] at member ⊢
    exact (mem_foldl_set indices u.fieldValues member).imp_right Eq.symm

theorem Writes.refersTo {object after : ApiObject D} {d : D} (writes : Writes value object code after)
    (refers : after.RefersTo d) : object.RefersTo d ∨ ∃ v, value = some v ∧ v.RefersTo d := by
  cases refers with
  | dataType _ is =>
    left
    cases writes with
    | rejected => exact .dataType _ d is
    | _ => exact .dataType _ d is
  | elementType _ is =>
    left
    cases writes with
    | rejected => exact .elementType _ d is
    | _ => exact .elementType _ d is
  | value w _ member inside =>
    rcases writes.values w member with old | new
    · exact .inl (.value _ w d old inside)
    · exact .inr ⟨w, new, inside⟩

theorem pairs_flatMap {items : List (CassCqlValue D)} {grouped : List (CassCqlValue D × CassCqlValue D)}
    (is : CassCollection.pairs items = some grouped) :
    grouped.flatMap (fun pair => [pair.1, pair.2]) = items := by
  induction items using CassCollection.pairs.induct generalizing grouped with
  | case1 =>
    cases is
    rfl
  | case2 => cases is
  | case3 key value rest ih =>
    obtain ⟨tail, more, rfl⟩ := Option.map_eq_some_iff.mp is
    rw [List.flatMap_cons, ih more]
    rfl

/-- The value a container is converted to. -/
structure ConvertsTo (object : ApiObject D) (v : CassCqlValue D) : Prop where
  dataType : v.dataType = object.dataType
  elementType : v.elementType = object.elementType
  parts : ∀ w ∈ v.parts, w ∈ object.values

theorem ConvertsTo.refersTo {object : ApiObject D} {v : CassCqlValue D} {d : D}
    (converts : ConvertsTo object v) (refers : v.RefersTo d) : object.RefersTo d := by
  cases refers with
  | dataType _ _ is => exact .dataType _ d (converts.dataType.symm.trans is)
  | elementType _ _ is => exact .elementType _ d (converts.elementType.symm.trans is)
  | part _ w _ member inside => exact .value _ w d (converts.parts w member) inside

theorem CassCollection.toCqlValue_converts {c : CassCollection D} {v : CassCqlValue D}
    (converted : c.toCqlValue = .ok v) : ConvertsTo (.collection c) v := by
  unfold CassCollection.toCqlValue at converted
  split at converted
  · cases converted
    exact ⟨rfl, rfl, fun w member => member⟩
  · split at converted
    · rename_i grouped is
      cases converted
      refine ⟨rfl, rfl, fun w member => ?_⟩
      rw [CassCqlValue.parts, pairs_flatMap is] at member
      exact member
    · cases converted
  · cases converted
    exact ⟨rfl, rfl, fun w member => member⟩

theorem CassUserType.toCqlValue_converts {types : TypeOps D} {u : CassUserType D} {v : CassCqlValue D}
    (converted : u.toCqlValue types = some v) : ConvertsTo (.userType u) v := by
  obtain ⟨fields, -, is⟩ := Option.bind_eq_some_iff.mp converted
  cases is
  refine ⟨rfl, rfl, fun w member => ?_⟩
  simp only [CassCqlValue.parts, ApiObject.values, List.mem_filterMap, List.mem_map, id,
    exists_eq_right] at member ⊢
  obtain ⟨_, ⟨⟨slot, field⟩, inside, rfl⟩, is⟩ := member
  cases is
  exact (List.of_mem_zip inside).1

theorem argumentOf_converts {types : TypeOps D} {objects : List (ApiObject D)} {argument : Argument}
    {v : CassCqlValue D} (is : argumentOf types objects argument = some (.ok (some v))) :
    (∃ s, v = .scalar s) ∨ ∃ object ∈ objects, ConvertsTo object v := by
  unfold argumentOf at is
  split at is
  · cases is
  · cases is
    exact .inl ⟨_, rfl⟩
  · right
    split at is
    · rename_i t at'
      cases is
      exact ⟨_, List.mem_of_getElem? at', ⟨rfl, rfl, fun w member => member⟩⟩
    · rename_i c at'
      obtain ⟨w, converted, same⟩ := map_eq_ok.mp (Option.some.inj is)
      cases same
      exact ⟨_, List.mem_of_getElem? at', CassCollection.toCqlValue_converts converted⟩
    · rename_i u at'
      obtain ⟨w, converted, same⟩ := Option.map_eq_some_iff.mp is
      cases same
      exact ⟨_, List.mem_of_getElem? at', CassUserType.toCqlValue_converts converted⟩
    · rename_i w at'
      cases is
      exact ⟨_, List.mem_of_getElem? at', ⟨rfl, rfl, fun w member => member⟩⟩
    · cases is

end References

/-- A tuple or user type has a data type of its kind with a subtype for each of its slots;
a bare value is no container. -/
def Heap.Shaped (h : Heap) : ApiObject Nat → Prop
  | .tuple t => ∀ d, t.dataType = some d →
    ∃ types, h.inner d = .tuple types ∧ t.items.length ≤ types.length
  | .userType u => ∃ udt, h.inner u.dataType = .udt udt ∧ u.fieldValues.length ≤ udt.fieldTypes.length
  | .collection _ | .vector _ => True
  | .value _ => False

/-- What one call does: to the data types, by creating an empty container, or by a setter. -/
inductive Effect (s : State) : State → Prop where
  | types (t : State) (changes : Heap.Changes s.heap t.heap) (same : t.objects = s.objects) : Effect s t
  | create (object : ApiObject Nat) (refers : ∀ d, object.RefersTo d → s.heap.valid d)
      (shaped : s.heap.Shaped object) : Effect s { s with objects := s.objects ++ [object] }
  | set (o : Nat) (object after : ApiObject Nat) (value code) (at' : s.objects[o]? = some object)
      (source : ∀ v, value = some v → (∃ sc, v = .scalar sc) ∨ ∃ source ∈ s.objects, ConvertsTo source v)
      (writes : Writes value object code after) : Effect s { s with objects := s.objects.set o after }

section Effects
variable {fuel : Nat} {s t : State}

theorem no_values_refersTo {object : ApiObject Nat} {valid : Nat → Prop} (empty : object.values = [])
    (dataType : ∀ d, object.dataType = some d → valid d)
    (elementType : ∀ d, object.elementType = some d → valid d) :
    ∀ d, object.RefersTo d → valid d := by
  intro d refers
  cases refers with
  | dataType _ is => exact dataType d is
  | elementType _ is => exact elementType d is
  | value w _ member inside =>
    rw [empty] at member
    cases member

theorem unset_values (n : Nat) : (List.replicate n (none : Option (CassCqlValue Nat))).filterMap id = [] := by
  simp

section Created
variable {h : Heap} {object : ApiObject Nat}

theorem Created.values (created : Created h object) : object.values = [] := by
  cases created with
  | tuple | tupleFrom | userTypeFrom | vectorFrom => exact unset_values _
  | collection | listFrom | setFrom | mapFrom => rfl

theorem Created.refers (created : Created h object) (closed : h.Closed h.valid) :
    ∀ d, object.RefersTo d → h.valid d := by
  refine no_values_refersTo created.values ?_ ?_
  · intro d is
    cases created
    all_goals cases is
    all_goals assumption
  · intro e is
    cases created with
    | vectorFrom d typ dimensions valid content =>
      cases is
      apply closed d valid
      rw [content]
      exact List.mem_singleton_self typ
    | _ => cases is

theorem Created.shaped (created : Created h object) : h.Shaped object := by
  cases created with
  | tuple => rintro d ⟨⟩
  | tupleFrom d types valid is =>
    rintro e ⟨⟩
    exact ⟨types, is, Nat.le_of_eq List.length_replicate⟩
  | userTypeFrom d udt valid is => exact ⟨udt, is, Nat.le_of_eq List.length_replicate⟩
  | collection | listFrom | setFrom | mapFrom | vectorFrom => trivial

end Created

theorem step_effect {call : Call} (closed : s.heap.Closed s.heap.valid)
    (stepped : step fuel s call = some t) : Effect s t := by
  cases step_call stepped with
  | types h' next => exact .types _ (next.changes closed) rfl
  | created object created => exact .create object (created.refers closed) created.shaped
  | set o setter argument object value code after at' is called =>
    refine .set o object after value code at' ?_ (applySetter_writes called)
    rintro v rfl
    exact argumentOf_converts is

/-- The containers refer to data types that exist, and fit them. -/
structure State.Sound (s : State) : Prop where
  closed : s.heap.Closed s.heap.valid
  refers : ∀ object ∈ s.objects, ∀ d, object.RefersTo d → s.heap.valid d
  shaped : ∀ object ∈ s.objects, s.heap.Shaped object

theorem Heap.Shaped.changes {h h' : Heap} {object : ApiObject Nat} (changes : Heap.Changes h h')
    (refers : ∀ d, object.RefersTo d → h.valid d) (shaped : h.Shaped object) : h'.Shaped object := by
  cases object with
  | value v => exact shaped
  | collection c | vector v => trivial
  | tuple t =>
    intro d is
    obtain ⟨types, inner, enough⟩ := shaped d is
    have evolves := (changes.evolves (refers d (.dataType _ d is))).2
    rw [inner] at evolves
    obtain ⟨more, after⟩ := evolves.tuple
    refine ⟨types ++ more, after, ?_⟩
    rw [List.length_append]
    omega
  | userType u =>
    obtain ⟨udt, inner, enough⟩ := shaped
    have evolves := (changes.evolves (refers u.dataType (.dataType _ _ rfl))).2
    rw [inner] at evolves
    obtain ⟨v, more, after, fields⟩ := evolves.udt
    refine ⟨v, after, ?_⟩
    rw [fields, List.length_append]
    omega

theorem Heap.Shaped.writes {h : Heap} {object after : ApiObject Nat} {value code}
    (writes : Writes value object code after) (shaped : h.Shaped object) : h.Shaped after := by
  cases writes with
  | rejected => exact shaped
  | collection | vector => trivial
  | tuple t index =>
    intro d is
    obtain ⟨types, inner, enough⟩ := shaped d is
    exact ⟨types, inner, by rwa [List.length_set]⟩
  | userType u index =>
    obtain ⟨udt, inner, enough⟩ := shaped
    exact ⟨udt, inner, by rwa [List.length_set]⟩
  | byName u code indices =>
    obtain ⟨udt, inner, enough⟩ := shaped
    exact ⟨udt, inner, by rwa [length_foldl_set]⟩

theorem State.Sound.argument (sound : s.Sound) {v : CassCqlValue Nat}
    (source : (∃ sc, v = .scalar sc) ∨ ∃ source ∈ s.objects, ConvertsTo source v) :
    ∀ d, v.RefersTo d → s.heap.valid d := by
  intro d refers
  rcases source with ⟨sc, rfl⟩ | ⟨object, member, converts⟩
  · cases refers with
    | dataType _ _ is | elementType _ _ is => cases is
    | part _ w _ inside => cases inside
  · exact sound.refers object member d (converts.refersTo refers)

theorem Effect.sound (effect : Effect s t) (sound : s.Sound) : t.Sound := by
  cases effect with
  | types t changes same =>
    refine ⟨changes.closed sound.closed, ?_, ?_⟩
    · rw [same]
      exact fun object member d refers => (changes.evolves (sound.refers object member d refers)).1
    · rw [same]
      exact fun object member =>
        (sound.shaped object member).changes changes (sound.refers object member)
  | create object refers shaped =>
    refine ⟨sound.closed, ?_, ?_⟩
    · rw [List.forall_mem_append, List.forall_mem_singleton]
      exact ⟨sound.refers, refers⟩
    · rw [List.forall_mem_append, List.forall_mem_singleton]
      exact ⟨sound.shaped, shaped⟩
  | set o object after value code at' source writes =>
    have member := List.mem_of_getElem? at'
    refine ⟨sound.closed, ?_, ?_⟩
    · intro other inside d refers
      rcases List.mem_or_eq_of_mem_set inside with old | rfl
      · exact sound.refers other old d refers
      · rcases writes.refersTo refers with before | ⟨v, is, new⟩
        · exact sound.refers object member d before
        · exact sound.argument (source v is) d new
    · intro other inside
      rcases List.mem_or_eq_of_mem_set inside with old | rfl
      · exact sound.shaped other old
      · exact (sound.shaped object member).writes writes

theorem step_sound {call : Call} (sound : s.Sound) (stepped : step fuel s call = some t) : t.Sound :=
  (step_effect sound.closed stepped).sound sound

theorem empty_sound : State.Sound {} where
  closed := Heap.empty_closed
  refers _ member := absurd member List.not_mem_nil
  shaped _ member := absurd member List.not_mem_nil

/-- In every state that calls can make, the containers fit their data types. -/
theorem run_sound {calls : List Call} (ran : run (step fuel) {} calls = some s) : s.Sound :=
  run_invariant (fun _ _ _ sound stepped => step_sound sound stepped) empty_sound ran

end Effects

end CppRsDriver.Types
