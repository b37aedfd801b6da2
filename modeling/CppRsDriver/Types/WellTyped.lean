import CppRsDriver.Types.Containers
import Mathlib.Data.List.Forall2

/-! What a container with a data type holds: every value was accepted for the subtype
at its place. Each call on a container keeps this, whatever the data types are. -/
namespace CppRsDriver.Types

section Fits
variable {D : Type} (types : TypeOps D)

/-- As many slots as subtypes, and every slot accepted for its own. -/
def SlotsFit (slots : List (Option (CassCqlValue D))) (subtypes : List D) : Prop :=
  List.Forall₂ (fun value typ => isTypeCompatible types value typ = some true) slots subtypes

def TupleFits (dataType : Option D) (items : List (Option (CassCqlValue D))) : Prop :=
  ∀ dt, dataType = some dt →
    ∃ subtypes, types.getUnchecked dt = .tuple subtypes ∧ SlotsFit types items subtypes

def collectionKind : CassDataTypeInner D → Option CollectionType
  | .list _ _ => some .list
  | .set _ _ => some .set
  | .map _ _ => some .map
  | _ => none

/- Positions count from zero: a map has its keys at the even ones. -/
def CollectionFits (kind : CollectionType) (dataType : Option D) (items : List (CassCqlValue D)) :
    Prop :=
  ∀ dt, dataType = some dt → collectionKind (types.getUnchecked dt) = some kind ∧
    ∀ i v subtype, items[i]? = some v →
      CassCollection.subtypeAt (types.getUnchecked dt) i = .ok (some subtype) →
      v.isTypeCompatible types subtype = some true

def UserTypeFits (dataType : D) (fieldValues : List (Option (CassCqlValue D))) : Prop :=
  ∃ udt, types.getUnchecked dataType = .udt udt ∧
    SlotsFit types fieldValues (udt.fieldTypes.map Prod.snd)

/- The value also carries the names of its fields. -/
def NamedFits (dataType : D) (fields : List (String × Option (CassCqlValue D))) : Prop :=
  ∃ udt, types.getUnchecked dataType = .udt udt ∧
    fields.map Prod.fst = udt.fieldTypes.map Prod.fst ∧
    SlotsFit types (fields.map Prod.snd) (udt.fieldTypes.map Prod.snd)

def VectorFits (dataType elementType : D) (items : List (Option (CassCqlValue D))) : Prop :=
  ∃ dimensions, types.getUnchecked dataType = .vector elementType dimensions ∧
    items.length = dimensions.toNat ∧
    ∀ v, some v ∈ items → v.isTypeCompatible types elementType = some true

def unpair : List (CassCqlValue D × CassCqlValue D) → List (CassCqlValue D)
  | [] => []
  | (key, value) :: rest => key :: value :: unpair rest

/-- At every level of a value the contents fit the data type, and the data type is one
of the allowed. -/
inductive WellTyped (allowed : Option D → Prop) : CassCqlValue D → Prop where
  | scalar (s) : WellTyped allowed (.scalar s)
  | tuple (dataType fields) (typed : allowed dataType) (fits : TupleFits types dataType fields)
      (sub : ∀ v, some v ∈ fields → WellTyped allowed v) : WellTyped allowed (.tuple dataType fields)
  | list (dataType values) (typed : allowed dataType)
      (fits : CollectionFits types .list dataType values)
      (sub : ∀ v ∈ values, WellTyped allowed v) : WellTyped allowed (.list dataType values)
  | set (dataType values) (typed : allowed dataType)
      (fits : CollectionFits types .set dataType values)
      (sub : ∀ v ∈ values, WellTyped allowed v) : WellTyped allowed (.set dataType values)
  | map (dataType values) (typed : allowed dataType)
      (fits : CollectionFits types .map dataType (unpair values))
      (sub : ∀ v ∈ unpair values, WellTyped allowed v) : WellTyped allowed (.map dataType values)
  | vector (dataType elementType values) (typed : allowed (some dataType))
      (fits : VectorFits types dataType elementType values)
      (sub : ∀ v, some v ∈ values → WellTyped allowed v) :
      WellTyped allowed (.vector dataType elementType values)
  | userDefinedType (dataType fields) (typed : allowed (some dataType))
      (fits : NamedFits types dataType fields)
      (sub : ∀ v, some v ∈ fields.map Prod.snd → WellTyped allowed v) :
      WellTyped allowed (.userDefinedType dataType fields)

/-- What the calls hand out: values and containers under construction. -/
inductive ApiObject (D : Type) where
  | value (v : CassCqlValue D)
  | tuple (t : CassTuple D)
  | collection (c : CassCollection D)
  | userType (u : CassUserType D)
  | vector (v : CassVector D)

def ApiObject.WellTyped (allowed : Option D → Prop) : ApiObject D → Prop
  | .value v => Types.WellTyped types allowed v
  | .tuple t => allowed t.dataType ∧ TupleFits types t.dataType t.items ∧
    ∀ v, some v ∈ t.items → Types.WellTyped types allowed v
  | .collection c => allowed c.dataType ∧ CollectionFits types c.collectionType c.dataType c.items ∧
    ∀ v ∈ c.items, Types.WellTyped types allowed v
  | .userType u => allowed (some u.dataType) ∧ UserTypeFits types u.dataType u.fieldValues ∧
    ∀ v, some v ∈ u.fieldValues → Types.WellTyped types allowed v
  | .vector v => allowed (some v.dataType) ∧ VectorFits types v.dataType v.elementType v.items ∧
    ∀ w, some w ∈ v.items → Types.WellTyped types allowed w

end Fits

section Calls
variable {D : Type} {types : TypeOps D} {allowed : Option D → Prop}

theorem WellTyped.scalar_or_allowed {v : CassCqlValue D} (typed : WellTyped types allowed v) :
    (∃ s, v = .scalar s) ∨ allowed v.dataType := by
  cases typed with
  | scalar s => exact .inl ⟨s, rfl⟩
  | tuple _ _ typed | list _ _ typed | set _ _ typed | map _ _ typed | vector _ _ _ typed
  | userDefinedType _ _ typed => exact .inr typed

theorem WellTyped.mono {allowed' : Option D → Prop} {v : CassCqlValue D}
    (weaker : ∀ dataType, allowed dataType → allowed' dataType) (typed : WellTyped types allowed v) :
    WellTyped types allowed' v := by
  induction typed with
  | scalar s => exact .scalar s
  | tuple _ _ typed fits _ ih => exact .tuple _ _ (weaker _ typed) fits ih
  | list _ _ typed fits _ ih => exact .list _ _ (weaker _ typed) fits ih
  | set _ _ typed fits _ ih => exact .set _ _ (weaker _ typed) fits ih
  | map _ _ typed fits _ ih => exact .map _ _ (weaker _ typed) fits ih
  | vector _ _ _ typed fits _ ih => exact .vector _ _ _ (weaker _ typed) fits ih
  | userDefinedType _ _ typed fits _ ih => exact .userDefinedType _ _ (weaker _ typed) fits ih

theorem ApiObject.WellTyped.mono {allowed' : Option D → Prop} {object : ApiObject D}
    (weaker : ∀ dataType, allowed dataType → allowed' dataType)
    (typed : object.WellTyped types allowed) : object.WellTyped types allowed' := by
  cases object with
  | value v => exact Types.WellTyped.mono weaker typed
  | tuple | collection | userType | vector =>
    obtain ⟨ok, fits, sub⟩ := typed
    exact ⟨weaker _ ok, fits, fun v member => (sub v member).mono weaker⟩

variable (types) in
theorem slotsFit_unset (subtypes : List D) :
    SlotsFit types (List.replicate subtypes.length none) subtypes := by
  induction subtypes with
  | nil => exact .nil
  | cons typ subtypes ih => exact .cons rfl ih

theorem SlotsFit.set {slots : List (Option (CassCqlValue D))} {subtypes : List D} {index : Nat}
    {value : Option (CassCqlValue D)} {typ : D} (fits : SlotsFit types slots subtypes)
    (at' : subtypes[index]? = some typ) (accepted : isTypeCompatible types value typ = some true) :
    SlotsFit types (slots.set index value) subtypes := by
  induction fits generalizing index with
  | nil => exact .nil
  | cons head tail ih =>
    cases index with
    | zero =>
      cases Option.some.inj at'
      exact .cons accepted tail
    | succ index => exact .cons head (ih at')

theorem mem_set_slot {slots : List (Option (CassCqlValue D))} {index : Nat}
    {value : Option (CassCqlValue D)} {P : CassCqlValue D → Prop}
    (before : ∀ v, some v ∈ slots → P v) (new : ∀ v, value = some v → P v) :
    ∀ v, some v ∈ slots.set index value → P v := by
  intro v member
  rcases List.mem_or_eq_of_mem_set member with old | same
  · exact before v old
  · exact new v same.symm

theorem not_mem_unset {n : Nat} {v : CassCqlValue D} :
    some v ∉ List.replicate n (none : Option (CassCqlValue D)) := by
  simp [List.mem_replicate]

theorem checked_cases {C : Type} {check : Option Bool} {container updated after : C}
    {code : CassError} (called : checked check container updated = some (code, after)) :
    after = container ∨ (check = some true ∧ after = updated) := by
  cases check with
  | none => contradiction
  | some ok =>
    cases ok with
    | false =>
      cases Option.some.inj called
      exact .inl rfl
    | true =>
      cases Option.some.inj called
      exact .inr ⟨rfl, rfl⟩

namespace CassTuple

theorem newFromDataType_wellTyped {dataType : D} {tuple : CassTuple D}
    (typed : allowed (some dataType)) (created : newFromDataType types dataType = some tuple) :
    (ApiObject.tuple tuple).WellTyped types allowed := by
  unfold newFromDataType at created
  split at created
  · rename_i subtypes inner
    cases Option.some.inj created
    refine ⟨typed, fun dt is => ?_, fun v member => absurd member not_mem_unset⟩
    cases Option.some.inj is
    exact ⟨subtypes, inner, slotsFit_unset types subtypes⟩
  · contradiction

theorem bindValue_wellTyped {tuple after : CassTuple D} {index : Nat}
    {value : Option (CassCqlValue D)} {code : CassError}
    (before : (ApiObject.tuple tuple).WellTyped types allowed)
    (new : ∀ v, value = some v → WellTyped types allowed v)
    (called : tuple.bindValue types index value = some (code, after)) :
    (ApiObject.tuple after).WellTyped types allowed := by
  obtain ⟨typed, fits, sub⟩ := before
  obtain ⟨dataType, items⟩ := tuple
  unfold bindValue at called
  split at called
  · cases Option.some.inj called
    exact ⟨typed, fits, sub⟩
  · cases dataType with
    | none =>
      cases Option.some.inj called
      exact ⟨typed, fun dt is => by contradiction, mem_set_slot sub new⟩
    | some dt =>
      obtain ⟨subtypes, inner, slots⟩ := fits dt rfl
      simp only [inner] at called
      obtain ⟨typ, at', called⟩ := Option.bind_eq_some_iff.mp called
      rcases checked_cases called with rfl | ⟨accepted, rfl⟩
      · exact ⟨typed, fits, sub⟩
      · refine ⟨typed, fun dt' is => ?_, mem_set_slot sub new⟩
        cases Option.some.inj is
        exact ⟨subtypes, inner, slots.set at' accepted⟩

theorem toCqlValue_wellTyped {tuple : CassTuple D}
    (object : (ApiObject.tuple tuple).WellTyped types allowed) :
    WellTyped types allowed tuple.toCqlValue :=
  .tuple _ _ object.1 object.2.1 object.2.2

end CassTuple

namespace CassCollection

theorem newFromDataType_wellTyped {dataType : D} {collection : CassCollection D}
    (typed : allowed (some dataType)) (created : newFromDataType types dataType = some collection) :
    (ApiObject.collection collection).WellTyped types allowed := by
  unfold newFromDataType at created
  split at created <;> try contradiction
  all_goals
    rename_i inner
    cases Option.some.inj created
    refine ⟨typed, fun dt is => ?_, fun v member => absurd member List.not_mem_nil⟩
    cases Option.some.inj is
    exact ⟨by rw [inner]; rfl, fun i v subtype at' => by simp at at'⟩

theorem typecheckOnAppend_accepted {collection : CassCollection D} {v : CassCqlValue D}
    {dt subtype : D} (accepted : collection.typecheckOnAppend types (some v) = some .ok)
    (dataType : collection.dataType = some dt)
    (declared : subtypeAt (types.getUnchecked dt) collection.items.length = .ok (some subtype)) :
    v.isTypeCompatible types subtype = some true := by
  simp only [typecheckOnAppend, dataType, declared, isTypeCompatible] at accepted
  obtain ⟨ok, compatible, code⟩ := Option.map_eq_some_iff.mp accepted
  cases ok with
  | false => contradiction
  | true => exact compatible

theorem appendCqlValue_cases {collection after : CassCollection D}
    {value : Option (CassCqlValue D)} {code : CassError}
    (called : collection.appendCqlValue types value = some (code, after)) :
    after = collection ∨ ∃ v, value = some v ∧
      collection.typecheckOnAppend types (some v) = some .ok ∧
      after = { collection with items := collection.items ++ [v] } := by
  obtain ⟨err, checks, called⟩ := Option.bind_eq_some_iff.mp called
  split at called
  · rename_i ok
    obtain ⟨v, is, called⟩ := Option.bind_eq_some_iff.mp called
    cases Option.some.inj called
    exact .inr ⟨v, is, by rw [← is, checks, ok], rfl⟩
  · cases Option.some.inj called
    exact .inl rfl

theorem appendCqlValue_wellTyped {collection after : CassCollection D}
    {value : Option (CassCqlValue D)} {code : CassError}
    (before : (ApiObject.collection collection).WellTyped types allowed)
    (new : ∀ v, value = some v → WellTyped types allowed v)
    (called : collection.appendCqlValue types value = some (code, after)) :
    (ApiObject.collection after).WellTyped types allowed := by
  obtain ⟨typed, fits, sub⟩ := before
  rcases appendCqlValue_cases called with rfl | ⟨v, is, accepted, rfl⟩
  · exact ⟨typed, fits, sub⟩
  · refine ⟨typed, fun dt dataType => ⟨(fits dt dataType).1, fun i w subtype at' declared => ?_⟩, ?_⟩
    · rcases Nat.lt_trichotomy i collection.items.length with before | rfl | past
      · rw [List.getElem?_append_left before] at at'
        exact (fits dt dataType).2 i w subtype at' declared
      · rw [List.getElem?_concat_length] at at'
        cases Option.some.inj at'
        exact typecheckOnAppend_accepted accepted dataType declared
      · rw [List.getElem?_eq_none (by rw [List.length_append, List.length_singleton]; omega)] at at'
        contradiction
    · intro w member
      rcases List.mem_append.mp member with old | last
      · exact sub w old
      · exact List.mem_singleton.mp last ▸ new v is

theorem unpair_pairs {items : List (CassCqlValue D)}
    {grouped : List (CassCqlValue D × CassCqlValue D)} (is : pairs items = some grouped) :
    unpair grouped = items := by
  induction items using pairs.induct generalizing grouped with
  | case1 =>
    cases Option.some.inj is
    rfl
  | case2 => contradiction
  | case3 key value rest ih =>
    obtain ⟨tail, more, rfl⟩ := Option.map_eq_some_iff.mp is
    rw [unpair, ih more]

theorem toCqlValue_wellTyped {collection : CassCollection D} {v : CassCqlValue D}
    (object : (ApiObject.collection collection).WellTyped types allowed)
    (converted : collection.toCqlValue = .ok v) : WellTyped types allowed v := by
  obtain ⟨typed, fits, sub⟩ := object
  obtain ⟨kind, dataType, items⟩ := collection
  cases kind with
  | list =>
    cases Except.ok.inj converted
    exact .list _ _ typed fits sub
  | set =>
    cases Except.ok.inj converted
    exact .set _ _ typed fits sub
  | map =>
    simp only [toCqlValue] at converted
    split at converted
    · rename_i grouped is
      cases Except.ok.inj converted
      cases unpair_pairs is
      exact .map _ _ typed fits sub
    · contradiction

end CassCollection

namespace CassUserType

theorem newFromDataType_wellTyped {dataType : D} {userType : CassUserType D}
    (typed : allowed (some dataType)) (created : newFromDataType types dataType = some userType) :
    (ApiObject.userType userType).WellTyped types allowed := by
  unfold newFromDataType at created
  split at created
  · rename_i udt inner
    cases Option.some.inj created
    refine ⟨typed, ⟨udt, inner, ?_⟩, fun v member => absurd member not_mem_unset⟩
    have slots := slotsFit_unset types (udt.fieldTypes.map Prod.snd)
    rwa [List.length_map] at slots
  · contradiction

theorem set_wellTyped {userType : CassUserType D} {udt : UdtDataType D} {index : Nat}
    {field : String × D} {value : Option (CassCqlValue D)}
    (before : (ApiObject.userType userType).WellTyped types allowed)
    (new : ∀ v, value = some v → WellTyped types allowed v)
    (inner : types.getUnchecked userType.dataType = .udt udt)
    (at' : udt.fieldTypes[index]? = some field)
    (accepted : isTypeCompatible types value field.2 = some true) :
    (ApiObject.userType { userType with fieldValues := userType.fieldValues.set index value }).WellTyped
      types allowed := by
  obtain ⟨typed, ⟨udt', inner', slots⟩, sub⟩ := before
  cases CassDataTypeInner.udt.inj (inner.symm.trans inner')
  have declared : (udt.fieldTypes.map Prod.snd)[index]? = some field.2 := by
    rw [List.getElem?_map, at', Option.map_some]
  exact ⟨typed, ⟨udt, inner, slots.set declared accepted⟩, mem_set_slot sub new⟩

theorem fieldTypes_eq {userType : CassUserType D} {fields : List (String × D)}
    (read : userType.fieldTypes types = some fields) :
    ∃ udt, types.getUnchecked userType.dataType = .udt udt ∧ udt.fieldTypes = fields := by
  unfold fieldTypes at read
  split at read
  · rename_i udt inner
    exact ⟨udt, inner, Option.some.inj read⟩
  · contradiction

theorem setFieldByIndex_wellTyped {userType after : CassUserType D} {index : Nat}
    {value : Option (CassCqlValue D)} {code : CassError}
    (before : (ApiObject.userType userType).WellTyped types allowed)
    (new : ∀ v, value = some v → WellTyped types allowed v)
    (called : userType.setFieldByIndex types index value = some (code, after)) :
    (ApiObject.userType after).WellTyped types allowed := by
  unfold setFieldByIndex at called
  split at called
  · cases Option.some.inj called
    exact before
  · obtain ⟨fields, read, rest⟩ := Option.bind_eq_some_iff.mp called
    obtain ⟨udt, inner, rfl⟩ := fieldTypes_eq read
    obtain ⟨field, at', last⟩ := Option.bind_eq_some_iff.mp rest
    rcases checked_cases last with rfl | ⟨accepted, rfl⟩
    · exact before
    · exact set_wellTyped before new inner at' accepted

/- The loop of `set_field_by_name`, from a field on. -/
theorem setFieldsFrom_wellTyped {name : String} {value : Option (CassCqlValue D)}
    {udt : UdtDataType D} {after : CassUserType D} {code : CassError}
    (new : ∀ v, value = some v → WellTyped types allowed v) (rest : List (String × D)) (index : Nat)
    (found : Bool) (userType : CassUserType D)
    (before : (ApiObject.userType userType).WellTyped types allowed)
    (inner : types.getUnchecked userType.dataType = .udt udt)
    (from' : udt.fieldTypes.drop index = rest)
    (called : setFieldsFrom types name value index rest found userType = some (code, after)) :
    (ApiObject.userType after).WellTyped types allowed := by
  induction rest generalizing index found userType with
  | nil =>
    cases Option.some.inj called
    exact before
  | cons field rest ih =>
    obtain ⟨fieldName, fieldType⟩ := field
    have next : udt.fieldTypes.drop (index + 1) = rest := by
      rw [← List.drop_drop, from', List.drop_one, List.tail_cons]
    have at' : udt.fieldTypes[index]? = some (fieldName, fieldType) := by
      have head := congrArg List.head? from'
      rwa [List.head?_drop, List.head?_cons] at head
    unfold setFieldsFrom at called
    split at called
    · split at called
      · cases Option.some.inj called
        exact before
      · obtain ⟨ok, compatible, called⟩ := Option.bind_eq_some_iff.mp called
        cases ok with
        | false =>
          cases Option.some.inj called
          exact before
        | true =>
          exact ih (index + 1) true _ (set_wellTyped before new inner at' compatible) inner next called
    · exact ih (index + 1) found userType before inner next called

theorem setFieldByName_wellTyped {userType after : CassUserType D} {name : String}
    {value : Option (CassCqlValue D)} {code : CassError}
    (before : (ApiObject.userType userType).WellTyped types allowed)
    (new : ∀ v, value = some v → WellTyped types allowed v)
    (called : userType.setFieldByName types name value = some (code, after)) :
    (ApiObject.userType after).WellTyped types allowed := by
  obtain ⟨fields, read, called⟩ := Option.bind_eq_some_iff.mp called
  obtain ⟨udt, inner, rfl⟩ := fieldTypes_eq read
  exact setFieldsFrom_wellTyped new _ 0 false userType before inner rfl called

theorem toCqlValue_wellTyped {userType : CassUserType D} {v : CassCqlValue D}
    (object : (ApiObject.userType userType).WellTyped types allowed)
    (converted : userType.toCqlValue types = some v) : WellTyped types allowed v := by
  obtain ⟨typed, ⟨udt, inner, slots⟩, sub⟩ := object
  obtain ⟨fields, read, converted⟩ := Option.bind_eq_some_iff.mp converted
  obtain ⟨udt', inner', rfl⟩ := fieldTypes_eq read
  cases CassDataTypeInner.udt.inj (inner.symm.trans inner')
  cases Option.some.inj converted
  have length : userType.fieldValues.length = udt.fieldTypes.length := by
    have eq := slots.length_eq
    rwa [List.length_map] at eq
  have values : ((userType.fieldValues.zip udt.fieldTypes).map
      (fun entry => (entry.2.1, entry.1))).map Prod.snd = userType.fieldValues := by
    rw [List.map_map]
    exact List.map_fst_zip (Nat.le_of_eq length)
  have names : ((userType.fieldValues.zip udt.fieldTypes).map
      (fun entry => (entry.2.1, entry.1))).map Prod.fst = udt.fieldTypes.map Prod.fst := by
    calc ((userType.fieldValues.zip udt.fieldTypes).map (fun entry => (entry.2.1, entry.1))).map Prod.fst
      _ = ((userType.fieldValues.zip udt.fieldTypes).map Prod.snd).map Prod.fst := by
        rw [List.map_map, List.map_map]
        rfl
      _ = udt.fieldTypes.map Prod.fst := by rw [List.map_snd_zip (Nat.le_of_eq length.symm)]
  refine .userDefinedType _ _ typed ⟨udt, inner, names, ?_⟩ ?_
  · rwa [values]
  · rwa [values]

end CassUserType

namespace CassVector

theorem newFromDataType_wellTyped {dataType : D} {vector : CassVector D}
    (typed : allowed (some dataType)) (created : newFromDataType types dataType = some vector) :
    (ApiObject.vector vector).WellTyped types allowed := by
  unfold newFromDataType at created
  split at created
  · rename_i typ dimensions inner
    cases Option.some.inj created
    refine ⟨typed, ⟨dimensions, inner, List.length_replicate, ?_⟩, ?_⟩
    · exact fun v member => absurd member not_mem_unset
    · exact fun v member => absurd member not_mem_unset
  · contradiction

theorem bindValue_wellTyped {vector after : CassVector D} {index : Nat} {v : CassCqlValue D}
    {code : CassError} (before : (ApiObject.vector vector).WellTyped types allowed)
    (new : WellTyped types allowed v)
    (called : vector.bindValue types index v = some (code, after)) :
    (ApiObject.vector after).WellTyped types allowed := by
  obtain ⟨typed, ⟨dimensions, inner, length, compatible⟩, sub⟩ := before
  unfold bindValue at called
  split at called
  · cases Option.some.inj called
    exact ⟨typed, ⟨dimensions, inner, length, compatible⟩, sub⟩
  · rcases checked_cases called with rfl | ⟨accepted, rfl⟩
    · exact ⟨typed, ⟨dimensions, inner, length, compatible⟩, sub⟩
    · refine ⟨typed, ⟨dimensions, inner, ?_, ?_⟩, ?_⟩
      · rw [List.length_set, length]
      · exact mem_set_slot compatible (fun w is => Option.some.inj is ▸ accepted)
      · exact mem_set_slot sub (fun w is => Option.some.inj is ▸ new)

theorem toCqlValue_wellTyped {vector : CassVector D}
    (object : (ApiObject.vector vector).WellTyped types allowed) :
    WellTyped types allowed vector.toCqlValue :=
  .vector _ _ _ object.1 object.2.1 object.2.2

end CassVector

end Calls

end CppRsDriver.Types
