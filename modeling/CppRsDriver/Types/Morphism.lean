import CppRsDriver.Types.WellTyped

/-! Two ways to hold the same data types. A map of references that keeps layers and
accepted checks also keeps what is well typed. -/
namespace CppRsDriver.Types

section Values
variable {D E : Type} (f : D → E)

namespace CassCqlValue

def mapTypesWith : ValueLayer D (CassCqlValue E) → CassCqlValue E
  | .scalar s => .scalar s
  | .tuple dataType fields => .tuple (dataType.map f) fields
  | .list dataType values => .list (dataType.map f) values
  | .map dataType values => .map (dataType.map f) values
  | .set dataType values => .set (dataType.map f) values
  | .vector dataType elementType values => .vector (f dataType) (f elementType) values
  | .userDefinedType dataType fields => .userDefinedType (f dataType) fields

/-- The value with its references mapped. -/
def mapTypes : CassCqlValue D → CassCqlValue E := fold (mapTypesWith f)

theorem mapTypes_tuple (dataType : Option D) (fields : List (Option (CassCqlValue D))) :
    (CassCqlValue.tuple dataType fields).mapTypes f =
      .tuple (dataType.map f) (fields.map (Option.map (mapTypes f))) := by
  simp only [mapTypes, fold, foldOptions_eq, mapTypesWith]

theorem mapTypes_list (dataType : Option D) (values : List (CassCqlValue D)) :
    (CassCqlValue.list dataType values).mapTypes f =
      .list (dataType.map f) (values.map (mapTypes f)) := by
  simp only [mapTypes, fold, foldList_eq, mapTypesWith]

theorem mapTypes_set (dataType : Option D) (values : List (CassCqlValue D)) :
    (CassCqlValue.set dataType values).mapTypes f =
      .set (dataType.map f) (values.map (mapTypes f)) := by
  simp only [mapTypes, fold, foldList_eq, mapTypesWith]

theorem mapTypes_map (dataType : Option D) (values : List (CassCqlValue D × CassCqlValue D)) :
    (CassCqlValue.map dataType values).mapTypes f = .map (dataType.map f)
      (values.map (fun pair => (pair.1.mapTypes f, pair.2.mapTypes f))) := by
  simp only [mapTypes, fold, foldPairs_eq, mapTypesWith]

theorem mapTypes_vector (dataType elementType : D) (values : List (Option (CassCqlValue D))) :
    (CassCqlValue.vector dataType elementType values).mapTypes f =
      .vector (f dataType) (f elementType) (values.map (Option.map (mapTypes f))) := by
  simp only [mapTypes, fold, foldOptions_eq, mapTypesWith]

theorem mapTypes_userDefinedType (dataType : D) (fields : List (String × Option (CassCqlValue D))) :
    (CassCqlValue.userDefinedType dataType fields).mapTypes f = .userDefinedType (f dataType)
      (fields.map (fun field => (field.1, field.2.map (mapTypes f)))) := by
  simp only [mapTypes, fold, foldNamed_eq, mapTypesWith]

theorem dataType_mapTypes (v : CassCqlValue D) : (v.mapTypes f).dataType = v.dataType.map f := by
  cases v <;> rfl

theorem mapTypes_id : ∀ v : CassCqlValue D, v.mapTypes id = v := by
  have self : ∀ {α : Type} {xs : List α} {g : α → α}, (∀ x ∈ xs, g x = x) → xs.map g = xs :=
    fun same => (List.map_congr_left same).trans (List.map_id _)
  have options : ∀ {fields : List (Option (CassCqlValue D))},
      (∀ v, some v ∈ fields → v.mapTypes id = v) → fields.map (Option.map (mapTypes id)) = fields := by
    intro fields ih
    refine self (fun field member => ?_)
    cases field with
    | none => rfl
    | some v => exact congrArg some (ih v member)
  refine forall_values ⟨fun s => rfl, ?_, ?_, ?_, ?_, ?_, ?_⟩
  · intro dataType fields ih
    rw [mapTypes_tuple, options ih, Option.map_id_apply]
  · intro dataType values ih
    rw [mapTypes_list, self ih, Option.map_id_apply]
  · intro dataType values ih
    rw [mapTypes_map, self (fun pair member => Prod.ext (ih pair member).1 (ih pair member).2),
      Option.map_id_apply]
  · intro dataType values ih
    rw [mapTypes_set, self ih, Option.map_id_apply]
  · intro dataType elementType values ih
    rw [mapTypes_vector, options ih, id, id]
  · intro dataType fields ih
    rw [mapTypes_userDefinedType, id]
    refine congrArg _ (self (fun field member => ?_))
    obtain ⟨name, value⟩ := field
    cases value with
    | none => rfl
    | some v => exact congrArg (fun v => (name, some v)) (ih name v member)

end CassCqlValue

theorem unpair_map (values : List (CassCqlValue D × CassCqlValue D)) :
    unpair (values.map (fun pair => (pair.1.mapTypes f, pair.2.mapTypes f))) =
      (unpair values).map (CassCqlValue.mapTypes f) := by
  induction values with
  | nil => rfl
  | cons pair values ih => simp only [List.map_cons, unpair, ih]

theorem subtypeAt_mapSubtypes (inner : CassDataTypeInner D) (i : Nat) :
    CassCollection.subtypeAt (inner.mapSubtypes f) i =
      (CassCollection.subtypeAt inner i).map (Option.map f) := by
  cases inner with
  | map typ =>
    cases typ with
    | untyped => rfl
    | key k =>
      simp only [CassDataTypeInner.mapSubtypes, MapDataType.mapSubtypes, CassCollection.subtypeAt]
      split <;> rfl
    | keyAndValue k v =>
      simp only [CassDataTypeInner.mapSubtypes, MapDataType.mapSubtypes, CassCollection.subtypeAt]
      split <;> rfl
  | _ => rfl

theorem collectionKind_mapSubtypes (inner : CassDataTypeInner D) :
    collectionKind (inner.mapSubtypes f) = collectionKind inner := by
  cases inner <;> rfl

end Values

theorem subtypeAt_mem {D : Type} {inner : CassDataTypeInner D} {i : Nat} {typ : D}
    (declared : CassCollection.subtypeAt inner i = .ok (some typ)) : typ ∈ inner.children := by
  unfold CassCollection.subtypeAt at declared
  split at declared
  · cases Except.ok.inj declared
    exact List.mem_singleton.mpr rfl
  · cases Except.ok.inj declared
    exact List.mem_singleton.mpr rfl
  · split at declared
    · cases Except.ok.inj declared
      exact List.mem_singleton.mpr rfl
    · cases Except.ok.inj declared
  · split at declared
    · cases Except.ok.inj declared
      exact List.mem_pair.mpr (.inl rfl)
    · cases Except.ok.inj declared
      exact List.mem_pair.mpr (.inr rfl)
  · cases Except.ok.inj declared
  · contradiction

/-- A map of the references of a closed part that keeps layers and accepted checks. -/
structure TypeOps.Hom {D E : Type} (types : TypeOps D) (types' : TypeOps E) (part : D → Prop)
    (f : D → E) : Prop where
  closed : ∀ d, part d → ∀ e ∈ (types.getUnchecked d).children, part e
  inner : ∀ d, part d → types'.getUnchecked (f d) = (types.getUnchecked d).mapSubtypes f
  accepts : ∀ a b, part a → part b → types.typecheckEquals a b = some true →
    types'.typecheckEquals (f a) (f b) = some true

/-- The data type, if there is one, is in the part. -/
def within {D : Type} (part : D → Prop) (dataType : Option D) : Prop :=
  ∀ d, dataType = some d → part d

section Hom
variable {D E : Type} {types : TypeOps D} {types' : TypeOps E} {part : D → Prop} {f : D → E}
  {allowed : Option D → Prop}

theorem WellTyped.dataType_within {v : CassCqlValue D}
    (inside : ∀ dataType, allowed dataType → within part dataType)
    (typed : WellTyped types allowed v) : within part v.dataType := by
  rcases typed.scalar_or_allowed with ⟨s, rfl⟩ | ok
  · exact fun d is => by contradiction
  · exact inside _ ok

theorem isTypeCompatible_hom (hom : types.Hom types' part f) {v : CassCqlValue D} {typ : D}
    (inPart : within part v.dataType) (typInPart : part typ)
    (accepted : v.isTypeCompatible types typ = some true) :
    (v.mapTypes f).isTypeCompatible types' (f typ) = some true := by
  have kind : (types'.getUnchecked (f typ)).getValueType = (types.getUnchecked typ).getValueType := by
    rw [hom.inner typ typInPart, CassDataTypeInner.getValueType_mapSubtypes]
  cases carried : v.dataType with
  | some d =>
    have carried' : (v.mapTypes f).dataType = some (f d) := by
      rw [CassCqlValue.dataType_mapTypes, carried, Option.map_some]
    rw [isTypeCompatible_of_dataType _ carried] at accepted
    rw [isTypeCompatible_of_dataType _ carried']
    exact hom.accepts d typ (inPart d carried) typInPart accepted
  | none =>
    cases v with
    | scalar s => exact (congrArg (fun t => some (s.isTypeCompatible t)) kind).trans accepted
    | vector | userDefinedType => contradiction
    | tuple | list | map | set =>
      cases carried
      exact (congrArg (fun t => some (t == _)) kind).trans accepted

theorem SlotsFit.hom (hom : types.Hom types' part f) {slots : List (Option (CassCqlValue D))}
    {subtypes : List D} (values : ∀ v, some v ∈ slots → within part v.dataType)
    (declared : ∀ typ ∈ subtypes, part typ) (fits : SlotsFit types slots subtypes) :
    SlotsFit types' (slots.map (Option.map (CassCqlValue.mapTypes f))) (subtypes.map f) := by
  rw [SlotsFit, List.forall₂_map_left_iff, List.forall₂_map_right_iff]
  refine List.forall₂_iff_zip.mpr ⟨fits.length_eq, fun {slot typ} member => ?_⟩
  have accepted := List.forall₂_zip fits member
  obtain ⟨inSlots, inTypes⟩ := List.of_mem_zip member
  cases slot with
  | none => rfl
  | some v => exact isTypeCompatible_hom hom (values v inSlots) (declared typ inTypes) accepted

theorem TupleFits.hom (hom : types.Hom types' part f) {dataType : Option D}
    {items : List (Option (CassCqlValue D))} (typed : within part dataType)
    (values : ∀ v, some v ∈ items → within part v.dataType)
    (fits : TupleFits types dataType items) :
    TupleFits types' (dataType.map f) (items.map (Option.map (CassCqlValue.mapTypes f))) := by
  intro dt' is
  obtain ⟨dt, rfl, rfl⟩ := Option.map_eq_some_iff.mp is
  obtain ⟨subtypes, inner, slots⟩ := fits dt rfl
  have declared := hom.closed dt (typed dt rfl)
  rw [inner] at declared
  refine ⟨subtypes.map f, ?_, slots.hom hom values declared⟩
  rw [hom.inner dt (typed dt rfl), inner]
  rfl

theorem CollectionFits.hom (hom : types.Hom types' part f) {kind : CollectionType}
    {dataType : Option D} {items : List (CassCqlValue D)} (typed : within part dataType)
    (values : ∀ v ∈ items, within part v.dataType)
    (fits : CollectionFits types kind dataType items) :
    CollectionFits types' kind (dataType.map f) (items.map (CassCqlValue.mapTypes f)) := by
  intro dt' is
  obtain ⟨dt, rfl, rfl⟩ := Option.map_eq_some_iff.mp is
  obtain ⟨isKind, compatible⟩ := fits dt rfl
  have inPart := typed dt rfl
  rw [hom.inner dt inPart]
  refine ⟨(collectionKind_mapSubtypes f _).trans isKind, fun i v' typ' at' declared' => ?_⟩
  rw [List.getElem?_map] at at'
  obtain ⟨v, placed, rfl⟩ := Option.map_eq_some_iff.mp at'
  rw [subtypeAt_mapSubtypes] at declared'
  obtain ⟨typ, declared, rfl⟩ : ∃ typ,
      CassCollection.subtypeAt (types.getUnchecked dt) i = .ok (some typ) ∧ f typ = typ' := by
    cases declared : CassCollection.subtypeAt (types.getUnchecked dt) i with
    | error e => simp [declared, Except.map] at declared'
    | ok subtype =>
      rw [declared] at declared'
      obtain ⟨typ, rfl, same⟩ := Option.map_eq_some_iff.mp (Except.ok.inj declared')
      exact ⟨typ, rfl, same⟩
  exact isTypeCompatible_hom hom (values v (List.mem_of_getElem? placed))
    (hom.closed dt inPart typ (subtypeAt_mem declared)) (compatible i v typ placed declared)

theorem VectorFits.hom (hom : types.Hom types' part f) {dataType elementType : D}
    {items : List (Option (CassCqlValue D))} (typed : within part (some dataType))
    (values : ∀ v, some v ∈ items → within part v.dataType)
    (fits : VectorFits types dataType elementType items) :
    VectorFits types' (f dataType) (f elementType)
      (items.map (Option.map (CassCqlValue.mapTypes f))) := by
  obtain ⟨dimensions, inner, length, compatible⟩ := fits
  have inPart := typed dataType rfl
  have element := hom.closed dataType inPart elementType (by rw [inner]; exact List.mem_singleton.mpr rfl)
  refine ⟨dimensions, ?_, (List.length_map _).trans length, fun v' member => ?_⟩
  · rw [hom.inner dataType inPart, inner]
    rfl
  · obtain ⟨slot, inside, is⟩ := List.mem_map.mp member
    obtain ⟨v, rfl, rfl⟩ := Option.map_eq_some_iff.mp is
    exact isTypeCompatible_hom hom (values v inside) element (compatible v inside)

theorem udt_slots_hom (hom : types.Hom types' part f) {dataType : D}
    {slots : List (Option (CassCqlValue D))} (typed : within part (some dataType))
    (values : ∀ v, some v ∈ slots → within part v.dataType) {udt : UdtDataType D}
    (inner : types.getUnchecked dataType = .udt udt)
    (fits : SlotsFit types slots (udt.fieldTypes.map Prod.snd)) :
    types'.getUnchecked (f dataType) = .udt (udt.mapSubtypes f) ∧
      SlotsFit types' (slots.map (Option.map (CassCqlValue.mapTypes f)))
        ((udt.mapSubtypes f).fieldTypes.map Prod.snd) := by
  have inPart := typed dataType rfl
  have declared := hom.closed dataType inPart
  rw [inner] at declared
  refine ⟨?_, ?_⟩
  · rw [hom.inner dataType inPart, inner]
    rfl
  · have children : (udt.mapSubtypes f).fieldTypes.map Prod.snd =
        (udt.fieldTypes.map Prod.snd).map f := CassDataTypeInner.children_mapSubtypes f (.udt udt)
    rw [children]
    exact fits.hom hom values declared

theorem UserTypeFits.hom (hom : types.Hom types' part f) {dataType : D}
    {fieldValues : List (Option (CassCqlValue D))} (typed : within part (some dataType))
    (values : ∀ v, some v ∈ fieldValues → within part v.dataType)
    (fits : UserTypeFits types dataType fieldValues) :
    UserTypeFits types' (f dataType) (fieldValues.map (Option.map (CassCqlValue.mapTypes f))) := by
  obtain ⟨udt, inner, slots⟩ := fits
  exact ⟨udt.mapSubtypes f, udt_slots_hom hom typed values inner slots⟩

theorem NamedFits.hom (hom : types.Hom types' part f) {dataType : D}
    {fields : List (String × Option (CassCqlValue D))} (typed : within part (some dataType))
    (values : ∀ v, some v ∈ fields.map Prod.snd → within part v.dataType)
    (fits : NamedFits types dataType fields) :
    NamedFits types' (f dataType)
      (fields.map (fun field => (field.1, field.2.map (CassCqlValue.mapTypes f)))) := by
  obtain ⟨udt, inner, names, slots⟩ := fits
  obtain ⟨inner', slots'⟩ := udt_slots_hom hom typed values inner slots
  refine ⟨udt.mapSubtypes f, inner', ?_, ?_⟩
  · simpa [UdtDataType.mapSubtypes, Function.comp_def] using names
  · rwa [List.map_map] at slots' ⊢

/-- The image of the allowed data types. -/
def mapped (f : D → E) (allowed : Option D → Prop) (dataType' : Option E) : Prop :=
  ∃ dataType, allowed dataType ∧ dataType' = dataType.map f

theorem forall_mapped_slots {P : CassCqlValue E → Prop} {slots : List (Option (CassCqlValue D))}
    (each : ∀ v, some v ∈ slots → P (v.mapTypes f)) :
    ∀ v', some v' ∈ slots.map (Option.map (CassCqlValue.mapTypes f)) → P v' := by
  intro v' member
  obtain ⟨slot, inSlots, is⟩ := List.mem_map.mp member
  obtain ⟨v, rfl, rfl⟩ := Option.map_eq_some_iff.mp is
  exact each v inSlots

/-- What is well typed stays so under a map of its data types. -/
theorem WellTyped.hom (hom : types.Hom types' part f)
    (inside : ∀ dataType, allowed dataType → within part dataType) {v : CassCqlValue D}
    (typed : WellTyped types allowed v) : WellTyped types' (mapped f allowed) (v.mapTypes f) := by
  induction typed with
  | scalar s => exact .scalar s
  | tuple dataType fields typed fits sub ih =>
    rw [CassCqlValue.mapTypes_tuple]
    exact .tuple _ _ ⟨_, typed, rfl⟩
      (fits.hom hom (inside _ typed) (fun v m => (sub v m).dataType_within inside)) (forall_mapped_slots ih)
  | list dataType values typed fits sub ih =>
    rw [CassCqlValue.mapTypes_list]
    exact .list _ _ ⟨_, typed, rfl⟩
      (fits.hom hom (inside _ typed) (fun v m => (sub v m).dataType_within inside))
      (List.forall_mem_map.mpr ih)
  | set dataType values typed fits sub ih =>
    rw [CassCqlValue.mapTypes_set]
    exact .set _ _ ⟨_, typed, rfl⟩
      (fits.hom hom (inside _ typed) (fun v m => (sub v m).dataType_within inside))
      (List.forall_mem_map.mpr ih)
  | map dataType values typed fits sub ih =>
    rw [CassCqlValue.mapTypes_map]
    refine .map _ _ ⟨_, typed, rfl⟩ ?_ ?_
    · rw [unpair_map]
      exact fits.hom hom (inside _ typed) (fun v m => (sub v m).dataType_within inside)
    · rw [unpair_map]
      exact List.forall_mem_map.mpr ih
  | vector dataType elementType values typed fits sub ih =>
    rw [CassCqlValue.mapTypes_vector]
    exact .vector _ _ _ ⟨_, typed, rfl⟩
      (fits.hom hom (inside _ typed) (fun v m => (sub v m).dataType_within inside)) (forall_mapped_slots ih)
  | userDefinedType dataType fields typed fits sub ih =>
    rw [CassCqlValue.mapTypes_userDefinedType]
    refine .userDefinedType _ _ ⟨_, typed, rfl⟩
      (fits.hom hom (inside _ typed) (fun v m => (sub v m).dataType_within inside)) ?_
    have slots := forall_mapped_slots ih
    rwa [List.map_map] at slots ⊢

/-- A container with its references mapped. -/
def ApiObject.mapTypes (f : D → E) : ApiObject D → ApiObject E
  | .value v => .value (v.mapTypes f)
  | .tuple t => .tuple ⟨t.dataType.map f, t.items.map (Option.map (CassCqlValue.mapTypes f))⟩
  | .collection c =>
    .collection ⟨c.collectionType, c.dataType.map f, c.items.map (CassCqlValue.mapTypes f)⟩
  | .userType u => .userType ⟨f u.dataType, u.fieldValues.map (Option.map (CassCqlValue.mapTypes f))⟩
  | .vector v => .vector ⟨f v.dataType, f v.elementType,
      v.items.map (Option.map (CassCqlValue.mapTypes f))⟩

theorem ApiObject.WellTyped.hom (hom : types.Hom types' part f)
    (inside : ∀ dataType, allowed dataType → within part dataType) {object : ApiObject D}
    (typed : object.WellTyped types allowed) :
    (object.mapTypes f).WellTyped types' (mapped f allowed) := by
  cases object with
  | value v => exact Types.WellTyped.hom hom inside typed
  | tuple | userType | vector =>
    obtain ⟨ok, fits, sub⟩ := typed
    exact ⟨⟨_, ok, rfl⟩,
      fits.hom hom (inside _ ok) (fun v m => (sub v m).dataType_within inside),
      forall_mapped_slots (fun v m => (sub v m).hom hom inside)⟩
  | collection c =>
    obtain ⟨ok, fits, sub⟩ := typed
    exact ⟨⟨_, ok, rfl⟩,
      fits.hom hom (inside _ ok) (fun v m => (sub v m).dataType_within inside),
      List.forall_mem_map.mpr (fun v m => (sub v m).hom hom inside)⟩

theorem ApiObject.mapTypes_id (object : ApiObject D) : object.mapTypes id = object := by
  have values : CassCqlValue.mapTypes (id : D → D) = id := funext CassCqlValue.mapTypes_id
  cases object <;> simp [ApiObject.mapTypes, values]

end Hom

end CppRsDriver.Types
