import CppRsDriver.Types.Built
import CppRsDriver.Wire.Limits
import CppRsDriver.Wire.RoundTrip

/-! The checks made while a value is built and bound are enough for the wire format:
a value accepted for a column is read back under the column's type. -/
namespace CppRsDriver.Wire

open CppRsDriver.Lib CppRsDriver.Types

/- The data types of a value and of its parts, against the column at their place. -/
def sameFieldsWith : ValueLayer CassDataType (ColumnType → Bool) → ColumnType → Bool
  | .scalar _, _ => true
  | .tuple dataType fields, c => dataType.all (·.sameFields c) &&
    match c with
    | .tuple types => (fields.zip types).all (fun (field, typ) => field.all (· typ))
    | _ => true
  | .list dataType values, c => dataType.all (·.sameFields c) &&
    match c with
    | .list typ _ => values.all (· typ)
    | _ => true
  | .set dataType values, c => dataType.all (·.sameFields c) &&
    match c with
    | .set typ _ => values.all (· typ)
    | _ => true
  | .map dataType values, c => dataType.all (·.sameFields c) &&
    match c with
    | .map key value _ => values.all (fun pair => pair.1 key && pair.2 value)
    | _ => true
  | .vector dataType _ values, c => dataType.sameFields c &&
    match c with
    | .vector typ _ => values.all (fun element => element.all (· typ))
    | _ => true
  | .userDefinedType dataType fields, c => dataType.sameFields c &&
    match c with
    | .userDefinedType fieldTypes _ _ _ =>
      (fields.zip fieldTypes).all (fun (field, fieldType) => field.2.all (· fieldType.2))
    | _ => true

/-- Every user-defined type in the value has the field names of the one at the same
place in the column. -/
def sameFields : CassCqlValue CassDataType → ColumnType → Bool := CassCqlValue.fold sameFieldsWith

theorem sameFields_dataType {v : CassCqlValue CassDataType} {c : ColumnType} {d : CassDataType}
    (fields : sameFields v c = true) (carries : v.dataType = some d) : d.sameFields c = true := by
  cases v with
  | scalar => contradiction
  | vector | userDefinedType =>
    cases Option.some.inj carries
    simp only [sameFields, CassCqlValue.fold, sameFieldsWith, Bool.and_eq_true] at fields
    exact fields.1
  | tuple dataType | list dataType | map dataType | set dataType =>
    cases carries
    simp only [sameFields, CassCqlValue.fold, sameFieldsWith, Bool.and_eq_true] at fields
    exact fields.1

/-- A value laid out as the column, as far as its own type goes. -/
def Laid (v : CassCqlValue CassDataType) (c : ColumnType) : Prop :=
  (∃ s t, v = .scalar s ∧ c = .native t ∧ s.isTypeCompatible t.toValueType = true) ∨
    ∃ d, v.dataType = some d ∧ Alike d c

theorem laid_of_compatible {v : CassCqlValue CassDataType} {typ : CassDataType} {c : ColumnType}
    (typed : WellTyped CassDataType.ops usableType v) (fields : sameFields v c = true)
    (alike : Alike typ c) (accepted : v.isTypeCompatible CassDataType.ops typ = some true) :
    Laid v c := by
  rcases typed.scalar_or_allowed with ⟨s, rfl⟩ | ⟨d, carries, ready⟩
  · have compatible : s.isTypeCompatible typ.inner.getValueType = true := Option.some.inj accepted
    cases alike with
    | value t native same =>
      refine .inl ⟨s, native, rfl, rfl, ?_⟩
      rwa [← s.isTypeCompatible_canonical, ← same, s.isTypeCompatible_canonical]
    | _ => cases s <;> contradiction
  · rw [isTypeCompatible_of_dataType _ carries] at accepted
    exact .inr ⟨d, carries, CassDataType.alike_of_typecheckEquals alike d ready accepted
      (sameFields_dataType fields carries)⟩

theorem usesVariableLength_of_alike (sizes : NativeType → Option Nat) {d : CassDataType}
    {c : ColumnType} (alike : Alike d c) :
    d.usesVariableLengthEncodingInVector sizes = (fixedSize sizes c).isNone := by
  induction alike with
  | value t native same =>
    rw [CassDataType.usesVariableLength_mk, CassDataTypeInner.usesVariableLengthWith,
      toNativeType_of_canonical same, toNativeType_toValueType, Option.any_some, fixedSize]
    cases sizes native <;> rfl
  | vector typ c dimensions sub ih =>
    rw [CassDataType.usesVariableLength_mk, CassDataTypeInner.usesVariableLengthWith, ih, fixedSize,
      Option.isNone_map]
  | _ =>
    rw [CassDataType.usesVariableLength_mk]
    rfl

theorem mem_unpair {values : List (CassCqlValue CassDataType × CassCqlValue CassDataType)}
    {pair : CassCqlValue CassDataType × CassCqlValue CassDataType} (member : pair ∈ values) :
    ∃ i, (unpair values)[2 * i]? = some pair.1 ∧ (unpair values)[2 * i + 1]? = some pair.2 := by
  induction values with
  | nil => contradiction
  | cons head values ih =>
    rcases List.mem_cons.mp member with rfl | later
    · exact ⟨0, rfl, rfl⟩
    · obtain ⟨i, key, value⟩ := ih later
      exact ⟨i + 1, key, value⟩

theorem compatible_of_collectionFits {kind : CollectionType} {d e : CassDataType}
    {items : List (CassCqlValue CassDataType)}
    (fits : CollectionFits CassDataType.ops kind (some d) items)
    (declared : ∀ i, CassCollection.subtypeAt d.inner i = .ok (some e)) :
    ∀ v ∈ items, v.isTypeCompatible CassDataType.ops e = some true := by
  intro v member
  obtain ⟨i, at'⟩ := List.getElem?_of_mem member
  exact (fits d rfl).2 i v e at' (declared i)

theorem Alike.list_inv {d : CassDataType} {c : ColumnType} (alike : Alike d c)
    (kind : collectionKind d.inner = some .list) : ∃ typ frozen c' frozen',
      d = .mk (.list (some typ) frozen) ∧ c = .list c' frozen' ∧ Alike typ c' := by
  cases alike with
  | list typ c frozen frozen' sub => exact ⟨typ, frozen, c, frozen', rfl, rfl, sub⟩
  | _ => simp [collectionKind, CassDataType.inner] at kind

theorem Alike.set_inv {d : CassDataType} {c : ColumnType} (alike : Alike d c)
    (kind : collectionKind d.inner = some .set) : ∃ typ frozen c' frozen',
      d = .mk (.set (some typ) frozen) ∧ c = .set c' frozen' ∧ Alike typ c' := by
  cases alike with
  | set typ c frozen frozen' sub => exact ⟨typ, frozen, c, frozen', rfl, rfl, sub⟩
  | _ => simp [collectionKind, CassDataType.inner] at kind

theorem Alike.map_inv {d : CassDataType} {c : ColumnType} (alike : Alike d c)
    (kind : collectionKind d.inner = some .map) : ∃ k v frozen key value frozen',
      d = .mk (.map (.keyAndValue k v) frozen) ∧ c = .map key value frozen' ∧
        Alike k key ∧ Alike v value := by
  cases alike with
  | map k v key value frozen frozen' keys values =>
    exact ⟨k, v, frozen, key, value, frozen', rfl, rfl, keys, values⟩
  | _ => simp [collectionKind, CassDataType.inner] at kind

/- What the condition on field names says of the parts of a value. -/
section Parts
variable {w : CassCqlValue CassDataType} {dataType : Option CassDataType}

theorem sameFields_tuple {fields : List (Option (CassCqlValue CassDataType))} {types : List ColumnType}
    (same : sameFields (.tuple dataType fields) (.tuple types) = true) {c : ColumnType}
    (member : (some w, c) ∈ fields.zip types) : sameFields w c = true := by
  simp only [sameFields, CassCqlValue.fold, CassCqlValue.foldOptions_eq, sameFieldsWith,
    List.zip_map_left, List.all_map, Bool.and_eq_true, List.all_eq_true] at same
  exact same.2 _ member

theorem sameFields_list {values : List (CassCqlValue CassDataType)} {c : ColumnType} {frozen : Bool}
    (same : sameFields (.list dataType values) (.list c frozen) = true) (member : w ∈ values) :
    sameFields w c = true := by
  simp only [sameFields, CassCqlValue.fold, CassCqlValue.foldList_eq, sameFieldsWith,
    List.all_map, Bool.and_eq_true, List.all_eq_true] at same
  exact same.2 w member

theorem sameFields_set {values : List (CassCqlValue CassDataType)} {c : ColumnType} {frozen : Bool}
    (same : sameFields (.set dataType values) (.set c frozen) = true) (member : w ∈ values) :
    sameFields w c = true := by
  simp only [sameFields, CassCqlValue.fold, CassCqlValue.foldList_eq, sameFieldsWith,
    List.all_map, Bool.and_eq_true, List.all_eq_true] at same
  exact same.2 w member

theorem sameFields_map {values : List (CassCqlValue CassDataType × CassCqlValue CassDataType)}
    {key value : ColumnType} {frozen : Bool}
    (same : sameFields (.map dataType values) (.map key value frozen) = true)
    {pair : CassCqlValue CassDataType × CassCqlValue CassDataType} (member : pair ∈ values) :
    sameFields pair.1 key = true ∧ sameFields pair.2 value = true := by
  simp only [sameFields, CassCqlValue.fold, CassCqlValue.foldPairs_eq, sameFieldsWith,
    List.all_map, Bool.and_eq_true, List.all_eq_true, Function.comp_apply] at same
  exact same.2 pair member

theorem sameFields_vector {typ elementType : CassDataType}
    {values : List (Option (CassCqlValue CassDataType))} {c : ColumnType} {dimensions : UInt16}
    (same : sameFields (.vector typ elementType values) (.vector c dimensions) = true)
    (member : some w ∈ values) : sameFields w c = true := by
  simp only [sameFields, CassCqlValue.fold, CassCqlValue.foldOptions_eq, sameFieldsWith,
    List.all_map, Bool.and_eq_true, List.all_eq_true] at same
  exact same.2 _ member

theorem sameFields_userDefinedType {typ : CassDataType}
    {fields : List (String × Option (CassCqlValue CassDataType))}
    {fieldTypes : List (String × ColumnType)} {keyspace name : String} {frozen : Bool}
    (same : sameFields (.userDefinedType typ fields)
      (.userDefinedType fieldTypes keyspace name frozen) = true)
    {field : String × Option (CassCqlValue CassDataType)} {fieldType : String × ColumnType}
    (member : (field, fieldType) ∈ fields.zip fieldTypes) (is : field.2 = some w) :
    sameFields w fieldType.2 = true := by
  simp only [sameFields, CassCqlValue.fold, CassCqlValue.foldNamed_eq, sameFieldsWith,
    List.zip_map_left, List.all_map, Bool.and_eq_true, List.all_eq_true] at same
  have all := same.2 _ member
  simpa [is, sameFields] using all

end Parts

section Fitting
variable (sizes : NativeType → Option Nat)

/-- A value that fits every column it is laid out as. -/
def FitsWhenLaid (v : CassCqlValue CassDataType) : Prop :=
  ∀ c, sameFields v c = true → Laid v c →
    Fits (CassDataType.usesVariableLengthEncodingInVector sizes) sizes v c

variable {sizes}

theorem FitsWhenLaid.part {w : CassCqlValue CassDataType} (fits : FitsWhenLaid sizes w)
    (typed : WellTyped CassDataType.ops usableType w) {typ : CassDataType} {c : ColumnType}
    (alike : Alike typ c) (accepted : w.isTypeCompatible CassDataType.ops typ = some true)
    (fields : sameFields w c = true) :
    Fits (CassDataType.usesVariableLengthEncodingInVector sizes) sizes w c :=
  fits c fields (laid_of_compatible typed fields alike accepted)

theorem Laid.of_container {v : CassCqlValue CassDataType} {c : ColumnType} (laid : Laid v c)
    (container : ∀ s, v ≠ .scalar s) : ∃ d, v.dataType = some d ∧ Alike d c := by
  rcases laid with ⟨s, t, isScalar, -⟩ | found
  · exact absurd isScalar (container s)
  · exact found

theorem fitsWhenLaid_tuple {dataType : Option CassDataType}
    {fields : List (Option (CassCqlValue CassDataType))}
    (fits : TupleFits CassDataType.ops dataType fields)
    (sub : ∀ v, some v ∈ fields → WellTyped CassDataType.ops usableType v)
    (ih : ∀ v, some v ∈ fields → FitsWhenLaid sizes v) :
    FitsWhenLaid sizes (.tuple dataType fields) := by
  intro c same laid
  obtain ⟨d, carries, alike⟩ := laid.of_container nofun
  obtain ⟨subtypes, inner, slots⟩ := fits d carries
  obtain ⟨layer⟩ := d
  cases inner
  cases alike with
  | tuple _ columns nonempty length alikes =>
    refine .tuple _ _ _ (slots.length_eq.trans length) ?_
    intro w c member
    obtain ⟨typ, left, right⟩ := mem_zip_through (Nat.le_of_eq length.symm) member
    have inside : some w ∈ fields := (List.of_mem_zip left).1
    exact (ih w inside).part (sub w inside) (alikes typ c right) (List.forall₂_zip slots left)
      (sameFields_tuple same member)

theorem fitsWhenLaid_list {dataType : Option CassDataType} {values : List (CassCqlValue CassDataType)}
    (fits : CollectionFits CassDataType.ops .list dataType values)
    (sub : ∀ v ∈ values, WellTyped CassDataType.ops usableType v)
    (ih : ∀ v ∈ values, FitsWhenLaid sizes v) : FitsWhenLaid sizes (.list dataType values) := by
  intro c same laid
  obtain ⟨d, rfl, alike⟩ := laid.of_container nofun
  obtain ⟨typ, frozen, c, frozen', rfl, rfl, element⟩ := Alike.list_inv alike (fits d rfl).1
  refine .list _ _ _ _ (fun w member => ?_)
  exact (ih w member).part (sub w member) element
    (compatible_of_collectionFits fits (fun _ => rfl) w member) (sameFields_list same member)

theorem fitsWhenLaid_set {dataType : Option CassDataType} {values : List (CassCqlValue CassDataType)}
    (fits : CollectionFits CassDataType.ops .set dataType values)
    (sub : ∀ v ∈ values, WellTyped CassDataType.ops usableType v)
    (ih : ∀ v ∈ values, FitsWhenLaid sizes v) : FitsWhenLaid sizes (.set dataType values) := by
  intro c same laid
  obtain ⟨d, rfl, alike⟩ := laid.of_container nofun
  obtain ⟨typ, frozen, c, frozen', rfl, rfl, element⟩ := Alike.set_inv alike (fits d rfl).1
  refine .set _ _ _ _ (fun w member => ?_)
  exact (ih w member).part (sub w member) element
    (compatible_of_collectionFits fits (fun _ => rfl) w member) (sameFields_set same member)

theorem fitsWhenLaid_map {dataType : Option CassDataType}
    {values : List (CassCqlValue CassDataType × CassCqlValue CassDataType)}
    (fits : CollectionFits CassDataType.ops .map dataType (unpair values))
    (sub : ∀ v ∈ unpair values, WellTyped CassDataType.ops usableType v)
    (ih : ∀ v ∈ unpair values, FitsWhenLaid sizes v) : FitsWhenLaid sizes (.map dataType values) := by
  intro c same laid
  obtain ⟨d, rfl, alike⟩ := laid.of_container nofun
  obtain ⟨k, v, frozen, key, value, frozen', rfl, rfl, keys, vals⟩ :=
    Alike.map_inv alike (fits d rfl).1
  refine .map _ _ _ _ _ (fun pair member => ?_) (fun pair member => ?_)
  · -- a key, at an even position
    obtain ⟨i, at', -⟩ := mem_unpair member
    have inside := List.mem_of_getElem? at'
    have compatible := (fits _ rfl).2 (2 * i) pair.1 k at'
      (by simp [CassDataType.ops, CassDataType.inner, CassCollection.subtypeAt])
    exact (ih _ inside).part (sub _ inside) keys compatible (sameFields_map same member).1
  · obtain ⟨i, -, at'⟩ := mem_unpair member
    have inside := List.mem_of_getElem? at'
    have compatible := (fits _ rfl).2 (2 * i + 1) pair.2 v at'
      (by simp [CassDataType.ops, CassDataType.inner, CassCollection.subtypeAt])
    exact (ih _ inside).part (sub _ inside) vals compatible (sameFields_map same member).2

theorem fitsWhenLaid_vector {dataType elementType : CassDataType}
    {values : List (Option (CassCqlValue CassDataType))}
    (fits : VectorFits CassDataType.ops dataType elementType values)
    (sub : ∀ v, some v ∈ values → WellTyped CassDataType.ops usableType v)
    (ih : ∀ v, some v ∈ values → FitsWhenLaid sizes v) :
    FitsWhenLaid sizes (.vector dataType elementType values) := by
  intro c same laid
  obtain ⟨d, carries, alike⟩ := laid.of_container nofun
  cases Option.some.inj carries
  obtain ⟨dimensions, inner, length, compatible⟩ := fits
  obtain ⟨layer⟩ := dataType
  cases inner
  cases alike with
  | vector _ c _ alike =>
    refine .vector _ _ _ _ _ length (usesVariableLength_of_alike sizes alike) (fun w member => ?_)
    exact (ih w member).part (sub w member) alike (compatible w member)
      (sameFields_vector same member)

theorem fitsWhenLaid_userDefinedType {dataType : CassDataType}
    {fields : List (String × Option (CassCqlValue CassDataType))}
    (fits : NamedFits CassDataType.ops dataType fields)
    (sub : ∀ v, some v ∈ fields.map Prod.snd → WellTyped CassDataType.ops usableType v)
    (ih : ∀ v, some v ∈ fields.map Prod.snd → FitsWhenLaid sizes v) :
    FitsWhenLaid sizes (.userDefinedType dataType fields) := by
  intro c same laid
  obtain ⟨d, carries, alike⟩ := laid.of_container nofun
  cases Option.some.inj carries
  obtain ⟨udt, inner, names, slots⟩ := fits
  obtain ⟨layer⟩ := dataType
  cases inner
  cases alike with
  | udt _ fieldTypes keyspace name frozen names' alikes =>
    refine .userDefinedType _ _ _ _ _ _ (names.trans names') ?_
    intro field w fieldType member is
    have length : udt.fieldTypes.length = fieldTypes.length := by
      simpa using congrArg List.length names'
    obtain ⟨typ, left, right⟩ := mem_zip_through (Nat.le_of_eq length.symm) member
    have inside : some w ∈ fields.map Prod.snd :=
      is ▸ List.mem_map_of_mem (List.of_mem_zip left).1
    have accepted : isTypeCompatible CassDataType.ops (some w) typ.2 = some true := by
      rw [SlotsFit, List.forall₂_map_left_iff, List.forall₂_map_right_iff] at slots
      exact is ▸ List.forall₂_zip slots left
    exact (ih w inside).part (sub w inside) (alikes typ fieldType right) accepted
      (sameFields_userDefinedType same member is)

variable (sizes) in
/-- A well-typed value laid out as a column fits the column all the way down. -/
theorem fits_of_laid {v : CassCqlValue CassDataType}
    (typed : WellTyped CassDataType.ops usableType v) : FitsWhenLaid sizes v := by
  induction typed with
  | scalar s =>
    rintro c fields (⟨s', t, same, rfl, compatible⟩ | ⟨d, carries, alike⟩)
    · cases same
      exact .scalar s t compatible
    · contradiction
  | tuple dataType fields typed fits sub ih => exact fitsWhenLaid_tuple fits sub ih
  | list dataType values typed fits sub ih => exact fitsWhenLaid_list fits sub ih
  | set dataType values typed fits sub ih => exact fitsWhenLaid_set fits sub ih
  | map dataType values typed fits sub ih => exact fitsWhenLaid_map fits sub ih
  | vector dataType elementType values typed fits sub ih => exact fitsWhenLaid_vector fits sub ih
  | userDefinedType dataType fields typed fits sub ih =>
    exact fitsWhenLaid_userDefinedType fits sub ih

variable (sizes)

theorem wellTyped_value_decodes (standard : ∀ t k, sizes t = some k → standardSize t = some k)
    {v : CassCqlValue CassDataType} {c : ColumnType} (typed : WellTyped CassDataType.ops usableType v)
    (nonempty : c.nonemptyTuples = true) (fields : sameFields v c = true)
    (accepted : v.isTypeCompatible CassDataType.ops (getColumnType c) = some true)
    {bytes : List UInt8}
    (wrote : doSerialize (CassDataType.usesVariableLengthEncodingInVector sizes) v .sized = .ok bytes) :
    decodeCell sizes c bytes = some (some (cqlValue v)) := by
  have laid := laid_of_compatible typed fields (alike_getColumnType c nonempty) accepted
  have fits := fits_of_laid sizes typed c fields laid
  obtain ⟨inner, content, small, rfl⟩ := sized_eq_ok wrote
  have decoded := decodesAs_of_fits standard fits inner content small
  apply ((reads_cell small).filterMap _).complete
  simp only [decoded, Option.map_some]

/-- A value built from fully typed data types and accepted for a column is decoded
from its bytes under the column's type; it fails to be written only at the size limits. -/
theorem accepted_value_decodes (standard : ∀ t k, sizes t = some k → standardSize t = some k)
    (v : CassCqlValue CassDataType) (c : ColumnType) (built : Built (.value v))
    (nonempty : c.nonemptyTuples = true) (slots : slotsSet v = true)
    (fields : sameFields v c = true)
    (accepted : v.isTypeCompatible CassDataType.ops (getColumnType c) = some true) :
    let written := doSerialize (CassDataType.usesVariableLengthEncodingInVector sizes) v .sized
    (∀ bytes, written = .ok bytes → decodeCell sizes c bytes = some (some (cqlValue v))) ∧
      (∀ e, written = .error e → e.isSizeLimit = true) := by
  intro written
  refine ⟨fun bytes wrote => ?_, fun e failed => only_limits v slots .sized e failed⟩
  exact wellTyped_value_decodes sizes standard built.wellTyped nonempty fields accepted wrote

end Fitting

/- A tuple of an integer and a vector of two blobs of different lengths. -/
theorem accepted_value_decodes_tuple :
    let blobs : CassDataType := .mk (.vector (.mk (.value .blob)) 2)
    let dataType : CassDataType := .mk (.tuple [.mk (.value .int), blobs])
    let v : CassCqlValue CassDataType := .tuple (some dataType) [some (.scalar (.int 7)),
      some (.vector blobs (.mk (.value .blob)) [some (.scalar (.blob [1, 2])), some (.scalar (.blob []))])]
    decodeCell standardSize (.tuple [.native .int, .vector (.native .blob) 2])
      [0, 0, 0, 16, 0, 0, 0, 4, 0, 0, 0, 7, 0, 0, 0, 4, 2, 1, 2, 0] = some (some (cqlValue v)) := by
  intro blobs dataType v
  have vector : Built (.vector ⟨blobs, .mk (.value .blob), [none, none]⟩) :=
    .newVector blobs _ (by decide) rfl
  have first := Built.setVector _ 0 (.scalar (.blob [1, 2])) _ _ vector (.scalar _) rfl
  have second := Built.setVector _ 1 (.scalar (.blob [])) _ _ first (.scalar _) rfl
  have tuple : Built (.tuple ⟨some dataType, [none, none]⟩) := .newTuple dataType _ (by decide) rfl
  have int := Built.setTuple _ 0 (some (.scalar (.int 7))) _ _ tuple
    (fun w is => Option.some.inj is ▸ .scalar _) rfl
  have whole := Built.setTuple _ 1 (some _) _ _ int
    (fun w is => Option.some.inj is ▸ Built.ofVector _ second) rfl
  exact (accepted_value_decodes standardSize (fun t k is => is) v _ (.ofTuple _ whole) (by decide)
    (by decide) (by decide) (by decide)).1 _ rfl

end CppRsDriver.Wire
