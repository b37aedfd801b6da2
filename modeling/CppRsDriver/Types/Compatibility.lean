import CppRsDriver.Types.Column
import CppRsDriver.Types.Value

/-! Compatibility through containers: a value is checked against the declared
element type, and only the declared type against the column. -/
namespace CppRsDriver.Types

open CppRsDriver.Lib

/- TEXT and VARCHAR both name the CQL type `text`. -/
def CassValueType.canonical : CassValueType → CassValueType
  | .text => .varchar
  | t => t

theorem valueTypesEqual_iff (t1 t2 : CassValueType) :
    valueTypesEqual t1 t2 = true ↔ t1.canonical = t2.canonical := by
  cases t1 <;> cases t2 <;> decide

theorem CassScalar.isTypeCompatible_canonical (s : CassScalar) (t : CassValueType) :
    s.isTypeCompatible t.canonical = s.isTypeCompatible t := by
  cases s <;> cases t <;> rfl

theorem eq_of_canonical_eq {kind t t' : CassValueType} (container : kind ≠ .varchar ∧ kind ≠ .text)
    (same : t.canonical = t'.canonical) (is : t = kind) : t' = kind := by
  subst is
  cases t <;> cases t' <;> simp_all [CassValueType.canonical]

namespace CassDataTypeInner
variable {D E : Type}

theorem Agrees.canonical_eq {sub : D → E → Prop} {self : CassDataTypeInner D}
    {other : CassDataTypeInner E} (agrees : self.Agrees sub other) :
    self.getValueType.canonical = other.getValueType.canonical := by
  cases agrees with
  | value t other same => exact (valueTypesEqual_iff _ _).mp same
  | _ => rfl

/-- One layer of: no wildcard of a user-defined type in `self` is filled by `other`. -/
def pinsWith (sub : D → E → Bool) : CassDataTypeInner D → CassDataTypeInner E → Bool
  | .udt u, .udt other =>
    (u.keyspace != "" || other.keyspace == "") && (u.name != "" || other.name == "") &&
      decide (other.fieldTypes.length ≤ u.fieldTypes.length) &&
      (u.fieldTypes.zip other.fieldTypes).all (fun (field, otherField) =>
        sub field.2 otherField.2)
  | .list (some typ) _, .list (some otherTyp) _ | .set (some typ) _, .set (some otherTyp) _ =>
    sub typ otherTyp
  | .map (.keyAndValue k v) _, .map (.keyAndValue otherK otherV) _ => sub k otherK && sub v otherV
  | .tuple types, .tuple otherTypes =>
    (types.zip otherTypes).all (fun (typ, otherTyp) => sub typ otherTyp)
  | .vector typ _, .vector otherTyp _ => sub typ otherTyp
  | _, _ => true

theorem pinsWith_mapSubtypes {D' : Type} (g : D' → D) (sub : D → E → Bool)
    (self : CassDataTypeInner D') (other : CassDataTypeInner E) :
    (self.mapSubtypes g).pinsWith sub other = self.pinsWith (fun d e => sub (g d) e) other := by
  cases self with
  | udt u =>
    cases other with
    | udt other =>
      simp only [mapSubtypes, pinsWith, UdtDataType.mapSubtypes, List.zip_map_left, List.all_map,
        List.length_map]
      rfl
    | _ => rfl
  | list typ => cases other with
    | list otherTyp => cases typ <;> cases otherTyp <;> rfl
    | _ => cases typ <;> rfl
  | set typ => cases other with
    | set otherTyp => cases typ <;> cases otherTyp <;> rfl
    | _ => cases typ <;> rfl
  | map typ => cases other with
    | map otherTyp => cases typ <;> cases otherTyp <;> rfl
    | _ => cases typ <;> rfl
  | tuple types =>
    cases other with
    | tuple otherTypes =>
      simp only [mapSubtypes, pinsWith, List.zip_map_left, List.all_map]
      rfl
    | _ => rfl
  | _ => cases other <;> rfl

end CassDataTypeInner

/-- At every place where both have a user-defined type, `self` names keyspace and
type or `other` leaves them empty, and `self` has at least the fields of `other`. -/
def CassDataType.pins (self other : CassDataType) : Bool :=
  fold (fun inner (other : CassDataType) =>
    inner.pinsWith (fun pins sub => pins sub) other.inner) self other

theorem CassDataType.pins_mk (inner other : CassDataTypeInner CassDataType) :
    pins (.mk inner) (.mk other) = inner.pinsWith pins other := by
  simp only [pins, fold_mk, CassDataTypeInner.pinsWith_mapSubtypes]
  rfl

/- A wildcard string between two others lets them differ only if it is not pinned. -/
theorem anyStringEmptyOrBothEqual_trans {s1 s2 s3 : String}
    (left : anyStringEmptyOrBothEqual s1 s2 = true) (right : anyStringEmptyOrBothEqual s2 s3 = true)
    (pinned : (s2 != "" || s3 == "") = true) : anyStringEmptyOrBothEqual s1 s3 = true := by
  simp only [anyStringEmptyOrBothEqual, Bool.or_eq_true, beq_iff_eq, bne_iff_ne] at left right pinned ⊢
  rcases left with (h1 | h2) | rfl
  · exact .inl (.inl h1)
  · exact .inl (.inr (pinned.resolve_left (not_not.mpr h2)))
  · rcases right with (h2 | h3) | h
    · exact .inl (.inl h2)
    · exact .inl (.inr h3)
    · exact .inr h

namespace CassDataTypeInner
variable {D E F : Type}

/-- What one layer needs of its subtypes to be checked through a fully typed layer. -/
theorem Agrees.trans {r : D → E → Prop} {q : E → F → Prop} {rq : D → F → Prop}
    {full : E → Bool} {pins : E → F → Bool} {a : CassDataTypeInner D} {b : CassDataTypeInner E}
    {c : CassDataTypeInner F} (ab : a.Agrees r b) (bc : b.Agrees q c)
    (typed : b.isFullyTypedWith full = true) (pinned : b.pinsWith pins c = true)
    (sub : ∀ d, ∀ e ∈ b.children, ∀ f, r d e → q e f → full e = true → pins e f = true → rq d f) :
    a.Agrees rq c := by
  cases ab with
  | value t b same =>
    have through := (valueTypesEqual_iff _ _).mp same |>.trans bc.canonical_eq
    exact .value t c ((valueTypesEqual_iff _ _).mpr through)
  | udt u v keyspace name fields =>
    cases bc with
    | udt _ w keyspace' name' fields' =>
      simp only [pinsWith, Bool.and_eq_true, decide_eq_true_eq, List.all_eq_true] at pinned
      simp only [isFullyTypedWith, Bool.and_eq_true, List.all_eq_true] at typed
      obtain ⟨⟨⟨pinKeyspace, pinName⟩, enough⟩, pinFields⟩ := pinned
      refine .udt u w (anyStringEmptyOrBothEqual_trans keyspace keyspace' pinKeyspace)
        (anyStringEmptyOrBothEqual_trans name name' pinName) ?_
      rintro ⟨x, z⟩ member
      obtain ⟨y, left, right⟩ := mem_zip_through enough member
      obtain ⟨sameName, related⟩ := fields _ left
      obtain ⟨sameName', related'⟩ := fields' _ right
      have inner : y ∈ v.fieldTypes := (List.of_mem_zip left).2
      exact ⟨sameName.trans sameName', sub _ y.2 (List.mem_map_of_mem inner) _ related related'
        (typed.2 y inner) (pinFields _ right)⟩
  | list typ otherTyp frozen otherFrozen element =>
    cases bc with
    | list _ lastTyp _ lastFrozen element' =>
      refine .list _ _ _ _ (fun t o ht ho => ?_)
      subst ho
      cases otherTyp with
      | none => contradiction
      | some e =>
        exact sub t e (by simp [children]) o (element t e ht rfl) (element' e o rfl rfl) typed pinned
  | set typ otherTyp frozen otherFrozen element =>
    cases bc with
    | set _ lastTyp _ lastFrozen element' =>
      refine .set _ _ _ _ (fun t o ht ho => ?_)
      subst ho
      cases otherTyp with
      | none => contradiction
      | some e =>
        exact sub t e (by simp [children]) o (element t e ht rfl) (element' e o rfl rfl) typed pinned
  | map typ otherTyp frozen otherFrozen subtypes =>
    cases bc with
    | map _ lastTyp _ lastFrozen subtypes' =>
      refine .map _ _ _ _ ?_
      cases otherTyp with
      | untyped => contradiction
      | key => contradiction
      | keyAndValue k v =>
        simp only [isFullyTypedWith, Bool.and_eq_true] at typed
        cases typ with
        | untyped => trivial
        | key => exact subtypes.elim
        | keyAndValue k₁ v₁ =>
          cases lastTyp with
          | untyped => trivial
          | key => exact subtypes'.elim
          | keyAndValue k₂ v₂ =>
            simp only [pinsWith, Bool.and_eq_true] at pinned
            exact ⟨sub k₁ k (by simp [children]) k₂ subtypes.1 subtypes'.1 typed.1 pinned.1,
              sub v₁ v (by simp [children]) v₂ subtypes.2 subtypes'.2 typed.2 pinned.2⟩
  | tupleUntyped types otherTypes untyped =>
    simp only [isFullyTypedWith, Bool.and_eq_true, Bool.not_eq_true', List.isEmpty_eq_false_iff]
      at typed
    cases bc with
    | tupleUntyped _ lastTypes untyped' =>
      exact .tupleUntyped _ _ (.inl (untyped.resolve_right typed.1))
    | tuple _ lastTypes length' elements' =>
      exact .tupleUntyped _ _ (.inl (untyped.resolve_right typed.1))
  | tuple types otherTypes length elements =>
    simp only [isFullyTypedWith, Bool.and_eq_true, Bool.not_eq_true', List.isEmpty_eq_false_iff,
      List.all_eq_true] at typed
    cases bc with
    | tupleUntyped _ lastTypes untyped' =>
      exact .tupleUntyped _ _ (.inr (untyped'.resolve_left typed.1))
    | tuple _ lastTypes length' elements' =>
      simp only [pinsWith, List.all_eq_true] at pinned
      refine .tuple _ _ (length.trans length') ?_
      rintro ⟨x, z⟩ member
      obtain ⟨y, left, right⟩ := mem_zip_through (Nat.le_of_eq length'.symm) member
      have inner : y ∈ otherTypes := (List.of_mem_zip left).2
      exact sub x y inner z (elements _ left) (elements' _ right) (typed.2 y inner)
        (pinned _ right)
  | vector typ otherTyp dimensions element =>
    cases bc with
    | vector _ lastTyp _ element' =>
      exact .vector _ _ _ (sub typ otherTyp (by simp [children]) lastTyp element element' typed
        pinned)

end CassDataTypeInner

theorem CassDataType.canonical_eq {t c : CassDataType} (tc : t.typecheckEquals c = some true) :
    t.inner.getValueType.canonical = c.inner.getValueType.canonical := by
  obtain ⟨a⟩ := t
  obtain ⟨b⟩ := c
  exact ((typecheckEquals_iff a b).mp tc).canonical_eq

/-- A type accepted for a fully typed one is accepted for whatever that one is
accepted for, unless a wildcard of the middle type is filled on both sides. -/
theorem CassDataType.typecheckEquals_trans (t : CassDataType) (v c : CassDataType)
    (full : t.isFullyTyped = true) (vt : v.typecheckEquals t = some true)
    (tc : t.typecheckEquals c = some true) (pinned : t.pins c = true) :
    v.typecheckEquals c = some true := by
  induction t using CassDataType.forall_types generalizing v c with
  | step inner ih =>
    obtain ⟨a⟩ := v
    obtain ⟨b⟩ := c
    rw [isFullyTyped_mk] at full
    rw [pins_mk] at pinned
    rw [typecheckEquals_iff] at vt tc ⊢
    exact vt.trans tc full pinned (fun d e member f de ef typed pins => ih e member d f typed de ef pins)

theorem containerTypeCompatible_trans (dataType : Option CassDataType) (kind : CassValueType)
    (container : kind ≠ .varchar ∧ kind ≠ .text) (t c : CassDataType) (full : t.isFullyTyped = true)
    (accepted : containerTypeCompatible CassDataType.ops dataType kind t = some true)
    (tc : t.typecheckEquals c = some true) (pinned : t.pins c = true) :
    containerTypeCompatible CassDataType.ops dataType kind c = some true := by
  cases dataType with
  | some dt => exact CassDataType.typecheckEquals_trans t dt c full accepted tc pinned
  | none =>
    have is : t.inner.getValueType = kind := by
      simpa [containerTypeCompatible, CassDataType.ops] using accepted
    have also := eq_of_canonical_eq container (CassDataType.canonical_eq tc) is
    simp [containerTypeCompatible, CassDataType.ops, also]

/-- A value accepted as an element of the declared type is compatible with every
column the declared type is accepted for, if the declared type pins its UDTs. -/
theorem element_compatible_with_column (v : CassCqlValue CassDataType) (t : CassDataType)
    (c : ColumnType) (full : t.isFullyTyped = true)
    (accepted : v.isTypeCompatible CassDataType.ops t = some true)
    (declared : t.typecheckEquals (getColumnType c) = some true)
    (pinned : t.pins (getColumnType c) = true) :
    v.isTypeCompatible CassDataType.ops (getColumnType c) = some true := by
  cases v with
  | scalar s =>
    have kinds := CassDataType.canonical_eq declared
    have is : s.isTypeCompatible t.inner.getValueType = true := Option.some.inj accepted
    rw [← s.isTypeCompatible_canonical, kinds, s.isTypeCompatible_canonical] at is
    exact congrArg some is
  | vector dataType | userDefinedType dataType =>
    exact CassDataType.typecheckEquals_trans t dataType _ full accepted declared pinned
  | tuple dataType | list dataType | map dataType | set dataType =>
    exact containerTypeCompatible_trans dataType _ (by decide) t _ full accepted declared pinned

/- The value leaves its keyspace open; the declared type names it as the column does. -/
theorem element_compatible_with_column_udt :
    let field : String × CassDataType := ("x", .mk (.value .int))
    let v : CassCqlValue CassDataType := .userDefinedType
      (.mk (.udt { fieldTypes := [field], name := "t" })) [("x", some (.scalar (.int 7)))]
    let t : CassDataType := .mk (.udt { fieldTypes := [field], keyspace := "ks", name := "t" })
    let c : ColumnType := .userDefinedType [("x", .native .int)] "ks" "t" true
    t.pins (getColumnType c) = true ∧
      v.isTypeCompatible CassDataType.ops (getColumnType c) = some true := by
  intro field v t c
  refine ⟨by decide, ?_⟩
  exact element_compatible_with_column v t c (by decide) (by decide) (by decide) (by decide)

/-- A UDT with an extra field is accepted for a declared type without it, and that
type for a column whose extra field is of another type. -/
theorem element_not_compatible_with_column :
    let x : String × CassDataType := ("x", .mk (.value .int))
    let dataType : CassDataType := .mk (.udt { fieldTypes := [x, ("y", .mk (.value .varchar))] })
    let v : CassCqlValue CassDataType := .userDefinedType dataType
      [("x", some (.scalar (.int 7))), ("y", some (.scalar (.text "seven")))]
    let t : CassDataType := .mk (.udt { fieldTypes := [x] })
    let c : ColumnType := .userDefinedType [("x", .native .int), ("y", .native .int)] "ks" "t" true
    dataType.isFullyTyped = true ∧ t.isFullyTyped = true ∧
      v.isTypeCompatible CassDataType.ops t = some true ∧
      t.typecheckEquals (getColumnType c) = some true ∧
      v.isTypeCompatible CassDataType.ops (getColumnType c) = some false := by
  decide

end CppRsDriver.Types
