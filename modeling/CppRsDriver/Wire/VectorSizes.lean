import CppRsDriver.Types.Kinds
import CppRsDriver.Types.Layout
import CppRsDriver.Types.VectorElements
import CppRsDriver.Wire.RoundTrip
import CppRsDriver.Wire.Stable

/-! The elements of a vector as they are written and as the reader of a column expects them:
without a length where all values of the element type have the same size. The two sides
follow different data types, and the elements were checked when they were set. -/
namespace CppRsDriver.Wire

open CppRsDriver.Lib CppRsDriver.Types

/-- The values of the data type are all written with this many bytes. -/
inductive HasSize (sizes : NativeType → Option Nat) (h : Heap) : Nat → Nat → Prop where
  | value (d t native k) (is : h.inner d = .value t) (named : t.toNativeType = some native)
      (size : sizes native = some k) : HasSize sizes h d k
  | vector (d typ dimensions k) (is : h.inner d = .vector typ dimensions)
      (element : HasSize sizes h typ k) : HasSize sizes h d (k * dimensions.toNat)

/-- The innermost element type only names vectors. It is taken for any vector type, but no
value is accepted for it. -/
inductive Hollow (h : Heap) : Nat → Prop where
  | leaf (d) (is : h.inner d = .value .vector) : Hollow h d
  | vector (d typ dimensions) (is : h.inner d = .vector typ dimensions) (element : Hollow h typ) :
      Hollow h d

section Accepted
variable {h : Heap} {fuel a b : Nat}

theorem accepted_for_leaf {t : CassValueType} (is : h.inner b = .value t)
    (accepted : h.typecheckEquals fuel a b = some true) :
    ∃ t', h.inner a = .value t' ∧ t'.toNativeType = t.toNativeType ∧ (t = .vector → t' = .vector) := by
  obtain ⟨deeper, agrees⟩ := Heap.agrees_of_typecheckEquals accepted
  rw [is] at agrees
  generalize h.inner a = inner at agrees
  cases agrees with
  | value t' _ same =>
    have canonical := (valueTypesEqual_iff _ _).mp same
    refine ⟨t', rfl, toNativeType_of_canonical canonical, ?_⟩
    rintro rfl
    cases t' <;> first | rfl | cases same

theorem accepted_for_vector {typ : Nat} {dimensions : UInt16}
    (is : h.inner b = .vector typ dimensions) (accepted : h.typecheckEquals fuel a b = some true) :
    h.inner a = .value .vector ∨ ∃ typ' deeper, h.inner a = .vector typ' dimensions ∧
      h.typecheckEquals deeper typ' typ = some true := by
  obtain ⟨deeper, agrees⟩ := Heap.agrees_of_typecheckEquals accepted
  rw [is] at agrees
  generalize h.inner a = inner at agrees
  cases agrees with
  | value t' _ same =>
    left
    cases t' <;> first | rfl | cases same
  | vector typ' _ _ sub => exact .inr ⟨typ', deeper, rfl, sub⟩

end Accepted

section Sizes
variable {sizes : NativeType → Option Nat} {h h' : Heap} {b d k : Nat}

theorem HasSize.of_accepted (size : HasSize sizes h b k) : ∀ {fuel a : Nat},
    h.typecheckEquals fuel a b = some true → HasSize sizes h a k ∨ Hollow h a := by
  induction size with
  | value b t native k is named size =>
    intro fuel a accepted
    obtain ⟨t', content, same, -⟩ := accepted_for_leaf is accepted
    exact .inl (.value a t' native k content (same.trans named) size)
  | vector b typ dimensions k is element ih =>
    intro fuel a accepted
    rcases accepted_for_vector is accepted with leaf | ⟨typ', deeper, content, sub⟩
    · exact .inr (.leaf a leaf)
    · rcases ih sub with size' | hollow
      · exact .inl (.vector a typ' dimensions k content size')
      · exact .inr (.vector a typ' dimensions content hollow)

theorem Hollow.of_accepted (hollow : Hollow h b) : ∀ {fuel a : Nat},
    h.typecheckEquals fuel a b = some true → Hollow h a := by
  induction hollow with
  | leaf b is =>
    intro fuel a accepted
    obtain ⟨t', content, -, vector⟩ := accepted_for_leaf is accepted
    cases vector rfl
    exact .leaf a content
  | vector b typ dimensions is element ih =>
    intro fuel a accepted
    rcases accepted_for_vector is accepted with leaf | ⟨typ', deeper, content, sub⟩
    · exact .leaf a leaf
    · exact .vector a typ' dimensions content (ih sub)

theorem HasSize.variableLength (backward : h.VectorsBackward) (size : HasSize sizes h d k) :
    variableLength sizes h d = false := by
  induction size with
  | value d t native k is named size =>
    rw [variableLength_eq backward, is, CassDataTypeInner.usesVariableLengthWith, named]
    simp [size]
  | vector d typ dimensions k is element ih =>
    rw [variableLength_eq backward, is, CassDataTypeInner.usesVariableLengthWith]
    exact ih

/- Sizes depend on data types only that are never modified. -/

theorem HasSize.changes (changes : Heap.Changes h h') (size : HasSize sizes h d k) :
    HasSize sizes h' d k := by
  induction size with
  | value d t native k is named size =>
    have final : (h.inner d).final = true := by rw [is]; rfl
    exact .value d t native k ((changes.inner_eq (Heap.valid_of_final final) (.inl final)).trans is)
      named size
  | vector d typ dimensions k is element ih =>
    have final : (h.inner d).final = true := by rw [is]; rfl
    exact .vector d typ dimensions k
      ((changes.inner_eq (Heap.valid_of_final final) (.inl final)).trans is) ih

theorem HasSize.before (changes : Heap.Changes h h') (closed : h.Closed h.valid)
    (size : HasSize sizes h' d k) (valid : h.valid d) : HasSize sizes h d k := by
  induction size with
  | value d t native k is named size =>
    have same := changes.inner_eq valid (.inr (by rw [is]; rfl))
    exact .value d t native k (same.symm.trans is) named size
  | vector d typ dimensions k is element ih =>
    have same := changes.inner_eq valid (.inr (by rw [is]; rfl))
    have was := same.symm.trans is
    exact .vector d typ dimensions k was (ih (Heap.valid_element closed was))

theorem Hollow.before (changes : Heap.Changes h h') (closed : h.Closed h.valid)
    (hollow : Hollow h' d) (valid : h.valid d) : Hollow h d := by
  induction hollow with
  | leaf d is =>
    have same := changes.inner_eq valid (.inr (by rw [is]; rfl))
    exact .leaf d (same.symm.trans is)
  | vector d typ dimensions is element ih =>
    have same := changes.inner_eq valid (.inr (by rw [is]; rfl))
    have was := same.symm.trans is
    exact .vector d typ dimensions was (ih (Heap.valid_element closed was))

end Sizes

/-- The data type of a column: followed as deep as it goes it is what `get_column_type` makes
of the column's type. -/
def Spells (h : Heap) (typ : Nat) (c : ColumnType) : Prop :=
  ∃ part tree, h.Closed part ∧ h.Unfolds part tree ∧ part typ ∧ tree typ = getColumnType c

section Columns
variable {sizes : NativeType → Option Nat} {h : Heap} {typ : Nat} {c : ColumnType}

theorem Spells.of_trees (trees : List CassDataType)
    (describes : h.cells.map (fun inner => .mk (inner.mapSubtypes (trees.getD · (.mk (.custom ""))))) =
      trees) (is : trees.getD typ (.mk (.custom "")) = getColumnType c) : Spells h typ c := by
  refine ⟨fun _ => True, (trees.getD · (.mk (.custom ""))), fun _ _ _ _ => trivial, ?_, trivial, is⟩
  intro d _
  dsimp only
  conv_lhs => rw [← describes]
  rw [Heap.inner, List.getD_eq_getElem?_getD, List.getD_eq_getElem?_getD, List.getElem?_map]
  cases h.cells[d]? with
  | none => rfl
  | some inner => rfl

theorem Spells.kind (spells : Spells h typ c) :
    (h.inner typ).getValueType = (getColumnType c).inner.getValueType := by
  obtain ⟨part, tree, -, unfolds, inPart, is⟩ := spells
  rw [← is, unfolds typ inPart, CassDataType.inner, CassDataTypeInner.getValueType_mapSubtypes]

theorem Spells.native {t : NativeType} (spells : Spells h typ (.native t)) :
    h.inner typ = .value t.toValueType := by
  obtain ⟨part, tree, -, unfolds, inPart, is⟩ := spells
  rw [unfolds typ inPart, getColumnType] at is
  have layer := CassDataType.mk.inj is
  cases content : h.inner typ <;> rw [content] at layer <;>
    first | contradiction | exact congrArg _ (CassDataTypeInner.value.inj layer)

theorem Spells.vector {dimensions : UInt16} (spells : Spells h typ (.vector c dimensions)) :
    ∃ element, h.inner typ = .vector element dimensions ∧ Spells h element c := by
  obtain ⟨part, tree, closed, unfolds, inPart, is⟩ := spells
  rw [unfolds typ inPart, getColumnType] at is
  have layer := CassDataType.mk.inj is
  cases content : h.inner typ with
  | vector element dimensions' =>
    rw [content] at layer
    obtain ⟨same, rfl⟩ := CassDataTypeInner.vector.inj layer
    have child : part element := by
      apply closed typ inPart
      rw [content]
      exact List.mem_singleton_self element
    exact ⟨element, rfl, part, tree, closed, unfolds, child, same⟩
  | _ =>
    rw [content] at layer
    contradiction

theorem Spells.kind_of_accepted {depth : Nat} {v : CassCqlValue Nat} (spells : Spells h typ c)
    (container : ∀ t, c ≠ .native t)
    (kinds : ∀ d kind, v.dataType = some d → v.kind = some kind → (h.inner d).Describes kind)
    (accepted : v.isTypeCompatible (h.ops depth) typ = some true) :
    v.kind = some (getColumnType c).inner.getValueType := by
  cases kind : v.kind with
  | some kind' =>
    rw [← spells.kind]
    exact congrArg some
      (kind_of_compatible kind (fun d carries => kinds d kind' carries kind) accepted).symm
  | none =>
    cases v with
    | scalar s =>
      have compatible : s.isTypeCompatible (h.inner typ).getValueType = true :=
        Option.some.inj accepted
      rw [spells.kind] at compatible
      cases c with
      | native t => exact absurd rfl (container t)
      | _ => cases s <;> cases compatible
    | _ => cases kind

theorem Spells.hasSize : ∀ {c : ColumnType} {typ k : Nat}, Spells h typ c →
    fixedSize sizes c = some k → HasSize sizes h typ k := by
  intro c
  induction c using fixedSize.induct with
  | case1 t =>
    intro typ k spells fixed
    exact .value typ _ t k spells.native (toNativeType_toValueType t) fixed
  | case2 c dimensions ih =>
    intro typ k spells fixed
    obtain ⟨element, is, sub⟩ := spells.vector
    obtain ⟨size, elementSize, rfl⟩ := Option.map_eq_some_iff.mp fixed
    exact .vector typ element dimensions size is (ih sub elementSize)
  | case3 c notNative notVector =>
    intro typ k spells fixed
    cases c <;> first | contradiction | exact absurd rfl (notNative _) | exact absurd rfl (notVector _ _)

theorem Spells.variableLength (backward : h.VectorsBackward) : ∀ {c : ColumnType} {typ fuel d : Nat},
    Spells h typ c → fixedSize sizes c = none → h.typecheckEquals fuel d typ = some true →
      variableLength sizes h d = true := by
  intro c
  induction c using fixedSize.induct with
  | case1 t =>
    intro typ fuel d spells fixed accepted
    obtain ⟨t', content, same, -⟩ := accepted_for_leaf spells.native accepted
    rw [variableLength_eq backward, content, CassDataTypeInner.usesVariableLengthWith, same,
      toNativeType_toValueType, Option.any_some]
    rw [fixedSize] at fixed
    rw [fixed]
    rfl
  | case2 c dimensions ih =>
    intro typ fuel d spells fixed accepted
    obtain ⟨element, is, sub⟩ := spells.vector
    rw [variableLength_eq backward]
    rcases accepted_for_vector is accepted with leaf | ⟨d', deeper, content, checked⟩
    · rw [leaf]
      rfl
    · rw [content]
      exact ih sub (Option.map_eq_none_iff.mp fixed) checked
  | case3 c notNative notVector =>
    intro typ fuel d spells fixed accepted
    have kinds : (h.inner typ).getValueType.toNativeType = none ∧
        (h.inner typ).getValueType ≠ .vector := by
      rw [spells.kind]
      cases c with
      | native t => exact absurd rfl (notNative t)
      | vector c dimensions => exact absurd rfl (notVector c dimensions)
      | _ => exact ⟨rfl, by rintro ⟨⟩⟩
    obtain ⟨deeper, agrees⟩ := Heap.agrees_of_typecheckEquals accepted
    rw [variableLength_eq backward]
    generalize h.inner d = inner, h.inner typ = other at agrees kinds ⊢
    cases agrees with
    | value t' _ same =>
      have native := toNativeType_of_canonical ((valueTypesEqual_iff _ _).mp same)
      rw [CassDataTypeInner.usesVariableLengthWith, native, kinds.1]
      rfl
    | vector => exact absurd rfl kinds.2
    | _ => rfl

end Columns

section Elements
variable {sizes : NativeType → Option Nat} {h h' : Heap} {e k : Nat} {w : CassCqlValue Nat}

/-- However the value is written, it takes this many bytes. The writer only has to leave out
the lengths where the sizes are known. -/
def Occupies (sizes : NativeType → Option Nat) (h : Heap) (w : CassCqlValue Nat) (k : Nat) : Prop :=
  ∀ f : Nat → Bool, (∀ d size, HasSize sizes h d size → f d = false) →
    ∀ bytes, content f w = .ok bytes → bytes.length = k

/-- The value is written as an element of this type has to be. -/
structure Suits (sizes : NativeType → Option Nat) (h : Heap) (e : Nat) (w : CassCqlValue Nat) :
    Prop where
  sized : ∀ k, HasSize sizes h e k → Occupies sizes h w k
  hollow : Hollow h e → ∀ f bytes, content f w ≠ .ok bytes

theorem Suits.changes (suits : Suits sizes h e w) (changes : Heap.Changes h h')
    (closed : h.Closed h.valid) (valid : h.valid e) : Suits sizes h' e w where
  sized k size f respects bytes written :=
    suits.sized k (size.before changes closed valid) f
      (fun d size before => respects d size (before.changes changes)) bytes written
  hollow hollow := suits.hollow (hollow.before changes closed valid)

theorem content_vector_ne {f : Nat → Bool} {d : Nat} {values : List (Option (CassCqlValue Nat))}
    (nonempty : values ≠ []) (never : ∀ w, some w ∈ values → ∀ bytes, content f w ≠ .ok bytes)
    (bytes : List UInt8) : content f (.vector d e values) ≠ .ok bytes := by
  intro written
  rw [content_vector] at written
  obtain ⟨chunks, -, wrote⟩ := writeEach_ok written
  cases wrote with
  | nil => exact nonempty rfl
  | cons head tail =>
    obtain ⟨member, -, i, wrote⟩ := head
    obtain ⟨w, content, rfl, inner, -⟩ := vectorElement_eq_ok wrote
    exact never w member content inner

/-- A vector as the setters leave it: a slot for each dimension, and elements that suit. -/
structure Filled (sizes : NativeType → Option Nat) (h : Heap) (d e : Nat)
    (values : List (Option (CassCqlValue Nat))) : Prop where
  slots : ∃ dimensions, h.inner d = .vector e dimensions ∧ values.length = dimensions.toNat ∧
    dimensions ≠ 0
  suit : ∀ w, some w ∈ values → Suits sizes h e w

section Filled
variable {d : Nat} {values : List (Option (CassCqlValue Nat))}

theorem Filled.occupies (filled : Filled sizes h d e values) (size : HasSize sizes h e k) :
    Occupies sizes h (.vector d e values) (k * values.length) := by
  intro f respects bytes written
  refine length_content_vector (respects e k size) ?_ written
  intro w member bytes inner
  exact (filled.suit w member).sized k size f respects bytes inner

theorem Filled.unwritable (filled : Filled sizes h d e values) (hollow : Hollow h e) (f : Nat → Bool)
    (bytes : List UInt8) : content f (.vector d e values) ≠ .ok bytes := by
  apply content_vector_ne
  · rintro rfl
    obtain ⟨dimensions, -, length, nonzero⟩ := filled.slots
    exact nonzero (UInt16.toNat_inj.mp length.symm)
  · exact fun w member => (filled.suit w member).hollow hollow f

end Filled

theorem compatible_native {s : CassScalar} {t : CassValueType} {native : NativeType}
    (named : t.toNativeType = some native) (compatible : s.isTypeCompatible t = true) :
    s.isTypeCompatible native.toValueType = true := by
  have same : t.canonical = native.toValueType.canonical := by
    cases t <;> cases named <;> rfl
  rwa [← s.isTypeCompatible_canonical, ← same, s.isTypeCompatible_canonical]

theorem kind_not_native {kind : CassValueType} (kinds : w.kind = some kind) :
    kind.toNativeType = none := by
  cases w <;> cases kinds <;> rfl

theorem vector_of_compatible {fuel : Nat}
    (kinds : ∀ d kind, w.dataType = some d → w.kind = some kind → (h.inner d).Describes kind)
    (vector : (h.inner e).getValueType = .vector)
    (accepted : w.isTypeCompatible (h.ops fuel) e = some true) :
    ∃ d e' values, w = .vector d e' values ∧ h.typecheckEquals fuel d e = some true := by
  have kind (kind : CassValueType) (is : w.kind = some kind) : CassValueType.vector = kind := by
    rw [← vector]
    exact kind_of_compatible is (fun d carries => kinds d kind carries is) accepted
  cases w with
  | scalar s =>
    have compatible : s.isTypeCompatible (h.inner e).getValueType = true := Option.some.inj accepted
    rw [vector] at compatible
    cases s <;> cases compatible
  | vector d e' values => exact ⟨d, e', values, rfl, accepted⟩
  | _ => cases kind _ rfl

theorem scalar_of_compatible {fuel : Nat} {t : CassValueType} {native : NativeType}
    (kinds : ∀ d kind, w.dataType = some d → w.kind = some kind → (h.inner d).Describes kind)
    (is : h.inner e = .value t) (named : t.toNativeType = some native)
    (accepted : w.isTypeCompatible (h.ops fuel) e = some true) :
    ∃ s, w = .scalar s ∧ s.isTypeCompatible native.toValueType = true := by
  cases kind : w.kind with
  | some kind' =>
    have same := kind_of_compatible kind (fun d carries => kinds d kind' carries kind) accepted
    rw [is] at same
    have none := kind_not_native kind
    rw [← same, CassDataTypeInner.getValueType, named] at none
    cases none
  | none =>
    cases w with
    | scalar s =>
      have compatible : s.isTypeCompatible (h.inner e).getValueType = true := Option.some.inj accepted
      rw [is] at compatible
      exact ⟨s, rfl, compatible_native named compatible⟩
    | _ => cases kind

section Compatible
variable {fuel : Nat}
  (kinds : ∀ d kind, w.dataType = some d → w.kind = some kind → (h.inner d).Describes kind)
  (filled : ∀ d e values, w = .vector d e values → Filled sizes h d e values)
  (accepted : w.isTypeCompatible (h.ops fuel) e = some true)

include kinds filled accepted

theorem filled_of_compatible {typ : Nat} {dimensions : UInt16}
    (is : h.inner e = .vector typ dimensions) :
    ∃ d e' values deeper, w = .vector d e' values ∧ Filled sizes h d e' values ∧
      values.length = dimensions.toNat ∧ h.typecheckEquals deeper e' typ = some true := by
  obtain ⟨d, e', values, rfl, checked⟩ := vector_of_compatible kinds (by rw [is]; rfl) accepted
  have fills := filled d e' values rfl
  obtain ⟨dimensions', inner, length, -⟩ := fills.slots
  rcases accepted_for_vector is checked with leaf | ⟨typ', deeper, content, sub⟩
  · rw [leaf] at inner
    cases inner
  · rw [content] at inner
    cases inner
    exact ⟨d, e', values, deeper, rfl, fills, length, sub⟩

theorem suits_of_compatible (standard : ∀ t k, sizes t = some k → standardSize t = some k) :
    Suits sizes h e w where
  sized k size := by
    cases size with
    | value _ t native _ is named size =>
      intro f respects bytes written
      obtain ⟨s, rfl, compatible⟩ := scalar_of_compatible kinds is named accepted
      cases Except.ok.inj written
      exact length_scalarBytes s native k compatible (standard native k size)
    | vector _ typ dimensions size is element =>
      obtain ⟨d, e', values, deeper, rfl, fills, length, sub⟩ :=
        filled_of_compatible kinds filled accepted is
      rcases element.of_accepted sub with size | hollow
      · rw [← length]
        exact fills.occupies size
      · exact fun f _ bytes written => absurd written (fills.unwritable hollow f bytes)
  hollow hollow f bytes := by
    cases hollow with
    | leaf _ is =>
      obtain ⟨d, e', values, rfl, checked⟩ := vector_of_compatible kinds (by rw [is]; rfl) accepted
      obtain ⟨t, content, -, -⟩ := accepted_for_leaf is checked
      obtain ⟨dimensions, inner, -, -⟩ := (filled d e' values rfl).slots
      rw [content] at inner
      cases inner
    | vector _ typ dimensions is element =>
      obtain ⟨d, e', values, deeper, rfl, fills, -, sub⟩ :=
        filled_of_compatible kinds filled accepted is
      exact fills.unwritable (element.of_accepted sub) f bytes

end Compatible

end Elements

section Runs
variable {sizes : NativeType → Option Nat} {fuel : Nat} {s t : State}

/-- The elements of all vectors suit their element types. -/
structure Fitted (sizes : NativeType → Option Nat) (s : State) : Prop extends s.Kinded where
  suit : ∀ v, .vector v ∈ s.objects → ∀ w, some w ∈ v.items → Suits sizes s.heap v.elementType w

theorem Fitted.filled (fitted : Fitted sizes s) {argument : Argument} {d e : Nat}
    {values : List (Option (CassCqlValue Nat))}
    (is : argumentOf (s.heap.ops fuel) s.objects argument = some (.ok (some (.vector d e values)))) :
    Filled sizes s.heap d e values := by
  rcases argumentOf_kind is with ⟨sc, scalar⟩ | ⟨object, member, -, -, vector⟩
  · cases scalar
  · cases vector d e values rfl
    obtain ⟨dimensions, inner, length⟩ := (fitted.matched _ member).slots _ rfl
    exact ⟨⟨dimensions, inner, length, fitted.nonzero d e dimensions inner⟩, fitted.suit _ member⟩

theorem step_fitted (standard : ∀ t k, sizes t = some k → standardSize t = some k)
    (fitted : Fitted sizes s) {call : Call} (stepped : step fuel s call = some t) :
    Fitted sizes t where
  toKinded := step_kinded fitted.toKinded stepped
  suit v member w inside := by
    cases step_origin stepped _ member with
    | kept _ old =>
      exact (fitted.suit v old w inside).changes (step_changes fitted.closed stepped) fitted.closed
        (fitted.refers _ old _ (.elementType _ _ rfl))
    | created _ heap empty matched =>
      have value : w ∈ (ApiObject.vector v).values := by
        simpa [ApiObject.values] using inside
      rw [empty] at value
      cases value
    | set setter source value code _ argument heap old is called =>
      rw [heap]
      have kinds := (applySetter_writes called).kind
      cases source with
      | vector v' =>
        rcases applySetter_vector called with same | ⟨index, w', rfl, compatible, same⟩
        · cases same
          exact fitted.suit v old w inside
        · cases same
          rcases List.mem_or_eq_of_mem_set inside with before | new
          · exact fitted.suit v' old w before
          · cases Option.some.inj new
            refine suits_of_compatible (fun d kind => fitted.argument is) ?_ compatible standard
            rintro d e values rfl
            exact fitted.filled is
      | collection c =>
        obtain ⟨collectionType, dataType, items⟩ := c
        cases collectionType <;> cases kinds
      | _ => cases kinds

theorem run_fitted (standard : ∀ t k, sizes t = some k → standardSize t = some k) {calls : List Call}
    (ran : run (step fuel) {} calls = some s) : Fitted sizes s := by
  have initial : Fitted sizes ({} : State) := ⟨empty_kinded, fun v member => (by cases member)⟩
  exact run_invariant (fun _ _ _ fitted stepped => step_fitted standard fitted stepped) initial ran

/-- An element of a vector on the wire: its bytes, with their number in front unless they are
all of one size. -/
def vectorChunk (size : Option Nat) (bytes : List UInt8) : List UInt8 :=
  if size.isNone then unsignedVintEncode (UInt64.ofNat bytes.length) ++ bytes else bytes

theorem length_vectorChunk_le (size : Option Nat) (bytes : List UInt8) :
    bytes.length ≤ (vectorChunk size bytes).length := by
  unfold vectorChunk
  split
  · rw [List.length_append]
    omega
  · exact Nat.le_refl _

theorem length_lt_of_vectorChunk {size : Option Nat} {bytes : List UInt8} {chunks : List (List UInt8)}
    {bound : Nat} (member : vectorChunk size bytes ∈ chunks) (small : chunks.flatten.length < bound) :
    bytes.length < bound :=
  calc bytes.length ≤ (vectorChunk size bytes).length := length_vectorChunk_le size bytes
    _ ≤ chunks.flatten.length := length_le_flatten member
    _ < bound := small

/-- A vector that is accepted for a vector column has as many elements as the column wants,
and from then on they are written as the column's reader expects them. -/
theorem accepted_vector_written (fitted : Fitted sizes s) (backward : s.heap.VectorsBackward)
    {h h' : Heap} (changes : Heap.Changes s.heap h) (later : Heap.Changes h h') {argument : Argument}
    {d e typ depth : Nat} {values : List (Option (CassCqlValue Nat))} {c : ColumnType}
    {dimensions : UInt16} {bytes : List UInt8}
    (is : argumentOf (s.heap.ops fuel) s.objects argument = some (.ok (some (.vector d e values))))
    (spells : Spells h typ (.vector c dimensions))
    (accepted : h.typecheckEquals depth d typ = some true)
    (written : content (variableLength sizes h') (.vector d e values) = .ok bytes) :
    values.length = dimensions.toNat ∧
      ∃ chunks, bytes = (chunks.map (vectorChunk (fixedSize sizes c))).flatten ∧
        List.Forall₂ (fun item chunk => ∃ w, item = some w ∧
          content (variableLength sizes h') w = .ok chunk ∧
          ∀ k, fixedSize sizes c = some k → chunk.length = k) values chunks := by
  have filled := fitted.filled is
  obtain ⟨dimensions', inner, length, nonzero⟩ := filled.slots
  have valid : s.heap.valid e := Heap.valid_element fitted.closed inner
  have suits (w : CassCqlValue Nat) (member : some w ∈ values) : Suits sizes h e w :=
    (filled.suit w member).changes changes fitted.closed valid
  have kept : h.inner d = .vector e dimensions' :=
    (changes.inner_eq (Heap.valid_of_vector inner) (.inl (by rw [inner]; rfl))).trans inner
  have fills : Filled sizes h d e values := ⟨⟨dimensions', kept, length, nonzero⟩, suits⟩
  have backwardThen := changes.vectorsBackward backward
  have same : variableLength sizes h' e = variableLength sizes h e :=
    (variableLength_changes (changes.trans later) fitted.closed backward e valid).trans
      (variableLength_changes changes fitted.closed backward e valid).symm
  obtain ⟨element, column, sub⟩ := spells.vector
  rcases accepted_for_vector column accepted with leaf | ⟨e', deeper, content, checked⟩
  · rw [leaf] at kept
    cases kept
  · rw [content] at kept
    cases kept
    have encoding : variableLength sizes h e = (fixedSize sizes c).isNone ∧
        ∀ k, fixedSize sizes c = some k → HasSize sizes h e k := by
      cases fixed : fixedSize sizes c with
      | none => exact ⟨sub.variableLength backwardThen fixed checked, nofun⟩
      | some k =>
        rcases (sub.hasSize fixed).of_accepted checked with size | hollow
        · refine ⟨size.variableLength backwardThen, ?_⟩
          rintro k' ⟨⟩
          exact size
        · exact absurd written (fills.unwritable hollow _ bytes)
    refine ⟨length, ?_⟩
    rw [content_vector, same, encoding.1] at written
    refine writeEach_pieces ?_ written
    intro i item member chunk wrote
    obtain ⟨w, bytes, rfl, inner, is⟩ := vectorElement_eq_ok wrote
    refine ⟨bytes, ⟨w, rfl, inner, fun k fixed => ?_⟩, is⟩
    exact (suits w member).sized k (encoding.2 k fixed) _
      (fun d size known => (known.changes later).variableLength
        (later.vectorsBackward backwardThen)) bytes inner

end Runs

end CppRsDriver.Wire
