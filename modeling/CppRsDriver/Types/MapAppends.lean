import CppRsDriver.Types.WellTyped

/-! Appends to a map collection. Keys and values come in turn; a value that is refused
leaves the turn where it was. -/
namespace CppRsDriver.Types

section Appends
variable {D : Type} (types : TypeOps D)

def MapDataType.keyType : MapDataType D → Option D
  | .untyped => none
  | .key k | .keyAndValue k _ => some k

def MapDataType.valueType : MapDataType D → Option D
  | .untyped | .key _ => none
  | .keyAndValue _ v => some v

/-- The type declared for a position: keys are at the even ones. -/
def MapDataType.declaredAt (mapType : MapDataType D) (position : Nat) : Option D :=
  if position % 2 = 0 then mapType.keyType else mapType.valueType

/-- A new map collection, without a data type or with one. -/
inductive NewMap : CassCollection D → MapDataType D → Prop where
  | untyped : NewMap (CassCollection.new .map) .untyped
  | typed (dataType mapType frozen collection)
      (inner : types.getUnchecked dataType = .map mapType frozen)
      (created : CassCollection.newFromDataType types dataType = some collection) :
      NewMap collection mapType

/-- The codes of some appends and the collection they leave. -/
def CassCollection.appendAll (collection : CassCollection D) :
    List (CassCqlValue D) → Option (List CassError × CassCollection D)
  | [] => some ([], collection)
  | v :: values => do
    let (code, next) ← collection.appendCqlValue types (some v)
    let (codes, last) ← next.appendAll values
    return (code :: codes, last)

/-- A map collection under construction. -/
structure IsMap (collection : CassCollection D) (mapType : MapDataType D) : Prop where
  kind : collection.collectionType = .map
  declared : (collection.dataType = none ∧ mapType = .untyped) ∨
    ∃ dataType frozen, collection.dataType = some dataType ∧
      types.getUnchecked dataType = .map mapType frozen

variable {types} {collection after : CassCollection D} {mapType : MapDataType D}
  {values : List (CassCqlValue D)} {codes : List CassError}

theorem NewMap.isMap (new : NewMap types collection mapType) :
    IsMap types collection mapType ∧ collection.items = [] := by
  cases new with
  | untyped => exact ⟨⟨rfl, .inl ⟨rfl, rfl⟩⟩, rfl⟩
  | typed dataType mapType frozen collection inner created =>
    simp only [CassCollection.newFromDataType, inner, Option.some.injEq] at created
    subst created
    exact ⟨⟨rfl, .inr ⟨dataType, frozen, rfl, inner⟩⟩, rfl⟩

theorem subtypeAt_map (mapType : MapDataType D) (frozen : Bool) (position : Nat) :
    CassCollection.subtypeAt (.map mapType frozen) position = .ok (mapType.declaredAt position) := by
  cases mapType with
  | untyped =>
    unfold MapDataType.declaredAt
    split <;> rfl
  | key k | keyAndValue k v => rfl

/-- One append: checked against the type of the position it would take, if there is one. -/
theorem IsMap.append_eq (map : IsMap types collection mapType) (v : CassCqlValue D) :
    collection.appendCqlValue types (some v) =
      match mapType.declaredAt collection.items.length with
      | none => some (.ok, { collection with items := collection.items ++ [v] })
      | some subtype => (v.isTypeCompatible types subtype).map (fun fits =>
          if fits then (.ok, { collection with items := collection.items ++ [v] })
          else (.libInvalidValueType, collection)) := by
  have check : collection.typecheckOnAppend types (some v) =
      match mapType.declaredAt collection.items.length with
      | none => some .ok
      | some subtype => (v.isTypeCompatible types subtype).map (fun fits =>
          if fits then .ok else .libInvalidValueType) := by
    rcases map.declared with ⟨none, rfl⟩ | ⟨dataType, frozen, is, inner⟩
    · have unchecked : (MapDataType.untyped : MapDataType D).declaredAt collection.items.length =
          Option.none := by
        unfold MapDataType.declaredAt
        split <;> rfl
      simp only [CassCollection.typecheckOnAppend, none, unchecked]
    · simp only [CassCollection.typecheckOnAppend, is, inner, subtypeAt_map]
      cases mapType.declaredAt collection.items.length <;> rfl
  rw [CassCollection.appendCqlValue, check]
  cases mapType.declaredAt collection.items.length with
  | none => rfl
  | some subtype =>
    dsimp only
    cases v.isTypeCompatible types subtype with
    | none => rfl
    | some fits => cases fits <;> rfl

theorem IsMap.append_cases (map : IsMap types collection mapType) {v : CassCqlValue D}
    {code : CassError} {next : CassCollection D}
    (called : collection.appendCqlValue types (some v) = some (code, next)) :
    (code = .ok ∧ next = { collection with items := collection.items ++ [v] } ∧
      ∀ subtype, mapType.declaredAt collection.items.length = some subtype →
        v.isTypeCompatible types subtype = some true) ∨
    (code = .libInvalidValueType ∧ next = collection ∧
      ∃ subtype, mapType.declaredAt collection.items.length = some subtype ∧
        v.isTypeCompatible types subtype = some false) := by
  rw [map.append_eq] at called
  cases declared : mapType.declaredAt collection.items.length with
  | none =>
    rw [declared] at called
    cases called
    exact .inl ⟨rfl, rfl, nofun⟩
  | some subtype =>
    rw [declared] at called
    obtain ⟨fits, checked, is⟩ := Option.map_eq_some_iff.mp called
    cases fits with
    | true =>
      cases is
      refine .inl ⟨rfl, rfl, ?_⟩
      rintro _ ⟨⟩
      exact checked
    | false =>
      cases is
      exact .inr ⟨rfl, rfl, subtype, rfl, checked⟩

theorem IsMap.push (map : IsMap types collection mapType) (v : CassCqlValue D) :
    IsMap types { collection with items := collection.items ++ [v] } mapType :=
  ⟨map.kind, map.declared⟩

theorem IsMap.appendAll_returns (map : IsMap types collection mapType)
    (returns : ∀ v ∈ values, ∀ position subtype, mapType.declaredAt position = some subtype →
      ∃ fits, v.isTypeCompatible types subtype = some fits) :
    ∃ codes after, collection.appendAll types values = some (codes, after) := by
  induction values generalizing collection with
  | nil => exact ⟨[], collection, rfl⟩
  | cons v values ih =>
    have appended : ∃ code next, collection.appendCqlValue types (some v) = some (code, next) := by
      rw [map.append_eq]
      cases declared : mapType.declaredAt collection.items.length with
      | none => exact ⟨_, _, rfl⟩
      | some subtype =>
        obtain ⟨fits, checked⟩ := returns v List.mem_cons_self _ subtype declared
        simp only [checked, Option.map_some]
        cases fits <;> exact ⟨_, _, rfl⟩
    obtain ⟨code, next, called⟩ := appended
    have nextMap : IsMap types next mapType := by
      rcases map.append_cases called with ⟨-, rfl, -⟩ | ⟨-, rfl, -⟩
      · exact map.push v
      · exact map
    obtain ⟨codes, after, rest⟩ := ih nextMap
      (fun w member => returns w (List.mem_cons_of_mem _ member))
    refine ⟨code :: codes, after, ?_⟩
    simp only [CassCollection.appendAll, called, rest, Option.bind_eq_bind, Option.bind_some]
    rfl

theorem appendAll_cons {v : CassCqlValue D}
    (ran : collection.appendAll types (v :: values) = some (codes, after)) :
    ∃ code next rest, collection.appendCqlValue types (some v) = some (code, next) ∧
      next.appendAll types values = some (rest, after) ∧ codes = code :: rest := by
  obtain ⟨⟨code, next⟩, called, ran⟩ := Option.bind_eq_some_iff.mp ran
  obtain ⟨⟨rest, last⟩, more, is⟩ := Option.bind_eq_some_iff.mp ran
  cases Option.some.inj is
  exact ⟨code, next, rest, called, more, rfl⟩

theorem appendAll_length (ran : collection.appendAll types values = some (codes, after)) :
    codes.length = values.length := by
  induction values generalizing collection codes with
  | nil =>
    cases ran
    rfl
  | cons v values ih =>
    obtain ⟨code, next, rest, -, more, rfl⟩ := appendAll_cons ran
    rw [List.length_cons, List.length_cons, ih more]

theorem IsMap.appendAll_items (map : IsMap types collection mapType)
    (ran : collection.appendAll types values = some (codes, after)) :
    after = { collection with items := collection.items ++ accepted values codes } := by
  induction values generalizing collection codes with
  | nil =>
    cases ran
    rw [accepted, List.zip_nil_left]
    exact congrArg (CassCollection.mk _ _) (List.append_nil _).symm
  | cons v values ih =>
    obtain ⟨code, next, rest, called, more, rfl⟩ := appendAll_cons ran
    rcases map.append_cases called with ⟨rfl, rfl, -⟩ | ⟨rfl, rfl, -⟩
    · rw [ih (map.push v) more, accepted_ok, List.append_assoc]
      rfl
    · rw [ih map more, accepted_refused v values rest (by decide)]

theorem IsMap.appendAll_fits (map : IsMap types collection mapType)
    (ran : collection.appendAll types values = some (codes, after))
    (fits : ∀ i w subtype, collection.items[i]? = some w → mapType.declaredAt i = some subtype →
      w.isTypeCompatible types subtype = some true) :
    ∀ i w subtype, after.items[i]? = some w → mapType.declaredAt i = some subtype →
      w.isTypeCompatible types subtype = some true := by
  induction values generalizing collection codes with
  | nil =>
    cases ran
    exact fits
  | cons v values ih =>
    obtain ⟨code, next, rest, called, more, rfl⟩ := appendAll_cons ran
    rcases map.append_cases called with ⟨rfl, rfl, compatible⟩ | ⟨rfl, rfl, -⟩
    · refine ih (map.push v) more ?_
      intro i w subtype found declared
      rcases Lib.getElem?_snoc found with old | ⟨rfl, rfl⟩
      · exact fits i w subtype old declared
      · exact compatible subtype declared
    · exact ih map more fits

theorem IsMap.appendAll_refused (map : IsMap types collection mapType)
    (ran : collection.appendAll types values = some (codes, after)) {i : Nat} {code : CassError}
    (at' : codes[i]? = some code) (refused : code ≠ .ok) :
    ∃ v subtype, values[i]? = some v ∧
      mapType.declaredAt
        (collection.items.length + (accepted (values.take i) codes).length) = some subtype ∧
      v.isTypeCompatible types subtype = some false := by
  induction values generalizing collection codes i with
  | nil =>
    cases ran
    contradiction
  | cons v values ih =>
    obtain ⟨first, next, rest, called, more, rfl⟩ := appendAll_cons ran
    cases i with
    | zero =>
      cases Option.some.inj at'
      rcases map.append_cases called with ⟨is, -, -⟩ | ⟨-, -, subtype, declared, mismatch⟩
      · exact absurd is refused
      · exact ⟨v, subtype, rfl, declared, mismatch⟩
    | succ i =>
      rw [List.getElem?_cons_succ] at at'
      rw [List.take_succ_cons, List.getElem?_cons_succ]
      rcases map.append_cases called with ⟨rfl, rfl, -⟩ | ⟨rfl, rfl, -⟩
      · obtain ⟨w, subtype, found, declared, mismatch⟩ := ih (map.push v) more at'
        refine ⟨w, subtype, found, ?_, mismatch⟩
        rw [accepted_ok, List.length_cons, ← declared, List.length_append,
          List.length_singleton]
        congr 1
        omega
      · rw [accepted_refused v _ rest (by decide)]
        exact ih map more at'

theorem pairs_returns_iff (items : List (CassCqlValue D)) :
    (∃ grouped, CassCollection.pairs items = some grouped) ↔ items.length % 2 = 0 := by
  induction items using CassCollection.pairs.induct with
  | case1 => exact ⟨fun _ => rfl, fun _ => ⟨[], rfl⟩⟩
  | case2 item =>
    constructor
    · rintro ⟨grouped, is⟩
      cases is
    · intro even
      exact absurd even Nat.one_ne_zero
  | case3 key value rest ih =>
    have parity : (key :: value :: rest).length % 2 = rest.length % 2 := by
      simp only [List.length_cons]
      omega
    rw [parity, ← ih]
    constructor
    · rintro ⟨grouped, is⟩
      obtain ⟨tail, more, -⟩ := Option.map_eq_some_iff.mp is
      exact ⟨tail, more⟩
    · rintro ⟨tail, more⟩
      exact ⟨(key, value) :: tail, by rw [CassCollection.pairs, more]; rfl⟩

theorem toCqlValue_map (kind : collection.collectionType = .map) (v : CassCqlValue D) :
    collection.toCqlValue = .ok v ↔
      ∃ grouped, CassCollection.pairs collection.items = some grouped ∧
        v = .map collection.dataType grouped := by
  rw [CassCollection.toCqlValue, kind]
  cases CassCollection.pairs collection.items with
  | none => simp
  | some grouped => simp [eq_comm]

theorem pairs_at {items : List (CassCqlValue D)}
    {grouped : List (CassCqlValue D × CassCqlValue D)}
    (is : CassCollection.pairs items = some grouped) {pair : CassCqlValue D × CassCqlValue D}
    (member : pair ∈ grouped) :
    ∃ i, items[2 * i]? = some pair.1 ∧ items[2 * i + 1]? = some pair.2 := by
  induction items using CassCollection.pairs.induct generalizing grouped with
  | case1 =>
    cases is
    exact absurd member List.not_mem_nil
  | case2 => cases is
  | case3 key value rest ih =>
    obtain ⟨tail, more, rfl⟩ := Option.map_eq_some_iff.mp is
    rcases List.mem_cons.mp member with rfl | inTail
    · exact ⟨0, rfl, rfl⟩
    · obtain ⟨i, first, second⟩ := ih more inTail
      exact ⟨i + 1, first, second⟩

variable (types) in
/-- The map that some appends make, and why those that were refused were. -/
structure PairsAppended (mapType : MapDataType D) (values : List (CassCqlValue D))
    (codes : List CassError) (after : CassCollection D) : Prop where
  answered : codes.length = values.length
  converts : (∃ v, after.toCqlValue = .ok v) ↔ (accepted values codes).length % 2 = 0
  paired : ∀ v, after.toCqlValue = .ok v → ∃ grouped, v = .map after.dataType grouped ∧
    unpair grouped = accepted values codes ∧
    ∀ pair ∈ grouped,
      (∀ k, mapType.keyType = some k → pair.1.isTypeCompatible types k = some true) ∧
      (∀ d, mapType.valueType = some d → pair.2.isTypeCompatible types d = some true)
  refused : ∀ (i : Nat) code, codes[i]? = some code → code ≠ .ok → ∃ v subtype,
    values[i]? = some v ∧
    mapType.declaredAt (accepted (values.take i) codes).length = some subtype ∧
    v.isTypeCompatible types subtype = some false

theorem map_pairs_appended (new : NewMap types collection mapType) :
    ((∀ v ∈ values, ∀ position subtype, mapType.declaredAt position = some subtype →
        ∃ fits, v.isTypeCompatible types subtype = some fits) →
      ∃ codes after, collection.appendAll types values = some (codes, after)) ∧
    ∀ codes after, collection.appendAll types values = some (codes, after) →
      PairsAppended types mapType values codes after := by
  obtain ⟨map, empty⟩ := new.isMap
  refine ⟨map.appendAll_returns, ?_⟩
  intro codes after ran
  have items : after = { collection with items := accepted values codes } := by
    rw [map.appendAll_items ran, empty]
    rfl
  have kind : after.collectionType = .map := by rw [items]; exact map.kind
  have fits := map.appendAll_fits ran (by rw [empty]; intro i w subtype found; cases found)
  refine ⟨appendAll_length ran, ?_, ?_, ?_⟩
  · rw [← pairs_returns_iff]
    constructor
    · rintro ⟨v, converted⟩
      obtain ⟨grouped, is, -⟩ := (toCqlValue_map kind v).mp converted
      exact ⟨grouped, by rw [← is, items]⟩
    · rintro ⟨grouped, is⟩
      exact ⟨_, (toCqlValue_map kind _).mpr ⟨grouped, by rw [← is, items], rfl⟩⟩
  · intro v converted
    obtain ⟨grouped, is, rfl⟩ := (toCqlValue_map kind v).mp converted
    refine ⟨grouped, rfl, by rw [CassCollection.unpair_pairs is, items], ?_⟩
    intro pair member
    obtain ⟨i, first, second⟩ := pairs_at is member
    constructor
    · intro k declared
      refine fits (2 * i) pair.1 k first ?_
      rw [MapDataType.declaredAt, if_pos (by omega), declared]
    · intro d declared
      refine fits (2 * i + 1) pair.2 d second ?_
      rw [MapDataType.declaredAt, if_neg (by omega), declared]
  · intro i code at' refused
    have position := map.appendAll_refused ran at' refused
    rwa [empty, List.length_nil, Nat.zero_add] at position

end Appends

/- A key in the place of a value is refused, and the value is taken after it. -/
theorem map_pairs_appended_retry :
    let dataType : CassDataType :=
      .mk (.map (.keyAndValue (.mk (.value .int)) (.mk (.value .boolean))) false)
    let values : List (CassCqlValue CassDataType) :=
      [.scalar (.int 7), .scalar (.int 8), .scalar (.boolean true)]
    ∃ collection after, CassCollection.newFromDataType CassDataType.ops dataType = some collection ∧
      collection.appendAll CassDataType.ops values =
        some ([.ok, .libInvalidValueType, .ok], after) ∧
      PairsAppended CassDataType.ops
        (.keyAndValue (.mk (.value .int)) (.mk (.value .boolean))) values
        [.ok, .libInvalidValueType, .ok] after := by
  intro dataType values
  refine ⟨_, _, rfl, rfl, ?_⟩
  exact (map_pairs_appended (.typed dataType _ _ _ rfl rfl)).2 _ _ rfl

end CppRsDriver.Types
