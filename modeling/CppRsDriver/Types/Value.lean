import CppRsDriver.Types.Typecheck

/-! Values to be bound, with references to the data types they were built from.
Integers and floating-point numbers are their bit patterns. -/
namespace CppRsDriver.Types

structure CqlDuration where
  months : BitVec 32
  days : BitVec 32
  nanoseconds : BitVec 64
  deriving DecidableEq, Repr

structure CqlDecimal where
  unscaled : List UInt8
  scale : BitVec 32
  deriving DecidableEq, Repr

/-- The scalar variants of a value. -/
inductive CassScalar where
  | tinyInt (v : BitVec 8)
  | smallInt (v : BitVec 16)
  | int (v : BitVec 32)
  | bigInt (v : BitVec 64)
  | float (v : BitVec 32)
  | double (v : BitVec 64)
  | boolean (v : Bool)
  | text (v : String)
  | blob (v : List UInt8)
  | uuid (v : BitVec 128)
  | date (v : BitVec 32)
  | inet (v : IpAddr)
  | duration (v : CqlDuration)
  | decimal (v : CqlDecimal)
  deriving DecidableEq

inductive CassCqlValue (D : Type) where
  | scalar (s : CassScalar)
  | tuple (dataType : Option D) (fields : List (Option (CassCqlValue D)))
  | list (dataType : Option D) (values : List (CassCqlValue D))
  | map (dataType : Option D) (values : List (CassCqlValue D × CassCqlValue D))
  | set (dataType : Option D) (values : List (CassCqlValue D))
  | vector (dataType elementType : D) (values : List (Option (CassCqlValue D)))
  | userDefinedType (dataType : D) (fields : List (String × Option (CassCqlValue D)))

/-- How a reference is read and how two of them are checked against each other. -/
structure TypeOps (D : Type) where
  getUnchecked : D → CassDataTypeInner D
  typecheckEquals : D → D → Option Bool

def CassDataType.ops : TypeOps CassDataType where
  getUnchecked := CassDataType.inner
  typecheckEquals := CassDataType.typecheckEquals

def CassScalar.isTypeCompatible (s : CassScalar) (typ : CassValueType) : Bool :=
  match s with
  | .tinyInt _ => typ == .tinyInt
  | .smallInt _ => typ == .smallInt
  | .int _ => typ == .int
  | .bigInt _ => typ == .bigint || typ == .counter || typ == .timestamp || typ == .time
  | .float _ => typ == .float
  | .double _ => typ == .double
  | .boolean _ => typ == .boolean
  | .text _ =>
    typ == .text || typ == .varchar || typ == .ascii || typ == .blob || typ == .varint
  | .blob _ => typ == .blob || typ == .varint
  | .uuid _ => typ == .uuid || typ == .timeuuid
  | .date _ => typ == .date
  | .inet _ => typ == .inet
  | .duration _ => typ == .duration
  | .decimal _ => typ == .decimal

section Compatibility
variable {D : Type} (types : TypeOps D)

/- A container without a data type is compatible with any type of its kind. -/
def containerTypeCompatible (dataType : Option D) (kind : CassValueType) (typ : D) : Option Bool :=
  match dataType with
  | some dt => types.typecheckEquals dt typ
  | none => some ((types.getUnchecked typ).getValueType == kind)

def CassCqlValue.isTypeCompatible (v : CassCqlValue D) (typ : D) : Option Bool :=
  match v with
  | .scalar s => some (s.isTypeCompatible (types.getUnchecked typ).getValueType)
  | .tuple dataType _ => containerTypeCompatible types dataType .tuple typ
  | .list dataType _ => containerTypeCompatible types dataType .list typ
  | .map dataType _ => containerTypeCompatible types dataType .map typ
  | .set dataType _ => containerTypeCompatible types dataType .set typ
  | .vector dataType _ _ => types.typecheckEquals dataType typ
  | .userDefinedType dataType _ => types.typecheckEquals dataType typ

def isTypeCompatible (value : Option (CassCqlValue D)) (typ : D) : Option Bool :=
  match value with
  | some v => v.isTypeCompatible types typ
  | none => some true

end Compatibility

/-- The data type a container value carries. -/
def CassCqlValue.dataType {D : Type} : CassCqlValue D → Option D
  | .scalar _ => none
  | .tuple dataType _ | .list dataType _ | .map dataType _ | .set dataType _ => dataType
  | .vector dataType _ _ | .userDefinedType dataType _ => some dataType

theorem isTypeCompatible_of_dataType {D : Type} (types : TypeOps D) {v : CassCqlValue D} {dt : D}
    (carries : v.dataType = some dt) (typ : D) :
    v.isTypeCompatible types typ = types.typecheckEquals dt typ := by
  cases v with
  | scalar => contradiction
  | vector | userDefinedType => cases Option.some.inj carries; rfl
  | tuple | list | map | set =>
    simp only [CassCqlValue.dataType] at carries
    subst carries
    rfl

/-- One layer of a value over what its parts have been turned into. -/
inductive ValueLayer (D α : Type) where
  | scalar (s : CassScalar)
  | tuple (dataType : Option D) (fields : List (Option α))
  | list (dataType : Option D) (values : List α)
  | map (dataType : Option D) (values : List (α × α))
  | set (dataType : Option D) (values : List α)
  | vector (dataType elementType : D) (values : List (Option α))
  | userDefinedType (dataType : D) (fields : List (String × Option α))

namespace CassCqlValue
variable {D : Type}

section Fold
variable {α : Type} (f : ValueLayer D α → α)

mutual
def fold : CassCqlValue D → α
  | .scalar s => f (.scalar s)
  | .tuple dataType fields => f (.tuple dataType (foldOptions fields))
  | .list dataType values => f (.list dataType (foldList values))
  | .map dataType values => f (.map dataType (foldPairs values))
  | .set dataType values => f (.set dataType (foldList values))
  | .vector dataType elementType values => f (.vector dataType elementType (foldOptions values))
  | .userDefinedType dataType fields => f (.userDefinedType dataType (foldNamed fields))
termination_by structural v => v

def foldOptions : List (Option (CassCqlValue D)) → List (Option α)
  | [] => []
  | none :: fields => none :: foldOptions fields
  | some v :: fields => some (fold v) :: foldOptions fields
termination_by structural fields => fields

def foldList : List (CassCqlValue D) → List α
  | [] => []
  | v :: values => fold v :: foldList values
termination_by structural values => values

def foldPairs : List (CassCqlValue D × CassCqlValue D) → List (α × α)
  | [] => []
  | (k, v) :: values => (fold k, fold v) :: foldPairs values
termination_by structural values => values

def foldNamed : List (String × Option (CassCqlValue D)) → List (String × Option α)
  | [] => []
  | (name, none) :: fields => (name, none) :: foldNamed fields
  | (name, some v) :: fields => (name, some (fold v)) :: foldNamed fields
termination_by structural fields => fields
end

theorem foldOptions_eq (fields : List (Option (CassCqlValue D))) :
    foldOptions f fields = fields.map (Option.map (fold f)) := by
  induction fields with
  | nil => rw [foldOptions, List.map_nil]
  | cons field fields ih => cases field <;> rw [foldOptions, ih, List.map_cons] <;> rfl

theorem foldList_eq (values : List (CassCqlValue D)) : foldList f values = values.map (fold f) := by
  induction values with
  | nil => rw [foldList, List.map_nil]
  | cons v values ih => rw [foldList, ih, List.map_cons]

theorem foldPairs_eq (values : List (CassCqlValue D × CassCqlValue D)) :
    foldPairs f values = values.map (fun pair => (fold f pair.1, fold f pair.2)) := by
  induction values with
  | nil => rw [foldPairs, List.map_nil]
  | cons pair values ih => rw [foldPairs, ih, List.map_cons]

theorem foldNamed_eq (fields : List (String × Option (CassCqlValue D))) :
    foldNamed f fields = fields.map (fun field => (field.1, field.2.map (fold f))) := by
  induction fields with
  | nil => rw [foldNamed, List.map_nil]
  | cons field fields ih =>
    obtain ⟨name, value⟩ := field
    cases value <;> rw [foldNamed, ih, List.map_cons] <;> rfl

end Fold

/-- The cases of an induction over values. -/
structure Cases (motive : CassCqlValue D → Prop) : Prop where
  scalar : ∀ s, motive (.scalar s)
  tuple : ∀ dataType fields, (∀ v, some v ∈ fields → motive v) → motive (.tuple dataType fields)
  list : ∀ dataType values, (∀ v ∈ values, motive v) → motive (.list dataType values)
  map : ∀ dataType values, (∀ pair ∈ values, motive pair.1 ∧ motive pair.2) →
    motive (.map dataType values)
  set : ∀ dataType values, (∀ v ∈ values, motive v) → motive (.set dataType values)
  vector : ∀ dataType elementType values, (∀ v, some v ∈ values → motive v) →
    motive (.vector dataType elementType values)
  userDefinedType : ∀ dataType fields, (∀ name v, (name, some v) ∈ fields → motive v) →
    motive (.userDefinedType dataType fields)

section Induction
variable {motive : CassCqlValue D → Prop}

mutual
theorem forall_values (cases : Cases motive) : ∀ v, motive v
  | .scalar s => cases.scalar s
  | .tuple dataType fields => cases.tuple dataType fields (forall_options cases fields)
  | .list dataType values => cases.list dataType values (forall_list cases values)
  | .map dataType values => cases.map dataType values (forall_pairs cases values)
  | .set dataType values => cases.set dataType values (forall_list cases values)
  | .vector dataType elementType values =>
    cases.vector dataType elementType values (forall_options cases values)
  | .userDefinedType dataType fields =>
    cases.userDefinedType dataType fields (forall_named cases fields)
termination_by structural v => v

theorem forall_options (cases : Cases motive) :
    ∀ fields : List (Option (CassCqlValue D)), ∀ v, some v ∈ fields → motive v
  | [] => by simp
  | none :: fields => by
    have tail := forall_options cases fields
    simpa using tail
  | some w :: fields => by
    have head := forall_values cases w
    have tail := forall_options cases fields
    intro v member
    rcases List.mem_cons.mp member with same | later
    · exact Option.some.inj same ▸ head
    · exact tail v later
termination_by structural fields => fields

theorem forall_list (cases : Cases motive) :
    ∀ values : List (CassCqlValue D), ∀ v ∈ values, motive v
  | [] => by simp
  | v :: values => by
    have head := forall_values cases v
    have tail := forall_list cases values
    rw [List.forall_mem_cons]
    exact ⟨head, tail⟩
termination_by structural values => values

theorem forall_pairs (cases : Cases motive) :
    ∀ values : List (CassCqlValue D × CassCqlValue D),
      ∀ pair ∈ values, motive pair.1 ∧ motive pair.2
  | [] => by simp
  | (k, v) :: values => by
    have key := forall_values cases k
    have value := forall_values cases v
    have tail := forall_pairs cases values
    rw [List.forall_mem_cons]
    exact ⟨⟨key, value⟩, tail⟩
termination_by structural values => values

theorem forall_named (cases : Cases motive) :
    ∀ fields : List (String × Option (CassCqlValue D)),
      ∀ name v, (name, some v) ∈ fields → motive v
  | [] => by simp
  | (name, none) :: fields => by
    have tail := forall_named cases fields
    simpa using tail
  | (name, some w) :: fields => by
    have head := forall_values cases w
    have tail := forall_named cases fields
    intro other v member
    rcases List.mem_cons.mp member with same | later
    · cases same
      exact head
    · exact tail other v later
termination_by structural fields => fields
end

end Induction

/-- The values directly inside a value, in the order they are written. -/
def parts : CassCqlValue D → List (CassCqlValue D)
  | .scalar _ => []
  | .tuple _ fields => fields.filterMap id
  | .list _ values | .set _ values => values
  | .map _ values => values.flatMap (fun pair => [pair.1, pair.2])
  | .vector _ _ values => values.filterMap id
  | .userDefinedType _ fields => fields.filterMap Prod.snd

section Parts
variable {w : CassCqlValue D}

theorem mem_parts_tuple {dataType : Option D} {fields : List (Option (CassCqlValue D))}
    (member : some w ∈ fields) : w ∈ parts (.tuple dataType fields) :=
  List.mem_filterMap.mpr ⟨some w, member, rfl⟩

theorem mem_parts_map {dataType : Option D} {values : List (CassCqlValue D × CassCqlValue D)}
    {pair : CassCqlValue D × CassCqlValue D} (member : pair ∈ values) :
    pair.1 ∈ parts (.map dataType values) ∧ pair.2 ∈ parts (.map dataType values) := by
  constructor
  · exact List.mem_flatMap.mpr ⟨pair, member, List.mem_cons_self⟩
  · exact List.mem_flatMap.mpr ⟨pair, member, List.mem_cons_of_mem _ List.mem_cons_self⟩

theorem mem_parts_vector {dataType elementType : D} {values : List (Option (CassCqlValue D))}
    (member : some w ∈ values) : w ∈ parts (.vector dataType elementType values) :=
  List.mem_filterMap.mpr ⟨some w, member, rfl⟩

theorem mem_parts_userDefinedType {dataType : D} {fields : List (String × Option (CassCqlValue D))}
    {name : String} (member : (name, some w) ∈ fields) : w ∈ parts (.userDefinedType dataType fields) :=
  List.mem_filterMap.mpr ⟨(name, some w), member, rfl⟩

end Parts

/-- Induction over values by their parts. -/
theorem forall_parts {motive : CassCqlValue D → Prop}
    (step : ∀ v, (∀ w ∈ parts v, motive w) → motive v) (v : CassCqlValue D) : motive v := by
  refine forall_values ⟨?scalar, ?tuple, ?list, ?map, ?set, ?vector, ?userDefinedType⟩ v
  case scalar => exact fun s => step _ (fun w member => absurd member List.not_mem_nil)
  case tuple =>
    intro dataType fields ih
    exact step _ (fun w member => ih w (by simpa [parts] using member))
  case list => exact fun dataType values ih => step _ ih
  case set => exact fun dataType values ih => step _ ih
  case map =>
    intro dataType values ih
    apply step
    intro w member
    obtain ⟨pair, inside, is⟩ := List.mem_flatMap.mp member
    simp only [List.mem_cons, List.not_mem_nil, or_false] at is
    rcases is with rfl | rfl
    · exact (ih pair inside).1
    · exact (ih pair inside).2
  case vector =>
    intro dataType elementType values ih
    exact step _ (fun w member => ih w (by simpa [parts] using member))
  case userDefinedType =>
    intro dataType fields ih
    apply step
    intro w member
    obtain ⟨⟨name, field⟩, inside, is⟩ := List.mem_filterMap.mp member
    cases is
    exact ih name w inside

/-- The outermost layer of a value, with its parts turned into something else. -/
def layer {α : Type} (a : CassCqlValue D → α) : CassCqlValue D → ValueLayer D α
  | .scalar s => .scalar s
  | .tuple dataType fields => .tuple dataType (fields.map (Option.map a))
  | .list dataType values => .list dataType (values.map a)
  | .map dataType values => .map dataType (values.map (fun pair => (a pair.1, a pair.2)))
  | .set dataType values => .set dataType (values.map a)
  | .vector dataType elementType values => .vector dataType elementType (values.map (Option.map a))
  | .userDefinedType dataType fields =>
    .userDefinedType dataType (fields.map (fun field => (field.1, field.2.map a)))

theorem fold_eq_layer {α : Type} (f : ValueLayer D α → α) (v : CassCqlValue D) :
    fold f v = f (layer (fold f) v) := by
  cases v <;> simp only [fold, layer, foldOptions_eq, foldList_eq, foldPairs_eq, foldNamed_eq]

theorem map_option_congr {α : Type} {a b : CassCqlValue D → α} {slots : List (Option (CassCqlValue D))}
    (same : ∀ w ∈ slots.filterMap id, a w = b w) :
    slots.map (Option.map a) = slots.map (Option.map b) := by
  apply List.map_congr_left
  intro slot member
  cases slot with
  | none => rfl
  | some w => exact congrArg some (same w (by simpa using member))

theorem layer_congr {α : Type} {a b : CassCqlValue D → α} (v : CassCqlValue D)
    (same : ∀ w ∈ parts v, a w = b w) : layer a v = layer b v := by
  cases v with
  | scalar s => rfl
  | tuple dataType fields => exact congrArg _ (map_option_congr same)
  | list dataType values | set dataType values => exact congrArg _ (List.map_congr_left same)
  | vector dataType elementType values => exact congrArg _ (map_option_congr same)
  | map dataType values =>
    refine congrArg _ (List.map_congr_left (fun pair member => ?_))
    obtain ⟨key, value⟩ := mem_parts_map member
    rw [same _ key, same _ value]
  | userDefinedType dataType fields =>
    refine congrArg _ (List.map_congr_left (fun field member => ?_))
    obtain ⟨name, slot⟩ := field
    cases slot with
    | none => rfl
    | some w => rw [Option.map_some, Option.map_some, same w (mem_parts_userDefinedType member)]

/-- The element type that a vector carries beside its data type. -/
def elementType : CassCqlValue D → Option D
  | .vector _ elementType _ => some elementType
  | _ => none

/-- The value refers to a data type: its own, the element type of a vector, or one of
those its parts refer to. -/
inductive RefersTo : CassCqlValue D → D → Prop where
  | dataType (v d) (is : v.dataType = some d) : RefersTo v d
  | elementType (v d) (is : v.elementType = some d) : RefersTo v d
  | part (v w d) (member : w ∈ v.parts) (inside : RefersTo w d) : RefersTo v d

end CassCqlValue

end CppRsDriver.Types
