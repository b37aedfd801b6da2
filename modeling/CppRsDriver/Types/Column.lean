import CppRsDriver.Types.Snapshot

/-! Column types as the server describes them. -/
namespace CppRsDriver.Types

inductive ColumnType where
  | native (t : NativeType)
  | list (typ : ColumnType) (frozen : Bool)
  | set (typ : ColumnType) (frozen : Bool)
  | map (key value : ColumnType) (frozen : Bool)
  | userDefinedType (fieldTypes : List (String × ColumnType)) (keyspace name : String)
      (frozen : Bool)
  | tuple (types : List ColumnType)
  | vector (typ : ColumnType) (dimensions : UInt16)

mutual
def getColumnType : ColumnType → CassDataType
  | .native t => .mk (.value t.toValueType)
  | .list typ frozen => .mk (.list (some (getColumnType typ)) frozen)
  | .set typ frozen => .mk (.set (some (getColumnType typ)) frozen)
  | .map key value frozen =>
    .mk (.map (.keyAndValue (getColumnType key) (getColumnType value)) frozen)
  | .userDefinedType fieldTypes keyspace name frozen =>
    .mk (.udt { fieldTypes := getFieldTypes fieldTypes, keyspace, name, frozen })
  | .tuple types => .mk (.tuple (getColumnTypes types))
  | .vector typ dimensions => .mk (.vector (getColumnType typ) dimensions)
termination_by structural c => c

def getColumnTypes : List ColumnType → List CassDataType
  | [] => []
  | c :: types => getColumnType c :: getColumnTypes types
termination_by structural types => types

def getFieldTypes : List (String × ColumnType) → List (String × CassDataType)
  | [] => []
  | (name, c) :: fields => (name, getColumnType c) :: getFieldTypes fields
termination_by structural fields => fields
end

theorem getColumnTypes_eq (types : List ColumnType) :
    getColumnTypes types = types.map getColumnType := by
  induction types with
  | nil => rw [getColumnTypes, List.map_nil]
  | cons c types ih => rw [getColumnTypes, ih, List.map_cons]

theorem getFieldTypes_eq (fields : List (String × ColumnType)) :
    getFieldTypes fields = fields.map (fun field => (field.1, getColumnType field.2)) := by
  induction fields with
  | nil => rw [getFieldTypes, List.map_nil]
  | cons field fields ih => rw [getFieldTypes, ih, List.map_cons]

section Induction
variable {motive : ColumnType → Prop}

/-- The cases of an induction over column types. -/
structure ColumnType.Cases (motive : ColumnType → Prop) : Prop where
  native : ∀ t, motive (.native t)
  list : ∀ typ frozen, motive typ → motive (.list typ frozen)
  set : ∀ typ frozen, motive typ → motive (.set typ frozen)
  map : ∀ key value frozen, motive key → motive value → motive (.map key value frozen)
  userDefinedType : ∀ fieldTypes keyspace name frozen, (∀ field ∈ fieldTypes, motive field.2) →
    motive (.userDefinedType fieldTypes keyspace name frozen)
  tuple : ∀ types, (∀ c ∈ types, motive c) → motive (.tuple types)
  vector : ∀ typ dimensions, motive typ → motive (.vector typ dimensions)

mutual
theorem ColumnType.forall_columns (cases : ColumnType.Cases motive) : ∀ c, motive c
  | .native t => cases.native t
  | .list typ frozen => cases.list typ frozen (forall_columns cases typ)
  | .set typ frozen => cases.set typ frozen (forall_columns cases typ)
  | .map key value frozen =>
    cases.map key value frozen (forall_columns cases key) (forall_columns cases value)
  | .userDefinedType fieldTypes keyspace name frozen =>
    cases.userDefinedType fieldTypes keyspace name frozen (forall_columnFields cases fieldTypes)
  | .tuple types => cases.tuple types (forall_columnList cases types)
  | .vector typ dimensions => cases.vector typ dimensions (forall_columns cases typ)
termination_by structural c => c

theorem ColumnType.forall_columnList (cases : ColumnType.Cases motive) :
    ∀ types : List ColumnType, ∀ c ∈ types, motive c
  | [] => by simp
  | c :: types => by
    have head := forall_columns cases c
    have tail := forall_columnList cases types
    rw [List.forall_mem_cons]
    exact ⟨head, tail⟩
termination_by structural types => types

theorem ColumnType.forall_columnFields (cases : ColumnType.Cases motive) :
    ∀ fields : List (String × ColumnType), ∀ field ∈ fields, motive field.2
  | [] => by simp
  | (name, c) :: fields => by
    have head := forall_columns cases c
    have tail := forall_columnFields cases fields
    rw [List.forall_mem_cons]
    exact ⟨head, tail⟩
termination_by structural fields => fields
end

end Induction

end CppRsDriver.Types
