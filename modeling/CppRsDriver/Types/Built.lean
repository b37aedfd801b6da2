import CppRsDriver.Types.Layout
import CppRsDriver.Types.WellTyped

/-! Values built through the API from data types that are fully typed, have native
leaves and are not modified afterwards. -/
namespace CppRsDriver.Types

/-- Everything a sequence of calls can hand out. -/
inductive Built : ApiObject CassDataType → Prop where
  | scalar (s) : Built (.value (.scalar s))
  | newTuple (dataType tuple) (ready : dataType.usable = true)
      (created : CassTuple.newFromDataType CassDataType.ops dataType = some tuple) :
      Built (.tuple tuple)
  | setTuple (tuple : CassTuple CassDataType) (index value code after) (before : Built (.tuple tuple))
      (new : ∀ v, value = some v → Built (.value v))
      (called : tuple.bindValue CassDataType.ops index value = some (code, after)) :
      Built (.tuple after)
  | ofTuple (tuple) (before : Built (.tuple tuple)) : Built (.value tuple.toCqlValue)
  | newCollection (dataType collection) (ready : dataType.usable = true)
      (created : CassCollection.newFromDataType CassDataType.ops dataType = some collection) :
      Built (.collection collection)
  | append (collection : CassCollection CassDataType) (value code after)
      (before : Built (.collection collection)) (new : ∀ v, value = some v → Built (.value v))
      (called : collection.appendCqlValue CassDataType.ops value = some (code, after)) :
      Built (.collection after)
  | ofCollection (collection : CassCollection CassDataType) (v)
      (before : Built (.collection collection)) (converted : collection.toCqlValue = .ok v) :
      Built (.value v)
  | newUserType (dataType userType) (ready : dataType.usable = true)
      (created : CassUserType.newFromDataType CassDataType.ops dataType = some userType) :
      Built (.userType userType)
  | setField (userType : CassUserType CassDataType) (index value code after)
      (before : Built (.userType userType)) (new : ∀ v, value = some v → Built (.value v))
      (called : userType.setFieldByIndex CassDataType.ops index value = some (code, after)) :
      Built (.userType after)
  | setFieldByName (userType : CassUserType CassDataType) (name value code after)
      (before : Built (.userType userType)) (new : ∀ v, value = some v → Built (.value v))
      (called : userType.setFieldByName CassDataType.ops name value = some (code, after)) :
      Built (.userType after)
  | ofUserType (userType : CassUserType CassDataType) (v) (before : Built (.userType userType))
      (converted : userType.toCqlValue CassDataType.ops = some v) : Built (.value v)
  | newVector (dataType vector) (ready : dataType.usable = true)
      (created : CassVector.newFromDataType CassDataType.ops dataType = some vector) :
      Built (.vector vector)
  | setVector (vector : CassVector CassDataType) (index v code after)
      (before : Built (.vector vector)) (new : Built (.value v))
      (called : vector.bindValue CassDataType.ops index v = some (code, after)) :
      Built (.vector after)
  | ofVector (vector) (before : Built (.vector vector)) : Built (.value vector.toCqlValue)

def usableType (dataType : Option CassDataType) : Prop := ∃ d, dataType = some d ∧ d.usable = true

/-- Every call keeps the contents of the containers within their declared types. -/
theorem Built.wellTyped {object : ApiObject CassDataType} (built : Built object) :
    object.WellTyped CassDataType.ops usableType := by
  induction built with
  | scalar s => exact .scalar s
  | newTuple dataType tuple ready created =>
    exact CassTuple.newFromDataType_wellTyped ⟨dataType, rfl, ready⟩ created
  | setTuple tuple index value code after before new called ih newIh =>
    exact CassTuple.bindValue_wellTyped ih newIh called
  | ofTuple tuple before ih => exact CassTuple.toCqlValue_wellTyped ih
  | newCollection dataType collection ready created =>
    exact CassCollection.newFromDataType_wellTyped ⟨dataType, rfl, ready⟩ created
  | append collection value code after before new called ih newIh =>
    exact CassCollection.appendCqlValue_wellTyped ih newIh called
  | ofCollection collection v before converted ih =>
    exact CassCollection.toCqlValue_wellTyped ih converted
  | newUserType dataType userType ready created =>
    exact CassUserType.newFromDataType_wellTyped ⟨dataType, rfl, ready⟩ created
  | setField userType index value code after before new called ih newIh =>
    exact CassUserType.setFieldByIndex_wellTyped ih newIh called
  | setFieldByName userType name value code after before new called ih newIh =>
    exact CassUserType.setFieldByName_wellTyped ih newIh called
  | ofUserType userType v before converted ih =>
    exact CassUserType.toCqlValue_wellTyped ih converted
  | newVector dataType vector ready created =>
    exact CassVector.newFromDataType_wellTyped ⟨dataType, rfl, ready⟩ created
  | setVector vector index v code after before new called ih newIh =>
    exact CassVector.bindValue_wellTyped ih newIh called
  | ofVector vector before ih => exact CassVector.toCqlValue_wellTyped ih

end CppRsDriver.Types
