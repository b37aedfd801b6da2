import CppRsDriver.Lib.Runs
import CppRsDriver.Types.Heap

/-! The data-type and container calls as steps on one state: the data types and the
containers created so far. A call that fails leaves the state as it is, but for the fields
of a user type that were set by name before one refused the value; a call that panics, does
not return or is given something that does not exist is no step. -/
namespace CppRsDriver.Types

open CppRsDriver.Lib

/-- The calls that put a value into a container. -/
inductive Setter where
  | tupleSet (index : Nat)
  | collectionAppend
  | userTypeSet (index : Nat)
  | userTypeSetByName (name : String)
  | vectorSet (index : Nat)

/-- The value handed to a setter; containers are copied as they are at the call. -/
inductive Argument where
  | null
  | scalar (s : CassScalar)
  | object (o : Nat)

inductive Call where
  | dataTypeNew (t : CassValueType)
  | dataTypeNewFromExisting (d : Nat)
  | dataTypeNewTuple
  | dataTypeNewUdt
  | dataTypeNewVector (d : Nat) (dimensions : UInt16)
  | addSubType (d sub : Nat)
  | addSubTypeByName (d : Nat) (name : String) (sub : Nat)
  | addSubValueType (d : Nat) (t : CassValueType)
  | addSubValueTypeByName (d : Nat) (name : String) (t : CassValueType)
  | setTypeName (d : Nat) (name : String)
  | setKeyspace (d : Nat) (keyspace : String)
  | setClassName (d : Nat) (className : String)
  | tupleNew (itemCount : Nat)
  | tupleNewFromDataType (d : Nat)
  | collectionNew (kind : CollectionType)
  | collectionNewFromDataType (d : Nat)
  | userTypeNewFromDataType (d : Nat)
  | vectorNewFromDataType (d : Nat)
  | set (o : Nat) (setter : Setter) (value : Argument)

structure State where
  heap : Heap := {}
  objects : List (ApiObject Nat) := []

section Setters
variable {D : Type} (types : TypeOps D)

def applySetter (setter : Setter) (object : ApiObject D) (value : Option (CassCqlValue D)) :
    Option (CassError × ApiObject D) :=
  match setter, object with
  | .tupleSet index, .tuple t =>
    (t.bindValue types index value).map (fun (code, t) => (code, .tuple t))
  | .collectionAppend, .collection c =>
    (c.appendCqlValue types value).map (fun (code, c) => (code, .collection c))
  | .userTypeSet index, .userType u =>
    (u.setFieldByIndex types index value).map (fun (code, u) => (code, .userType u))
  | .userTypeSetByName name, .userType u =>
    if name = "" then some (.libBadParams, .userType u)
    else (u.setFieldByName types name value).map (fun (code, u) => (code, .userType u))
  | .vectorSet index, .vector v =>
    match value with
    | some w => (v.bindValue types index w).map (fun (code, v) => (code, .vector v))
    | none => some (.libBadParams, .vector v)
  | _, _ => none

/-- The value a setter is called with. -/
def argumentOf (objects : List (ApiObject D)) :
    Argument → Option (Except CassError (Option (CassCqlValue D)))
  | .null => some (.ok none)
  | .scalar s => some (.ok (some (.scalar s)))
  | .object o =>
    match objects[o]? with
    | some (.tuple t) => some (.ok (some t.toCqlValue))
    | some (.collection c) => some (c.toCqlValue.map some)
    | some (.userType u) => (u.toCqlValue types).map (fun v => .ok (some v))
    | some (.vector v) => some (.ok (some v.toCqlValue))
    | _ => none

end Setters

/- `cass_data_type_new`; a null is no data type. -/
def dataTypeNew : CassValueType → Option (CassDataTypeInner Nat)
  | .list => some (.list none false)
  | .set => some (.set none false)
  | .tuple => some (.tuple [])
  | .map => some (.map .untyped false)
  | .udt => some (.udt {})
  | .custom => some (.custom "")
  | .vector | .unknown | .lastEntry => none
  | t => some (.value t)

/- The calls that change a user-defined type and no other. -/
def onUdt (inner : CassDataTypeInner Nat) (change : UdtDataType Nat → UdtDataType Nat) :
    Except CassError (CassDataTypeInner Nat) :=
  match inner with
  | .udt u => .ok (.udt (change u))
  | _ => .error .libInvalidValueType

def addSubTypeByName (inner : CassDataTypeInner Nat) (name : String) (sub : Nat) :
    Except CassError (CassDataTypeInner Nat) :=
  onUdt inner (fun u => { u with fieldTypes := u.fieldTypes ++ [(name, sub)] })

def setTypeName (inner : CassDataTypeInner Nat) (name : String) :
    Except CassError (CassDataTypeInner Nat) :=
  onUdt inner (fun u => { u with name })

def setKeyspace (inner : CassDataTypeInner Nat) (keyspace : String) :
    Except CassError (CassDataTypeInner Nat) :=
  onUdt inner (fun u => { u with keyspace })

def setClassName (inner : CassDataTypeInner Nat) (className : String) :
    Except CassError (CassDataTypeInner Nat) :=
  match inner with
  | .custom _ => .ok (.custom className)
  | _ => .error .libInvalidValueType

namespace State

def alloc (s : State) (inner : CassDataTypeInner Nat) : State :=
  { s with heap := s.heap.alloc inner }

def modify (s : State) (d : Nat) (result : Except CassError (CassDataTypeInner Nat)) : State :=
  match result with
  | .ok inner => { s with heap := s.heap.update d inner }
  | .error _ => s

def add (s : State) (object : Option (ApiObject Nat)) : State :=
  match object with
  | some object => { s with objects := s.objects ++ [object] }
  | none => s

end State

/- A reference is to a data type that exists. -/
def given (s : State) (refs : List Nat) (next : Option State) : Option State :=
  if refs.all (· < s.heap.cells.length) then next else none

def step (fuel : Nat) (s : State) : Call → Option State
  | .dataTypeNew t => some (match dataTypeNew t with
    | some inner => s.alloc inner
    | none => s)
  | .dataTypeNewFromExisting d => given s [d] (some (s.alloc (s.heap.inner d)))
  | .dataTypeNewTuple => some (s.alloc (.tuple []))
  | .dataTypeNewUdt => some (s.alloc (.udt {}))
  | .dataTypeNewVector d dimensions => given s [d] ((s.heap.isFullyTyped fuel d).map (fun full =>
      if full && dimensions ≠ 0 then s.alloc (.vector d dimensions) else s))
  | .addSubType d sub => given s [d, sub] (some (s.modify d ((s.heap.inner d).addSubDataType sub)))
  | .addSubTypeByName d name sub =>
    given s [d, sub] (some (s.modify d (addSubTypeByName (s.heap.inner d) name sub)))
  | .addSubValueType d t =>
    -- the new type is what the fresh reference points to
    given s [d] (some ((s.alloc (.value t)).modify d
      ((s.heap.inner d).addSubDataType s.heap.cells.length)))
  | .addSubValueTypeByName d name t =>
    given s [d] (some ((s.alloc (.value t)).modify d
      (addSubTypeByName (s.heap.inner d) name s.heap.cells.length)))
  | .setTypeName d name => given s [d] (some (s.modify d (setTypeName (s.heap.inner d) name)))
  | .setKeyspace d keyspace => given s [d] (some (s.modify d (setKeyspace (s.heap.inner d) keyspace)))
  | .setClassName d className =>
    given s [d] (some (s.modify d (setClassName (s.heap.inner d) className)))
  | .tupleNew itemCount => some (s.add (some (.tuple (CassTuple.new itemCount))))
  | .tupleNewFromDataType d => given s [d]
    (some (s.add ((CassTuple.newFromDataType (s.heap.ops fuel) d).map .tuple)))
  | .collectionNew kind => some (s.add (some (.collection (CassCollection.new kind))))
  | .collectionNewFromDataType d => given s [d]
    (some (s.add ((CassCollection.newFromDataType (s.heap.ops fuel) d).map .collection)))
  | .userTypeNewFromDataType d => given s [d]
    (some (s.add ((CassUserType.newFromDataType (s.heap.ops fuel) d).map .userType)))
  | .vectorNewFromDataType d => given s [d]
    (some (s.add ((CassVector.newFromDataType (s.heap.ops fuel) d).map .vector)))
  | .set o setter value => do
    let object ← s.objects[o]?
    match ← argumentOf (s.heap.ops fuel) s.objects value with
    | .error _ => some s
    | .ok v =>
      let (_, after) ← applySetter (s.heap.ops fuel) setter object v
      return { s with objects := s.objects.set o after }

end CppRsDriver.Types
