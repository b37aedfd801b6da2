import CppRsDriver.Result.Iterator

/-! What a client does with the iterators of a result: it creates them, from the result
and from the values it was given, advances them, and asks for what they are at. -/
namespace CppRsDriver.Result.Iteration

open CppRsDriver.Lib CppRsDriver.Types CppRsDriver.Statement

variable {ε : Type}

/-- A result with rows: the columns its frame describes, the bytes of its rows, and the
driver's own metadata. -/
structure RowsResult (ε : Type) where
  specs : List ColumnSpec
  rows : List (Except ε (List UInt8))
  metadata : CassResultMetadata

/-- An iterator, and whether `cass_iterator_next` has returned false on it. -/
structure Handle (ε : Type) where
  iterator : CassIterator ε
  ended : Bool

/-- The pointers a client got so far. A place without an entry stands for a null pointer. -/
structure State (ε : Type) where
  handles : List (Handle ε)
  rows : List CassRow
  values : List CassValue

def State.new : State ε := ⟨[], [], []⟩

inductive Getter where
  | column
  | value
  | mapKey
  | mapValue
  | userTypeFieldValue
  deriving DecidableEq, Repr

def Getter.get : Getter → CassIterator ε → Option CassValue
  | .column => CassIterator.getColumn
  | .value => CassIterator.getValue
  | .mapKey => CassIterator.getMapKey
  | .mapValue => CassIterator.getMapValue
  | .userTypeFieldValue => CassIterator.getUserTypeFieldValue

inductive Creator where
  | fromCollection
  | fromTuple
  | fromVector
  | fromMap
  | fieldsFromUserType
  deriving DecidableEq, Repr

def Creator.create (d : Decoder ε) : Creator → CassValue → Option (Option (CassIterator ε))
  | .fromCollection => CassIterator.fromCollection d
  | .fromTuple => CassIterator.fromTuple
  | .fromVector => CassIterator.fromVector d
  | .fromMap => CassIterator.fromMap d
  | .fieldsFromUserType => CassIterator.fieldsFromUserType d

inductive Call where
  | fromResult
  | fromRow (row : Nat)
  | create (creator : Creator) (value : Nat)
  | next (iterator : Nat)
  | getRow (iterator : Nat)
  | get (getter : Getter) (iterator : Nat)
  | getUserTypeFieldName (iterator : Nat)

def State.addHandle (s : State ε) (iterator : CassIterator ε) : State ε :=
  { s with handles := s.handles ++ [⟨iterator, false⟩] }

def fromResult (result : Option (RowsResult ε)) : CassIterator ε :=
  .result (result.map (fun r => ⟨r.specs, r.rows, r.metadata, none⟩))

/-- A call of the client; there is no state after a panic. -/
def step (d : Decoder ε) (result : Option (RowsResult ε)) (s : State ε) : Call → Option (State ε)
  | .fromResult => some (s.addHandle (fromResult result))
  | .fromRow r =>
    match s.rows[r]? with
    | none => some s
    | some row => some (s.addHandle (.row ⟨row, none⟩))
  | .create creator v =>
    match s.values[v]? with
    | none => some s
    | some value => (creator.create d value).map (fun iterator => iterator.elim s s.addHandle)
  | .next i =>
    match s.handles[i]? with
    | none => some s
    | some h => (h.iterator.next d).map (fun (more, iterator) =>
        { s with handles := s.handles.set i ⟨iterator, h.ended || !more⟩ })
  | .getRow i =>
    some { s with rows := s.rows ++ (s.handles[i]?.bind (fun h => h.iterator.getRow)).toList }
  | .get getter i =>
    some { s with
      values := s.values ++ (s.handles[i]?.bind (fun h => getter.get h.iterator)).toList }
  | .getUserTypeFieldName i =>
    match s.handles[i]? with
    | none => some s
    | some h => h.iterator.getUserTypeFieldName.map (fun _ => s)

/-- How many fields of a tuple or UDT are still to come. -/
def fieldsLeft : CassIterator ε → Nat
  | .tuple it => it.iterator.remainingMetadata.length
  | .udt it => it.iterator.fields.length
  | _ => 0

/-- No tuple or UDT iterator is advanced once `cass_iterator_next` has returned false on it
before its last field. -/
def StopsAtFalse (s : State ε) : Call → Prop
  | .next i => ∀ h ∈ s.handles[i]?, h.ended = true → fieldsLeft h.iterator = 0
  | _ => True

instance (s : State ε) : (c : Call) → Decidable (StopsAtFalse s c)
  | .next i => inferInstanceAs
      (Decidable (∀ h ∈ s.handles[i]?, h.ended = true → fieldsLeft h.iterator = 0))
  | .fromResult | .fromRow _ | .create _ _ | .getRow _ | .get _ _ | .getUserTypeFieldName _ =>
    isTrue trivial

end CppRsDriver.Result.Iteration
