import CppRsDriver.Lib.Arc
import CppRsDriver.Statement.Options

/-! Statements, batches and the requests made from them. A statement shares its prepared
statement, and a request shares the state of its batch, by a counted reference that is
mutated through `Arc::make_mut`. -/
namespace CppRsDriver.Statement

open CppRsDriver.Lib CppRsDriver.Types

/-- A `CassPrepared` with the options of its prepared statement. -/
structure PreparedContents where
  prepared : CassPrepared
  options : QueryOptions

inductive BatchType where
  | logged
  | unlogged
  | counter
  deriving DecidableEq, Repr

inductive BatchEntry where
  | query (q : String) (options : QueryOptions)
  | preparedStatement (p : PreparedContents)

/-- A `CassBatchState` with the options of its batch. -/
structure BatchContents where
  batchType : BatchType
  config : StatementConfig
  statements : List BatchEntry
  boundValues : List (List Slot)

/-- `cass_batch_new`. -/
def BatchContents.new (batchType : BatchType) : BatchContents := ⟨batchType, {}, [], []⟩

/-- `cass_batch_add_statement`: the batch gets copies. -/
def BatchContents.addStatement (state : BatchContents) : BoundOf PreparedContents → BatchContents
  | .simple q options =>
    { state with
      statements := state.statements ++ [.query q.query options]
      boundValues := state.boundValues ++ [q.boundValues] }
  | .prepared p values =>
    { state with
      statements := state.statements ++ [.preparedStatement p]
      boundValues := state.boundValues ++ [values] }

def QueryOptions.setHandle (handle : Option ExecutionProfileHandle) (options : QueryOptions) :
    QueryOptions :=
  { options with config.executionProfileHandle := handle }

def BatchContents.setHandle (handle : Option ExecutionProfileHandle) (state : BatchContents) :
    BatchContents :=
  { state with config.executionProfileHandle := handle }

/-- The objects of the client, and the requests in flight, which have copies of what they
were made from. A request looks up its execution profile once. -/
inductive Object (P B : Type) where
  | prepared (statement : P)
  | statement (s : CassStatement P)
  | batch (b : CassBatch B)
  | request (s : CassStatement P) (resolved : Bool)
  | batchRequest (b : CassBatch B) (resolved : Bool)
  | freed

/-- What an object is, with all it refers to. -/
abbrev Contents := Object PreparedContents BatchContents

namespace BoundOf

def ref : BoundOf Nat → Option Nat
  | .simple _ _ => none
  | .prepared arc _ => some arc

def read (h : ArcHeap PreparedContents) : BoundOf Nat → Option (BoundOf PreparedContents)
  | .simple q options => some (.simple q options)
  | .prepared arc values => (h.get? arc).map (fun p => .prepared p values)

def toBound : BoundOf PreparedContents → BoundStatement
  | .simple q _ => .simple q
  | .prepared p values => .prepared ⟨p.prepared, values⟩

/-- The values and names of another statement of the same kind. -/
def put {P : Type} : BoundOf P → BoundStatement → BoundOf P
  | .simple _ options, .simple q => .simple q options
  | .prepared p _, .prepared bound => .prepared p bound.boundValues
  | bound, _ => bound

/-- An option is set on the query, or through `Arc::make_mut` on the prepared statement. -/
def setOptions (h : ArcHeap PreparedContents) (change : QueryOptions → QueryOptions) :
    BoundOf Nat → ArcHeap PreparedContents × BoundOf Nat
  | .simple q options => (h, .simple q (change options))
  | .prepared arc values =>
    let (h, arc) := h.makeMut arc (fun p => { p with options := change p.options })
    (h, .prepared arc values)

end BoundOf

namespace CassStatement

def read (h : ArcHeap PreparedContents) (s : CassStatement Nat) :
    Option (CassStatement PreparedContents) :=
  (s.statement.read h).map (fun b => ⟨b, s.pagingState, s.pagingEnabled, s.execProfile⟩)

def setOptions (h : ArcHeap PreparedContents) (change : QueryOptions → QueryOptions)
    (s : CassStatement Nat) : ArcHeap PreparedContents × CassStatement Nat :=
  let (h, b) := s.statement.setOptions h change
  (h, { s with statement := b })

def set (h : ArcHeap PreparedContents) (setter : StatementSetter) (s : CassStatement Nat) :
    ArcHeap PreparedContents × CassStatement Nat :=
  match setter.options with
  | none => (h, setter.own s)
  | some change => (setter.own s).setOptions h change

/-- A bind or a reset; `none` when a type check panics. -/
def call (h : ArcHeap PreparedContents) (c : Call) (s : CassStatement Nat) :
    Option (CassStatement Nat) := do
  let b ← s.statement.read h
  let bound ← step b.toBound c
  return { s with statement := s.statement.put bound }

end CassStatement

namespace CassBatch

def read (k : ArcHeap BatchContents) (b : CassBatch Nat) : Option (CassBatch BatchContents) :=
  (k.get? b.state).map (fun state => ⟨state, b.execProfile⟩)

def makeMut (k : ArcHeap BatchContents) (change : BatchContents → BatchContents)
    (b : CassBatch Nat) : ArcHeap BatchContents × CassBatch Nat :=
  let (k, arc) := k.makeMut b.state change
  (k, { b with state := arc })

def set (k : ArcHeap BatchContents) (setter : BatchSetter) (b : CassBatch Nat) :
    ArcHeap BatchContents × CassBatch Nat :=
  match setter.options with
  | none => (k, setter.own b)
  | some change => (setter.own b).makeMut k (fun state => { state with config := change state.config })

end CassBatch

namespace Object

/-- The reference to a prepared statement that an object holds. -/
def preparedRef : Object Nat Nat → Option Nat
  | .prepared arc => some arc
  | .statement s => s.statement.ref
  | .request s _ => s.statement.ref
  | .batch _ => none
  | .batchRequest _ _ => none
  | .freed => none

def batchRef : Object Nat Nat → Option Nat
  | .batch b => some b.state
  | .batchRequest b _ => some b.state
  | .prepared _ => none
  | .statement _ => none
  | .request _ _ => none
  | .freed => none

def read (h : ArcHeap PreparedContents) (k : ArcHeap BatchContents) : Object Nat Nat → Option Contents
  | .prepared arc => (h.get? arc).map .prepared
  | .statement s => (s.read h).map .statement
  | .batch b => (b.read k).map .batch
  | .request s resolved => (s.read h).map (fun c => .request c resolved)
  | .batchRequest b resolved => (b.read k).map (fun c => .batchRequest c resolved)
  | .freed => some .freed

end Object

structure State where
  prepareds : ArcHeap PreparedContents
  batches : ArcHeap BatchContents
  objects : List (Object Nat Nat)

def State.initial : State := ⟨.empty, .empty, []⟩

/-- What is seen through an object. -/
def State.contents (s : State) (i : Nat) : Option Contents :=
  s.objects[i]?.bind (Object.read s.prepareds s.batches)

inductive Action where
  /-- `cass_statement_new`. -/
  | statementNew (query : String) (parameterCount : Nat)
  /-- A query has been prepared; the object is the result of the future. -/
  | prepare (colSpecs : List ColumnSpec) (options : QueryOptions)
  /-- `cass_future_get_prepared`. -/
  | getPrepared (i : Nat)
  /-- `cass_prepared_bind`. -/
  | preparedBind (i : Nat)
  /-- `cass_session_prepare_from_existing` of a statement that is prepared already. -/
  | prepareFromExisting (i : Nat)
  | statementSet (i : Nat) (setter : StatementSetter)
  | statementCall (i : Nat) (c : Call)
  | batchNew (batchType : BatchType)
  | batchSet (i : Nat) (setter : BatchSetter)
  | batchAddStatement (i statement : Nat)
  /-- `cass_session_execute` on any session, connected or not. -/
  | execute (connected : Bool) (i : Nat)
  | executeBatch (connected : Bool) (i : Nat)
  /-- The future of a request has the handle of its profile and sets it on its copy. -/
  | resolveProfile (i : Nat) (handle : Option ExecutionProfileHandle)
  /-- An object is freed, or the future of a request is done. -/
  | free (i : Nat)

/-- The object an action works on. The others add an object. -/
def Action.target : Action → Option Nat
  | .statementSet i _ => some i
  | .statementCall i _ => some i
  | .batchSet i _ => some i
  | .batchAddStatement i _ => some i
  | .resolveProfile i _ => some i
  | .free i => some i
  | _ => none

namespace State

/-- A new object, with clones of the references it holds. -/
def share (s : State) (o : Object Nat Nat) : State where
  prepareds := s.prepareds.clone o.preparedRef
  batches := s.batches.clone o.batchRef
  objects := s.objects ++ [o]

def setStatement (s : State) (i : Nat) (result : ArcHeap PreparedContents × CassStatement Nat)
    (make : CassStatement Nat → Object Nat Nat) : State :=
  { s with prepareds := result.1, objects := s.objects.set i (make result.2) }

def setBatch (s : State) (i : Nat) (result : ArcHeap BatchContents × CassBatch Nat)
    (make : CassBatch Nat → Object Nat Nat) : State :=
  { s with batches := result.1, objects := s.objects.set i (make result.2) }

def release (s : State) (i : Nat) (o : Object Nat Nat) : State where
  prepareds := s.prepareds.drop o.preparedRef
  batches := s.batches.drop o.batchRef
  objects := s.objects.set i .freed

def step (s : State) : Action → Option State
  | .statementNew query parameterCount =>
    some (s.share (.statement (.new (.simple ⟨query, List.replicate parameterCount .unset, []⟩ {}))))
  | .prepare colSpecs options =>
    let (h, arc) := s.prepareds.new ⟨.newFromPreparedStatement colSpecs, options⟩
    some { s with prepareds := h, objects := s.objects ++ [.prepared arc] }
  | .getPrepared i =>
    match s.objects[i]? with
    | some (.prepared arc) => some (s.share (.prepared arc))
    | _ => none
  | .preparedBind i =>
    match s.objects[i]? with
    | some (.prepared arc) => do
      let p ← s.prepareds.get? arc
      return s.share (.statement
        (.new (.prepared arc (List.replicate p.prepared.variableColSpecs.length .unset))))
    | _ => none
  | .prepareFromExisting i =>
    match s.objects[i]? with
    | some (.statement st) => st.statement.ref.map (fun arc => s.share (.prepared arc))
    | _ => none
  | .statementSet i setter =>
    match s.objects[i]? with
    | some (.statement st) => some (s.setStatement i (st.set s.prepareds setter) .statement)
    | _ => none
  | .statementCall i c =>
    match s.objects[i]? with
    | some (.statement st) => do
      let st ← st.call s.prepareds c
      return s.setStatement i (s.prepareds, st) .statement
    | _ => none
  | .batchNew batchType =>
    let (k, arc) := s.batches.new (.new batchType)
    some { s with batches := k, objects := s.objects ++ [.batch ⟨arc, none⟩] }
  | .batchSet i setter =>
    match s.objects[i]? with
    | some (.batch b) => some (s.setBatch i (b.set s.batches setter) .batch)
    | _ => none
  | .batchAddStatement i j =>
    match s.objects[i]?, s.objects[j]? with
    | some (.batch b), some (.statement st) => do
      let bound ← st.statement.read s.prepareds
      return s.setBatch i (b.makeMut s.batches (fun state => state.addStatement bound)) .batch
    | _, _ => none
  | .execute connected i =>
    match s.objects[i]? with
    | some (.statement st) => if connected then some (s.share (.request st false)) else some s
    | _ => none
  | .executeBatch connected i =>
    match s.objects[i]? with
    | some (.batch b) => if connected then some (s.share (.batchRequest b false)) else some s
    | _ => none
  | .resolveProfile i handle =>
    match s.objects[i]? with
    | some (.request st false) =>
      some (s.setStatement i (st.setOptions s.prepareds (QueryOptions.setHandle handle))
        (.request · true))
    | some (.batchRequest b false) =>
      some (s.setBatch i (b.makeMut s.batches (BatchContents.setHandle handle)) (.batchRequest · true))
    | _ => none
  | .free i =>
    match s.objects[i]? with
    | none => none
    | some .freed => none
    | some o => some (s.release i o)

end State

end CppRsDriver.Statement
