import CppRsDriver.Session.ExecProfile
import CppRsDriver.Statement.Model
import Mathlib.Algebra.Group.Int.Defs
import Mathlib.Algebra.Group.Nat.Defs

/-! The options of statements and batches, and the calls that set them. A call that is
turned away with `CASS_ERROR_LIB_BAD_PARAMS` changes nothing. -/
namespace CppRsDriver.Statement

open CppRsDriver.Session

inductive CassConsistency where
  | unknown
  | any
  | one
  | two
  | three
  | quorum
  | all
  | localQuorum
  | eachQuorum
  | serial
  | localSerial
  | localOne
  /-- Any other number of the C enumeration's type. -/
  | other (value : UInt32)
  deriving DecidableEq, Repr

inductive Consistency where
  | any
  | one
  | two
  | three
  | quorum
  | all
  | localQuorum
  | eachQuorum
  | localOne
  | serial
  | localSerial
  deriving DecidableEq, Repr

inductive SerialConsistency where
  | serial
  | localSerial
  deriving DecidableEq, Repr

inductive MaybeUnsetConfig (α : Type) where
  | unset
  | set (value : α)
  deriving DecidableEq, Repr

def Consistency.fromCValue : CassConsistency → Option (MaybeUnsetConfig Consistency)
  | .unknown => some .unset
  | .any => some (.set .any)
  | .one => some (.set .one)
  | .two => some (.set .two)
  | .three => some (.set .three)
  | .quorum => some (.set .quorum)
  | .all => some (.set .all)
  | .localQuorum => some (.set .localQuorum)
  | .eachQuorum => some (.set .eachQuorum)
  | .localOne => some (.set .localOne)
  | .localSerial => some (.set .localSerial)
  | .serial => some (.set .serial)
  | .other _ => none

/- `ANY` is the number 0, which stands for no serial consistency. -/
def SerialConsistency.fromCValue :
    CassConsistency → Option (MaybeUnsetConfig (Option SerialConsistency))
  | .unknown => some .unset
  | .any => some (.set none)
  | .localSerial => some (.set (some .localSerial))
  | .serial => some (.set (some .serial))
  | _ => none

/-- A duration in nanoseconds. -/
abbrev Duration := Nat

namespace RequestTimeout

/-- `Duration::MAX`. -/
def infinite : Duration := (2 ^ 64 - 1) * 10 ^ 9 + 999999999

/-- The argument of `set_request_timeout`: no opinion, or a timeout. -/
def ofMillis (timeoutMs : UInt64) : Option Duration :=
  if timeoutMs.toNat = 2 ^ 64 - 1 then none
  else if timeoutMs = 0 then some infinite
  else some (timeoutMs.toNat * 10 ^ 6)

end RequestTimeout

inductive CassRetryPolicy where
  | default
  | fallthrough
  | downgradingConsistency
  | logging (child : CassRetryPolicy)
  deriving DecidableEq, Repr

/-- The target of a `SingleTargetLoadBalancingPolicy`; a node of the cluster is a number. -/
inductive NodeIdentifier where
  | node (id : Nat)
  | nodeAddress (ip : IpAddr) (port : UInt16)
  deriving DecidableEq, Repr

/-- A handle of the Rust driver. -/
abbrev ExecutionProfileHandle := Nat

/-- The options a query, a prepared statement and a batch of the Rust driver have. -/
structure StatementConfig where
  consistency : Option Consistency := none
  serialConsistency : MaybeUnsetConfig (Option SerialConsistency) := .unset
  isIdempotent : Bool := false
  tracing : Bool := false
  timestamp : Option Int := none
  requestTimeout : Option Duration := none
  retryPolicy : Option CassRetryPolicy := none
  loadBalancingPolicy : Option NodeIdentifier := none
  executionProfileHandle : Option ExecutionProfileHandle := none
  deriving DecidableEq, Repr

/-- The options of a query or prepared statement. -/
structure QueryOptions where
  config : StatementConfig := {}
  /-- Set to a number, or left to the Rust driver. -/
  pageSize : Option Int := none
  deriving DecidableEq, Repr

/-- The setters that statements and batches both have. -/
inductive OptionSetter where
  | consistency (value : CassConsistency)
  | serialConsistency (value : CassConsistency)
  | timestamp (value : Int)
  | requestTimeout (timeoutMs : UInt64)
  | isIdempotent (value : Bool)
  | tracing (enabled : Bool)
  | retryPolicy (policy : Option CassRetryPolicy)
  deriving DecidableEq, Repr

/-- What a setter does to the options; `none` when it turns its argument away. -/
def OptionSetter.update : OptionSetter → Option (StatementConfig → StatementConfig)
  | .consistency value =>
    (Consistency.fromCValue value).map (fun maybe config =>
      match maybe with
      | .unset => { config with consistency := none }
      | .set level => { config with consistency := some level })
  | .serialConsistency value =>
    (SerialConsistency.fromCValue value).map
      (fun maybe config => { config with serialConsistency := maybe })
  | .timestamp value => some (fun config => { config with timestamp := some value })
  | .requestTimeout timeoutMs =>
    some (fun config => { config with requestTimeout := RequestTimeout.ofMillis timeoutMs })
  | .isIdempotent value => some (fun config => { config with isIdempotent := value })
  | .tracing enabled => some (fun config => { config with tracing := enabled })
  | .retryPolicy policy => some (fun config => { config with retryPolicy := policy })

/-- The bytes of a paging state; `none` is `PagingState::start()`. -/
abbrev PagingState := Option (List UInt8)

/-- All setters of a statement. -/
inductive StatementSetter where
  | option (setter : OptionSetter)
  /-- `set_host` and `set_host_inet`; `none` is a host that is no address. -/
  | host (address : Option IpAddr) (port : Int)
  | node (id : Nat)
  | pagingSize (pageSize : Int)
  /-- `set_paging_state`, with the answer of a result. -/
  | pagingState (response : PagingState)
  | pagingStateToken (token : Option (List UInt8))
  | executionProfile (name : CassStr)

/-- What it does to the options of the query or prepared statement; `none` when it leaves
them alone. -/
def StatementSetter.options : StatementSetter → Option (QueryOptions → QueryOptions)
  | .option setter =>
    setter.update.map (fun update options => { options with config := update options.config })
  | .host address port => do
    let ip ← address
    if 0 ≤ port ∧ port < 2 ^ 16 then
      some (fun options =>
        { options with
          config.loadBalancingPolicy := some (.nodeAddress ip (UInt16.ofNat port.toNat)) })
    else none
  | .node id =>
    some (fun options => { options with config.loadBalancingPolicy := some (.node id) })
  | .pagingSize pageSize =>
    if pageSize ≤ 0 then none else some (fun options => { options with pageSize := some pageSize })
  | .pagingState _ => none
  | .pagingStateToken _ => none
  | .executionProfile _ => none

/-- A statement. `P` is how it has its prepared statement: by reference, or by value. -/
inductive BoundOf (P : Type) where
  | simple (q : BoundSimpleStatement) (options : QueryOptions)
  | prepared (statement : P) (boundValues : List Slot)

/- The profile is the name that was set; the handle found for it is not modelled here. -/
structure CassStatement (P : Type) where
  statement : BoundOf P
  pagingState : PagingState
  pagingEnabled : Bool
  execProfile : Option ExecProfileName

def CassStatement.new {P : Type} (statement : BoundOf P) : CassStatement P :=
  ⟨statement, none, false, none⟩

/-- The profile that is set by a name; a null pointer and an empty name clear it. -/
def execProfileOf (name : CassStr) (before : Option ExecProfileName) : Option ExecProfileName :=
  match name with
  | .ok name => ExecProfileName.tryFrom name
  | .error .nullPointer => none
  | .error .invalidUtf8 => before

/-- What a setter does to the statement's own fields. -/
def StatementSetter.own {P : Type} (s : CassStatement P) : StatementSetter → CassStatement P
  | .pagingSize pageSize => { s with pagingEnabled := decide (0 < pageSize) }
  | .pagingState response => { s with pagingState := response }
  | .pagingStateToken token =>
    { s with pagingState := if token.getD [] = [] then none else token }
  | .executionProfile name => { s with execProfile := execProfileOf name s.execProfile }
  | .option _ => s
  | .host _ _ => s
  | .node _ => s

/-- All setters of a batch. -/
inductive BatchSetter where
  | option (setter : OptionSetter)
  | executionProfile (name : CassStr)

/-- A batch; `B` is how it has its state. -/
structure CassBatch (B : Type) where
  state : B
  execProfile : Option ExecProfileName

def BatchSetter.own {B : Type} (b : CassBatch B) : BatchSetter → CassBatch B
  | .executionProfile name => { b with execProfile := execProfileOf name b.execProfile }
  | .option _ => b

def BatchSetter.options : BatchSetter → Option (StatementConfig → StatementConfig)
  | .option setter => setter.update
  | .executionProfile _ => none

end CppRsDriver.Statement
