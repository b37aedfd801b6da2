import CppRsDriver.Errors.Code
import CppRsDriver.Statement.Options

/-! Failed requests: their codes, and the details that only some of them have. The errors of
the driver underneath may get further variants, all of which are `other` here. -/
namespace CppRsDriver.Errors

open CppRsDriver.Statement

inductive WriteType where
  | simple
  | batch
  | unloggedBatch
  | counter
  | batchLog
  | cas
  | view
  | cdc
  | other (name : String)
  deriving DecidableEq, Repr

inductive CassWriteType where
  | unknown
  | simple
  | batch
  | unloggedBatch
  | counter
  | batchLog
  | cas
  | view
  | cdc
  deriving DecidableEq, Repr

def CassWriteType.from : WriteType → CassWriteType
  | .simple => .simple
  | .batch => .batch
  | .unloggedBatch => .unloggedBatch
  | .counter => .counter
  | .batchLog => .batchLog
  | .cas => .cas
  | .view => .view
  | .cdc => .cdc
  | .other _ => .unknown

/-- `From<Consistency> for CassConsistency`. -/
def toCassConsistency : Consistency → CassConsistency
  | .any => .any
  | .one => .one
  | .two => .two
  | .three => .three
  | .quorum => .quorum
  | .all => .all
  | .localQuorum => .localQuorum
  | .eachQuorum => .eachQuorum
  | .localOne => .localOne
  | .serial => .serial
  | .localSerial => .localSerial

inductive DbError where
  | syntaxError
  | invalid
  | alreadyExists (keyspace table : String)
  | functionFailure (keyspace function : String) (argTypes : List String)
  | authenticationError
  | unauthorized
  | configError
  | unavailable (consistency : Consistency) (required alive : Int)
  | overloaded
  | isBootstrapping
  | truncateError
  | readTimeout (consistency : Consistency) (received required : Int) (dataPresent : Bool)
  | writeTimeout (consistency : Consistency) (received required : Int) (writeType : WriteType)
  | readFailure (consistency : Consistency) (received required numfailures : Int) (dataPresent : Bool)
  | writeFailure (consistency : Consistency) (received required numfailures : Int)
      (writeType : WriteType)
  | unprepared
  | serverError
  | protocolError
  | rateLimitReached
  /-- A code that the driver underneath does not know. -/
  | numbered (code : BitVec 32)
  | other
  deriving DecidableEq, Repr

inductive SerializationError where
  | unknownNamedParameter
  | other
  deriving DecidableEq, Repr

inductive RequestAttemptError where
  | serializationError (err : SerializationError)
  | cqlRequestSerialization
  | unableToAllocStreamId
  | brokenConnectionError
  | bodyExtensionsParseError
  | cqlResultParseError
  | cqlErrorParseError
  | dbError (err : DbError)
  | unexpectedResponse
  | repreparedIdChanged
  | repreparedIdMissingInBatch
  | nonfinishedPagingState
  | other
  deriving DecidableEq, Repr

inductive PrepareError where
  | connectionPoolError
  | allAttemptsFailed (firstAttempt : RequestAttemptError)
  | preparedStatementIdsMismatch
  | other
  deriving DecidableEq, Repr

inductive RequestError where
  | emptyPlan
  | connectionPoolError
  | requestTimeout
  | lastAttemptError (err : RequestAttemptError)
  | other
  deriving DecidableEq, Repr

inductive NextPageError where
  | partitionKeyError
  | requestFailure (err : RequestError)
  | resultMetadataParseError
  | other
  deriving DecidableEq, Repr

inductive NextRowError where
  | nextPageError (err : NextPageError)
  | rowDeserializationError
  | other
  deriving DecidableEq, Repr

inductive MetadataFetchErrorKind where
  | invalidColumnType
  | prepareError (err : PrepareError)
  | serializationError (err : SerializationError)
  | nextRowError (err : NextRowError)
  | other
  deriving DecidableEq, Repr

inductive MetadataError where
  | connectionPoolError
  | fetchError (kind : MetadataFetchErrorKind)
  | keyspaces
  | peers
  | tables
  | udts
  | other
  deriving DecidableEq, Repr

inductive BadQuery where
  | valuesTooLongForKey
  | partitionKeyExtraction
  | serializationError (err : SerializationError)
  | tooManyQueriesInBatchStatement
  | other
  deriving DecidableEq, Repr

inductive ExecutionError where
  | badQuery (err : BadQuery)
  | requestTimeout
  | emptyPlan
  | metadataError (err : MetadataError)
  | connectionPoolError
  | prepareError (err : PrepareError)
  | lastAttemptError (err : RequestAttemptError)
  | useKeyspaceError
  | schemaAgreementError
  | other
  deriving DecidableEq, Repr

inductive NewSessionError where
  | failedToResolveAnyHostname
  | emptyKnownNodesList
  | metadataError (err : MetadataError)
  | useKeyspaceError
  | other
  deriving DecidableEq, Repr

inductive CassErrorResult where
  | execution (err : ExecutionError)
  | resultMetadataLazyDeserialization
  | deserialization
  deriving DecidableEq, Repr

/-! `to_cass_error`. -/

def SerializationError.toCassError : SerializationError → CassError
  | .unknownNamedParameter => .libNameDoesNotExist
  | .other => .libInvalidData

def DbError.toCassError : DbError → CassError
  | .serverError => .serverServerError
  | .protocolError => .serverProtocolError
  | .authenticationError => .serverBadCredentials
  | .unavailable _ _ _ => .serverUnavailable
  | .overloaded => .serverOverloaded
  | .isBootstrapping => .serverIsBootstrapping
  | .truncateError => .serverTruncateError
  | .writeTimeout _ _ _ _ => .serverWriteTimeout
  | .readTimeout _ _ _ _ => .serverReadTimeout
  | .readFailure _ _ _ _ _ => .serverReadFailure
  | .functionFailure _ _ _ => .serverFunctionFailure
  | .writeFailure _ _ _ _ _ => .serverWriteFailure
  | .syntaxError => .serverSyntaxError
  | .unauthorized => .serverUnauthorized
  | .invalid => .serverInvalidQuery
  | .configError => .serverConfigError
  | .alreadyExists _ _ => .serverAlreadyExists
  | .unprepared => .serverUnprepared
  | .numbered code => .ofValue (CassErrorSource.server.error code)
  | .rateLimitReached => .serverUnavailable
  | .other => .lastEntry

def RequestAttemptError.toCassError : RequestAttemptError → CassError
  | .serializationError e => e.toCassError
  | .cqlRequestSerialization => .libMessageEncode
  | .unableToAllocStreamId => .libNoStreams
  | .brokenConnectionError => .libNoHostsAvailable
  | .bodyExtensionsParseError => .libInvalidData
  | .cqlResultParseError => .libInvalidData
  | .cqlErrorParseError => .libInvalidData
  | .dbError e => e.toCassError
  | .unexpectedResponse => .libUnexpectedResponse
  | .repreparedIdChanged => .libInvalidState
  | .repreparedIdMissingInBatch => .libInvalidState
  | .nonfinishedPagingState => .libInvalidState
  | .other => .lastEntry

/-- `ToCassError for ConnectionPoolError`. -/
def connectionPoolError : CassError := .libNoHostsAvailable

def PrepareError.toCassError : PrepareError → CassError
  | .connectionPoolError => Errors.connectionPoolError
  | .allAttemptsFailed firstAttempt => firstAttempt.toCassError
  | .preparedStatementIdsMismatch => .serverProtocolError
  | .other => .lastEntry

def RequestError.toCassError : RequestError → CassError
  | .emptyPlan => .libNoHostsAvailable
  | .connectionPoolError => Errors.connectionPoolError
  | .requestTimeout => .libRequestTimedOut
  | .lastAttemptError e => e.toCassError
  | .other => .lastEntry

def NextRowError.toCassError : NextRowError → CassError
  | .nextPageError .partitionKeyError => .libMessageEncode
  | .nextPageError (.requestFailure e) => e.toCassError
  | .nextPageError .resultMetadataParseError => .libInvalidData
  | .nextPageError .other => .lastEntry
  | .rowDeserializationError => .libInvalidData
  | .other => .lastEntry

def MetadataError.toCassError : MetadataError → CassError
  | .connectionPoolError => Errors.connectionPoolError
  | .fetchError .invalidColumnType => .libUnexpectedResponse
  | .fetchError (.prepareError e) => e.toCassError
  | .fetchError (.serializationError e) => e.toCassError
  | .fetchError (.nextRowError e) => e.toCassError
  | .fetchError .other => .lastEntry
  | .keyspaces | .peers | .tables | .udts => .libUnexpectedResponse
  | .other => .lastEntry

def BadQuery.toCassError : BadQuery → CassError
  | .valuesTooLongForKey => .libMessageEncode
  | .partitionKeyExtraction => .libMessageEncode
  | .serializationError e => e.toCassError
  | .tooManyQueriesInBatchStatement => .libMessageEncode
  | .other => .lastEntry

def ExecutionError.toCassError : ExecutionError → CassError
  | .badQuery e => e.toCassError
  | .requestTimeout => .libRequestTimedOut
  | .emptyPlan => .libNoHostsAvailable
  | .metadataError e => e.toCassError
  | .connectionPoolError => Errors.connectionPoolError
  | .prepareError e => e.toCassError
  | .lastAttemptError e => e.toCassError
  | .useKeyspaceError => .libUnableToSetKeyspace
  | .schemaAgreementError => .libInvalidState
  | .other => .lastEntry

def NewSessionError.toCassError : NewSessionError → CassError
  | .failedToResolveAnyHostname => .libNoHostsAvailable
  | .emptyKnownNodesList => .libNoHostsAvailable
  | .metadataError e => e.toCassError
  | .useKeyspaceError => .libUnableToSetKeyspace
  | .other => .lastEntry

def CassErrorResult.toCassError : CassErrorResult → CassError
  | .execution e => e.toCassError
  | .resultMetadataLazyDeserialization => .libInvalidData
  | .deserialization => .libInvalidData

/-! The accessors of error results. Details are found in the error a server answered the last
attempt with, and nowhere else. -/

namespace CassErrorResult

def lastDbError : CassErrorResult → Option DbError
  | .execution (.lastAttemptError (.dbError e)) => some e
  | _ => none

def cassErrorResultCode (r : CassErrorResult) : CassError := r.toCassError

def cassErrorResultConsistency (r : CassErrorResult) : CassConsistency :=
  match r.lastDbError with
  | some (.unavailable consistency _ _) | some (.readTimeout consistency _ _ _)
  | some (.writeTimeout consistency _ _ _) | some (.readFailure consistency _ _ _ _)
  | some (.writeFailure consistency _ _ _ _) => toCassConsistency consistency
  | _ => .unknown

def cassErrorResultResponsesReceived (r : CassErrorResult) : Int :=
  match r.lastDbError with
  | some (.unavailable _ _ alive) => alive
  | some (.readTimeout _ received _ _) | some (.writeTimeout _ received _ _)
  | some (.readFailure _ received _ _ _) | some (.writeFailure _ received _ _ _) => received
  | _ => -1

def cassErrorResultResponsesRequired (r : CassErrorResult) : Int :=
  match r.lastDbError with
  | some (.unavailable _ required _) => required
  | some (.readTimeout _ _ required _) | some (.writeTimeout _ _ required _)
  | some (.readFailure _ _ required _ _) | some (.writeFailure _ _ required _ _) => required
  | _ => -1

def cassErrorResultNumFailures (r : CassErrorResult) : Int :=
  match r.lastDbError with
  | some (.readFailure _ _ _ numfailures _) | some (.writeFailure _ _ _ numfailures _) => numfailures
  | _ => -1

def cassErrorResultDataPresent (r : CassErrorResult) : Bool :=
  match r.lastDbError with
  | some (.readTimeout _ _ _ dataPresent) | some (.readFailure _ _ _ _ dataPresent) => dataPresent
  | _ => false

def cassErrorResultWriteType (r : CassErrorResult) : CassWriteType :=
  match r.lastDbError with
  | some (.writeTimeout _ _ _ writeType) | some (.writeFailure _ _ _ _ writeType) => .from writeType
  | _ => .unknown

def cassErrorResultKeyspace (r : CassErrorResult) : Except CassError String :=
  match r.lastDbError with
  | some (.alreadyExists keyspace _) | some (.functionFailure keyspace _ _) => .ok keyspace
  | _ => .error .libInvalidErrorResultType

def cassErrorResultTable (r : CassErrorResult) : Except CassError String :=
  match r.lastDbError with
  | some (.alreadyExists _ table) => .ok table
  | _ => .error .libInvalidErrorResultType

def cassErrorResultFunction (r : CassErrorResult) : Except CassError String :=
  match r.lastDbError with
  | some (.functionFailure _ function _) => .ok function
  | _ => .error .libInvalidErrorResultType

def cassErrorNumArgTypes (r : CassErrorResult) : Nat :=
  match r.lastDbError with
  | some (.functionFailure _ _ argTypes) => argTypes.length
  | _ => 0

def cassErrorResultArgType (r : CassErrorResult) (index : Nat) : Except CassError String :=
  match r.lastDbError with
  | some (.functionFailure _ _ argTypes) =>
    match argTypes[index]? with
    | some argType => .ok argType
    | none => .error .libIndexOutOfBounds
  | _ => .error .libInvalidErrorResultType

end CassErrorResult

/-! An error is never reported as success. -/

theorem numbered_ne_ok (code : BitVec 32) :
    CassError.ofValue (CassErrorSource.server.error code) ≠ .ok := by
  intro is
  have number : CassErrorSource.server.error code = CassErrorSource.none.error 0 := by
    rw [← CassError.value_ofValue (CassErrorSource.server.error code), is]
    rfl
  have bit := congrArg (fun value => value.getLsbD 25) number
  simp [CassErrorSource.error, CassErrorSource.number] at bit

theorem SerializationError.toCassError_ne_ok (e : SerializationError) : e.toCassError ≠ .ok := by
  cases e <;> decide

theorem DbError.toCassError_ne_ok (e : DbError) : e.toCassError ≠ .ok := by
  cases e with
  | numbered code => exact numbered_ne_ok code
  | _ =>
    simp only [DbError.toCassError]
    decide

theorem RequestAttemptError.toCassError_ne_ok (e : RequestAttemptError) : e.toCassError ≠ .ok := by
  cases e with
  | serializationError e => exact e.toCassError_ne_ok
  | dbError e => exact e.toCassError_ne_ok
  | _ => exact (by decide)

theorem PrepareError.toCassError_ne_ok (e : PrepareError) : e.toCassError ≠ .ok := by
  cases e with
  | allAttemptsFailed e => exact e.toCassError_ne_ok
  | _ => exact (by decide)

theorem NextRowError.toCassError_ne_ok (e : NextRowError) : e.toCassError ≠ .ok := by
  cases e with
  | nextPageError e =>
    cases e with
    | requestFailure e =>
      cases e with
      | lastAttemptError e => exact e.toCassError_ne_ok
      | _ => exact (by decide)
    | _ => exact (by decide)
  | _ => exact (by decide)

theorem MetadataError.toCassError_ne_ok (e : MetadataError) : e.toCassError ≠ .ok := by
  cases e with
  | fetchError kind =>
    cases kind with
    | prepareError e => exact e.toCassError_ne_ok
    | serializationError e => exact e.toCassError_ne_ok
    | nextRowError e => exact e.toCassError_ne_ok
    | _ => exact (by decide)
  | _ => exact (by decide)

theorem ExecutionError.toCassError_ne_ok (e : ExecutionError) : e.toCassError ≠ .ok := by
  cases e with
  | badQuery e =>
    cases e with
    | serializationError e => exact e.toCassError_ne_ok
    | _ => exact (by decide)
  | metadataError e => exact e.toCassError_ne_ok
  | prepareError e => exact e.toCassError_ne_ok
  | lastAttemptError e => exact e.toCassError_ne_ok
  | _ => exact (by decide)

theorem NewSessionError.toCassError_ne_ok (e : NewSessionError) : e.toCassError ≠ .ok := by
  cases e with
  | metadataError e => exact e.toCassError_ne_ok
  | _ => exact (by decide)

theorem CassErrorResult.toCassError_ne_ok (r : CassErrorResult) : r.toCassError ≠ .ok := by
  cases r with
  | execution e => exact e.toCassError_ne_ok
  | _ => exact (by decide)

/- An error that has its code to itself: neither a rate limit, which has the code of another one,
nor a number that is unknown underneath. -/
def DbError.hasOwnCode : DbError → Bool
  | .rateLimitReached | .numbered _ => false
  | _ => true

namespace CassErrorResult

/-- The server answered the last attempt with an error of one of these codes. -/
def AnsweredWith (r : CassErrorResult) (codes : List CassError) : Prop :=
  ∃ e, r.lastDbError = some e ∧ e.hasOwnCode = true ∧ r.cassErrorResultCode ∈ codes

/-- The details of an error result, against the errors they belong to. The numbers and the write
type may themselves be those that stand for nothing known. -/
structure Explained (r : CassErrorResult) : Prop where
  consistency : r.cassErrorResultConsistency ≠ .unknown ↔ r.AnsweredWith
    [.serverUnavailable, .serverReadTimeout, .serverWriteTimeout, .serverReadFailure, .serverWriteFailure]
  responses : r.cassErrorResultResponsesReceived ≠ -1 ∨ r.cassErrorResultResponsesRequired ≠ -1 →
    r.cassErrorResultConsistency ≠ .unknown
  failures : r.cassErrorResultNumFailures ≠ -1 → r.AnsweredWith [.serverReadFailure, .serverWriteFailure]
  reads : r.cassErrorResultDataPresent = true → r.AnsweredWith [.serverReadTimeout, .serverReadFailure]
  writes : r.cassErrorResultWriteType ≠ .unknown →
    r.AnsweredWith [.serverWriteTimeout, .serverWriteFailure]
  keyspace : (∃ name, r.cassErrorResultKeyspace = .ok name) ↔
    r.AnsweredWith [.serverAlreadyExists, .serverFunctionFailure]
  table : (∃ name, r.cassErrorResultTable = .ok name) ↔ r.AnsweredWith [.serverAlreadyExists]
  function : (∃ name, r.cassErrorResultFunction = .ok name) ↔ r.AnsweredWith [.serverFunctionFailure]
  argTypes : ∀ index, (∃ argType, r.cassErrorResultArgType index = .ok argType) ↔
    index < r.cassErrorNumArgTypes
  otherTypes : ∀ index, r.cassErrorResultArgType index = .error .libInvalidErrorResultType ↔
    ¬ r.AnsweredWith [.serverFunctionFailure]

end CassErrorResult

end CppRsDriver.Errors
