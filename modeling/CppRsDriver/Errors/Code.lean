/-! Error codes. Their numbers have where an error comes from in the high byte, and which one it
is below. -/
namespace CppRsDriver

inductive CassErrorSource where
  | none
  | lib
  | server
  | ssl
  deriving DecidableEq, Repr

def CassErrorSource.number : CassErrorSource → BitVec 32
  | .none => 0
  | .lib => 1
  | .server => 2
  | .ssl => 3

/-- `CASS_ERROR`: the number of an error. -/
def CassErrorSource.error (source : CassErrorSource) (number : BitVec 32) : BitVec 32 :=
  source.number <<< 24 ||| number

/-- An error: one of the enumerators of C that the driver uses, or another number. -/
inductive CassError where
  | ok
  | libBadParams
  | libNoStreams
  | libMessageEncode
  | libUnexpectedResponse
  | libNoHostsAvailable
  | libIndexOutOfBounds
  | libInvalidItemCount
  | libInvalidValueType
  | libRequestTimedOut
  | libUnableToSetKeyspace
  | libCallbackAlreadySet
  | libNameDoesNotExist
  | libNullValue
  | libUnableToConnect
  | libUnableToClose
  | libNoPagingState
  | libInvalidErrorResultType
  | libInvalidFutureType
  | libInvalidData
  | libInvalidState
  | libExecutionProfileInvalid
  | libNoTracingId
  | serverServerError
  | serverProtocolError
  | serverBadCredentials
  | serverUnavailable
  | serverOverloaded
  | serverIsBootstrapping
  | serverTruncateError
  | serverWriteTimeout
  | serverReadTimeout
  | serverReadFailure
  | serverFunctionFailure
  | serverWriteFailure
  | serverSyntaxError
  | serverUnauthorized
  | serverInvalidQuery
  | serverConfigError
  | serverAlreadyExists
  | serverUnprepared
  | lastEntry
  | unnamed (value : BitVec 32)
  deriving DecidableEq, Repr

namespace CassError

def value : CassError → BitVec 32
  | .ok => CassErrorSource.none.error 0
  | .libBadParams => CassErrorSource.lib.error 1
  | .libNoStreams => CassErrorSource.lib.error 2
  | .libMessageEncode => CassErrorSource.lib.error 4
  | .libUnexpectedResponse => CassErrorSource.lib.error 6
  | .libNoHostsAvailable => CassErrorSource.lib.error 10
  | .libIndexOutOfBounds => CassErrorSource.lib.error 11
  | .libInvalidItemCount => CassErrorSource.lib.error 12
  | .libInvalidValueType => CassErrorSource.lib.error 13
  | .libRequestTimedOut => CassErrorSource.lib.error 14
  | .libUnableToSetKeyspace => CassErrorSource.lib.error 15
  | .libCallbackAlreadySet => CassErrorSource.lib.error 16
  | .libNameDoesNotExist => CassErrorSource.lib.error 18
  | .libNullValue => CassErrorSource.lib.error 20
  | .libUnableToConnect => CassErrorSource.lib.error 22
  | .libUnableToClose => CassErrorSource.lib.error 23
  | .libNoPagingState => CassErrorSource.lib.error 24
  | .libInvalidErrorResultType => CassErrorSource.lib.error 26
  | .libInvalidFutureType => CassErrorSource.lib.error 27
  | .libInvalidData => CassErrorSource.lib.error 30
  | .libInvalidState => CassErrorSource.lib.error 32
  | .libExecutionProfileInvalid => CassErrorSource.lib.error 34
  | .libNoTracingId => CassErrorSource.lib.error 35
  | .serverServerError => CassErrorSource.server.error 0x0000
  | .serverProtocolError => CassErrorSource.server.error 0x000A
  | .serverBadCredentials => CassErrorSource.server.error 0x0100
  | .serverUnavailable => CassErrorSource.server.error 0x1000
  | .serverOverloaded => CassErrorSource.server.error 0x1001
  | .serverIsBootstrapping => CassErrorSource.server.error 0x1002
  | .serverTruncateError => CassErrorSource.server.error 0x1003
  | .serverWriteTimeout => CassErrorSource.server.error 0x1100
  | .serverReadTimeout => CassErrorSource.server.error 0x1200
  | .serverReadFailure => CassErrorSource.server.error 0x1300
  | .serverFunctionFailure => CassErrorSource.server.error 0x1400
  | .serverWriteFailure => CassErrorSource.server.error 0x1500
  | .serverSyntaxError => CassErrorSource.server.error 0x2000
  | .serverUnauthorized => CassErrorSource.server.error 0x2100
  | .serverInvalidQuery => CassErrorSource.server.error 0x2200
  | .serverConfigError => CassErrorSource.server.error 0x2300
  | .serverAlreadyExists => CassErrorSource.server.error 0x2400
  | .serverUnprepared => CassErrorSource.server.error 0x2500
  -- behind `CASS_ERROR_SSL_CLOSED`
  | .lastEntry => CassErrorSource.ssl.error 7 + 1
  | .unnamed value => value

def named : List CassError :=
  [.ok, .libBadParams, .libNoStreams, .libMessageEncode, .libUnexpectedResponse,
    .libNoHostsAvailable, .libIndexOutOfBounds, .libInvalidItemCount, .libInvalidValueType,
    .libRequestTimedOut, .libUnableToSetKeyspace, .libCallbackAlreadySet, .libNameDoesNotExist,
    .libNullValue, .libUnableToConnect, .libUnableToClose, .libNoPagingState,
    .libInvalidErrorResultType, .libInvalidFutureType, .libInvalidData, .libInvalidState,
    .libExecutionProfileInvalid, .libNoTracingId, .serverServerError, .serverProtocolError,
    .serverBadCredentials, .serverUnavailable, .serverOverloaded, .serverIsBootstrapping,
    .serverTruncateError, .serverWriteTimeout, .serverReadTimeout, .serverReadFailure,
    .serverFunctionFailure, .serverWriteFailure, .serverSyntaxError, .serverUnauthorized,
    .serverInvalidQuery, .serverConfigError, .serverAlreadyExists, .serverUnprepared, .lastEntry]

/-- The error that a number stands for. -/
def ofValue (value : BitVec 32) : CassError :=
  (named.find? (fun e => e.value == value)).getD (.unnamed value)

theorem value_ofValue (value : BitVec 32) : (ofValue value).value = value := by
  unfold ofValue
  cases found : named.find? (fun e => e.value == value) with
  | none => rfl
  | some e => simpa using List.find?_some found

end CassError

end CppRsDriver
