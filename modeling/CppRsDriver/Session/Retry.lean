import CppRsDriver.Errors.Result

/-! Retry policies. The policies of the Rust driver are given by what their sessions decide; a
logging policy asks the policy below it and writes down what that decides. -/
namespace CppRsDriver.Session

open CppRsDriver.Errors CppRsDriver.Statement

structure RequestInfo where
  error : RequestAttemptError
  isIdempotent : Bool
  consistency : Consistency

inductive RetryDecision where
  | retrySameTarget (consistency : Option Consistency)
  | retryNextTarget (consistency : Option Consistency)
  | dontRetry
  | ignoreWriteError
  deriving DecidableEq, Repr

/-- The policies of the Rust driver: their new sessions, and what sessions in `S` do. The
`Display` and `Debug` texts come with them. -/
structure RustPolicies (S : Type) where
  default : S
  fallthrough : S
  downgradingConsistency : S
  decideShouldRetry : S → RequestInfo → RetryDecision × S
  reset : S → S
  display : RequestAttemptError → String
  debug : Consistency → String

/-- A `Box<dyn RetrySession>`. -/
inductive RetrySession (S : Type) where
  | rust (session : S)
  | logging (childSession : RetrySession S)
  deriving DecidableEq, Repr

section Policies
variable {S : Type} (policies : RustPolicies S)

def debugOption : Option Consistency → String
  | none => "None"
  | some consistency => "Some(" ++ policies.debug consistency ++ ")"

/-- The line that a logging session writes about a decision. -/
def logged (info : RequestInfo) : RetryDecision → List String
  | .retrySameTarget consistency =>
    ["Retrying on the same target; Error: " ++ policies.display info.error ++
      "; Initial Consistency: " ++ policies.debug info.consistency ++ "; New Consistency: " ++
      debugOption policies consistency]
  | .retryNextTarget consistency =>
    ["Retrying on the next target; Error: " ++ policies.display info.error ++
      "; Initial Consistency: " ++ policies.debug info.consistency ++ "; New Consistency: " ++
      debugOption policies consistency]
  | .ignoreWriteError => ["Ignoring write error; Error: " ++ policies.display info.error]
  | .dontRetry => []

/-- The decision, the session afterwards, and what was logged on the way. -/
def RetrySession.decideShouldRetry (info : RequestInfo) :
    RetrySession S → RetryDecision × RetrySession S × List String
  | .rust session =>
    let (decision, session) := policies.decideShouldRetry session info
    (decision, .rust session, [])
  | .logging childSession =>
    let (decision, childSession, lines) := childSession.decideShouldRetry info
    (decision, .logging childSession, lines ++ logged policies info decision)

def RetrySession.reset : RetrySession S → RetrySession S
  | .rust session => .rust (policies.reset session)
  | .logging childSession => .logging childSession.reset

end Policies

/-- The policy that decides, below the logging ones. -/
def innermost : CassRetryPolicy → CassRetryPolicy
  | .logging child => innermost child
  | policy => policy

section Transparency
variable {S : Type} (policies : RustPolicies S)

/-- A session of the Rust driver under so many logging ones. -/
def wrapped (session : S) : Nat → RetrySession S
  | 0 => .rust session
  | depth + 1 => .logging (wrapped session depth)

end Transparency

end CppRsDriver.Session
