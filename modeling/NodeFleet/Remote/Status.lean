import NodeFleet.ControlPlane.Error

/-!
# How calls to a remote control plane end

A remote call ends with a status: a code and a message.  Codes other than `ok` are
sorted into the errors that an agent tells apart.  What no error stands for counts as the
control plane being unavailable, with the name of the code in front of the message.
-/

namespace NodeFleet.Remote

inductive StatusCode where
  /-- The call succeeded. -/
  | ok
  /-- The caller gave up. -/
  | cancelled
  /-- Nothing is known about the failure. -/
  | unknown
  /-- The request makes no sense. -/
  | invalidArgument
  /-- No answer came in time. -/
  | deadlineExceeded
  /-- What was asked for does not exist. -/
  | notFound
  | alreadyExists
  /-- The caller may not do this. -/
  | permissionDenied
  /-- The caller asks too often. -/
  | resourceExhausted
  /-- The state does not allow the call. -/
  | failedPrecondition
  /-- The call lost against another one. -/
  | aborted
  | outOfRange
  /-- The operation is not offered. -/
  | unimplemented
  /-- An invariant is broken. -/
  | internal
  /-- The server cannot be reached. -/
  | unavailable
  | dataLoss
  /-- The caller is not known. -/
  | unauthenticated
  deriving DecidableEq

namespace StatusCode

def name : StatusCode → String
  | .ok => "Ok"
  | .cancelled => "Cancelled"
  | .unknown => "Unknown"
  | .invalidArgument => "InvalidArgument"
  | .deadlineExceeded => "DeadlineExceeded"
  | .notFound => "NotFound"
  | .alreadyExists => "AlreadyExists"
  | .permissionDenied => "PermissionDenied"
  | .resourceExhausted => "ResourceExhausted"
  | .failedPrecondition => "FailedPrecondition"
  | .aborted => "Aborted"
  | .outOfRange => "OutOfRange"
  | .unimplemented => "Unimplemented"
  | .internal => "Internal"
  | .unavailable => "Unavailable"
  | .dataLoss => "DataLoss"
  | .unauthenticated => "Unauthenticated"

end StatusCode

/-- The status of a failed call. -/
structure Status where
  code : StatusCode
  message : String
  deriving DecidableEq

/-- The error that a failed call is to an agent. -/
def Status.toCallError (s : Status) : CallError :=
  match s.code with
  | .alreadyExists | .aborted | .failedPrecondition => .conflict s.message
  | .notFound => .notFound s.message
  | .invalidArgument | .outOfRange => .invalid s.message
  | .resourceExhausted => .throttled s.message
  | .deadlineExceeded | .cancelled => .unavailable ("deadline exceeded: " ++ s.message)
  | code => .unavailable (code.name ++ ": " ++ s.message)

end NodeFleet.Remote
