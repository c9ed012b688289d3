import NodeFleet.Duration

/-!
# Control-plane operations and their errors

An agent calls the control plane in four ways.  A call fails with one of six errors;
`conflict` and `notFound` mean that the caller's identity is lost, and all others leave
it intact.
-/

namespace NodeFleet

/-- A call to the control plane. -/
inductive Operation where
  | register
  | renewLease
  | publishStatus
  /-- Removes an identity. -/
  | deregister
  deriving DecidableEq

namespace Operation

/-- The operations in the order of an identity's life. -/
def all : List Operation := [.register, .renewLease, .publishStatus, .deregister]

def name : Operation → String
  | .register => "register"
  | .renewLease => "renew_lease"
  | .publishStatus => "publish_status"
  | .deregister => "deregister"

end Operation

/-- Why a call failed. -/
inductive CallError where
  /-- The identity or its lease version is not the one on record. -/
  | conflict (detail : String)
  /-- No such agent is on record. -/
  | notFound (detail : String)
  /-- The request makes no sense. -/
  | invalid (detail : String)
  /-- The control plane cannot be reached. -/
  | unavailable (detail : String)
  /-- The control plane asks for patience. -/
  | throttled (detail : String)
  /-- No answer came in time. -/
  | timeout (limit : Duration)
  deriving DecidableEq

namespace CallError

/-- The short name of an error. -/
def kind : CallError → String
  | .conflict _ => "conflict"
  | .notFound _ => "not_found"
  | .invalid _ => "invalid"
  | .unavailable _ => "unavailable"
  | .throttled _ => "throttled"
  | .timeout _ => "timeout"

def message : CallError → String
  | .conflict detail => "conflict: " ++ detail
  | .notFound detail => "not found: " ++ detail
  | .invalid detail => "invalid request: " ++ detail
  | .unavailable detail => "control plane unavailable: " ++ detail
  | .throttled detail => "throttled: " ++ detail
  | .timeout limit => "call timed out after " ++ Duration.text limit

/-- Whether the caller's identity is lost. -/
def isIdentityLost : CallError → Bool
  | .conflict _ => true
  | .notFound _ => true
  | _ => false

end CallError

end NodeFleet
