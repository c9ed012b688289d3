import NodeFleet.Remote.Message
import NodeFleet.Remote.Status

/-!
# Calls to a remote control plane

A message is carried by a network to a server, which replies with the version of a lease,
with nothing of interest, or with a status.  Where the network does not reach the server no
message arrives, and every call ends as unavailable.
-/

namespace NodeFleet.Remote

/-- What a server replies: a number, which some calls make use of, or a failure. -/
abbrev Reply := Except Status Nat

/-- The way to a server. -/
inductive Network where
  /-- There is no route to any server. -/
  | unreachable
  | connected (reply : Message → Reply)

namespace Network

/-- The status of a call that finds no route. -/
def noRoute : Status :=
  { code := .unavailable
    message := "error trying to connect: tcp connect error: Network is unreachable (os error 101)" }

/-- The message as it arrives, if it does. -/
def arrives (n : Network) (m : Message) : Option Message :=
  match n with
  | .unreachable => none
  | .connected _ => some m

/-- The reply to a message as the sender sees it. -/
def send (n : Network) (m : Message) : Except CallError Nat :=
  match n with
  | .unreachable => .error noRoute.toCallError
  | .connected reply =>
      match reply m with
      | .ok version => .ok version
      | .error status => .error status.toCallError

end Network

end NodeFleet.Remote
