import NodeFleet.Duration
import NodeFleet.Timestamp

/-!
# Identities and leases

An agent's name stays the same for its whole life.  Its uid and generation change
whenever it registers anew after its identity was lost, so a name, a uid and a
generation together are one identity.
-/

namespace NodeFleet

/-- The identity under which an agent is registered. -/
structure Identity where
  name : String
  /-- The unique text of this identity. -/
  uid : String
  /-- The number of identities that the agent had before. -/
  generation : Nat
  deriving DecidableEq

def Identity.text (i : Identity) : String :=
  i.name ++ "@" ++ Text.Numeral.text i.generation

/-- An agent's own view of its lease. -/
structure Lease where
  /-- The uid of the identity that holds the lease. -/
  holder : String
  /-- The time between renewals. -/
  renewInterval : Duration
  renewedAt : Option Timestamp
  version : Nat
  deriving DecidableEq

end NodeFleet
