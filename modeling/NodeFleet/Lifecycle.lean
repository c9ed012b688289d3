/-!
# The life cycle of an agent

An agent registers, is active, may be degraded by failures, goes back to registering
when its identity is lost, and ends by terminating and stopping:

    unregistered → registering ⇄ active ⇄ degraded
    any state before terminating → terminating → stopped

`AgentState.canMoveTo` is the table of allowed moves.
-/

namespace NodeFleet

/-- Where an agent is in its life. -/
inductive AgentState where
  /-- Created, nothing done yet. -/
  | unregistered
  /-- Registering, or waiting to register. -/
  | registering
  /-- Registered, with both loops working. -/
  | active
  /-- Registered, with a loop that keeps failing. -/
  | degraded
  /-- Told to stop. -/
  | terminating
  | stopped
  deriving DecidableEq, Repr

namespace AgentState

/-- The states in the order of a life. -/
def all : List AgentState :=
  [.unregistered, .registering, .active, .degraded, .terminating, .stopped]

def name : AgentState → String
  | .unregistered => "unregistered"
  | .registering => "registering"
  | .active => "active"
  | .degraded => "degraded"
  | .terminating => "terminating"
  | .stopped => "stopped"

/-- Whether the agent is registered and its loops run. -/
def isRunning : AgentState → Bool
  | .active => true
  | .degraded => true
  | _ => false

/-- Whether a move from one state to another is allowed. -/
def canMoveTo : AgentState → AgentState → Bool
  | .stopped, _ => false
  | .terminating, next => next = .stopped
  | _, .terminating => true
  | .unregistered, next => next = .registering
  | .registering, next => next = .active || next = .degraded
  | .active, next => next = .degraded || next = .registering
  | .degraded, next => next = .active || next = .registering

theorem not_canMoveTo_self (s : AgentState) : s.canMoveTo s = false := by
  cases s <;> rfl

theorem mem_all (s : AgentState) : s ∈ all := by
  cases s <;> simp [all]

end AgentState

end NodeFleet
