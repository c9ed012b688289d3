import NodeFleet.Config

/-!
# Launching and stopping a fleet

Agents are launched one after the other, each at its offset from the beginning of the
launch: its number times the stagger, and a random extra below the jitter.  The order of
the launch is that of the offsets, and of the numbers where offsets are equal.

A shutdown report tells which agents stopped in time and which did not.
-/

namespace NodeFleet

/-! ## Offsets -/

/-- The offset of an agent with the given extra delay; `none` where it passes the bound of
durations. -/
def launchOffset? (stagger : Duration) (index : Nat) (extra : Duration) : Option Duration :=
  Duration.add? (Duration.scaleSaturating stagger (min index (2 ^ 32 - 1))) extra

/-- The number of nanoseconds from which an extra delay is drawn. -/
def jitterSpan (jitter : Duration) : Nat :=
  min jitter (2 ^ 64 - 1)

/-- The offsets of `count` agents, where `draw index` is the extra delay drawn for an agent from
the numbers below the jitter; without jitter there is none. -/
def launchOffsets? (count : Nat) (stagger jitter : Duration) (draw : Nat → Duration) :
    Option (List Duration) :=
  (List.range count).mapM fun index =>
    launchOffset? stagger index (if jitterSpan jitter = 0 then 0 else draw index)

/-- Whether an agent is launched before another. -/
def launchesBefore (a b : Duration × Nat) : Bool :=
  a.1 < b.1 || (a.1 = b.1 && a.2 ≤ b.2)

/-- The agents in the order of their launch, with their offsets. -/
def launchSchedule (offsets : List Duration) : List (Duration × Nat) :=
  offsets.zipIdx.mergeSort launchesBefore

/-! ## The shutdown report -/

/-- The agents that stopped in time, and those that did not. -/
structure ShutdownReport where
  stopped : List String
  /-- The agents that did not. -/
  failed : List String
  deriving DecidableEq

namespace ShutdownReport

/-- Names in ascending order. -/
def sortNames (names : List String) : List String :=
  names.mergeSort fun a b => a ≤ b

/-- The report on the given agents; one without an outcome did not stop. -/
def ofOutcomes (agents : List String) (outcomes : List Agent.StopOutcome) : ShutdownReport :=
  let names (clean : Bool) : List String :=
    (outcomes.filter fun o => o.clean = clean).map Agent.StopOutcome.name
  let reported := outcomes.map Agent.StopOutcome.name
  { stopped := sortNames (names true)
    failed := sortNames (names false ++ agents.filter fun name => name ∉ reported) }

/-- Whether every agent stopped. -/
def isClean (r : ShutdownReport) : Bool := r.failed = []

end ShutdownReport

end NodeFleet
