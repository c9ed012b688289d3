import NodeFleet.ControlPlane
import NodeFleet.ControlPlane.Call
import NodeFleet.Tracker

/-!
# The site of a fleet

The site is what all agents of a fleet share: the control plane, the telemetry, the
clock and the supply of uids.  The clock only moves forward, and no uid is drawn twice.

Every call to the control plane begins with `beginCall`, which fixes when it ends, and
is settled by one of `settleRegister`, `settleRenew`, `settlePublish` and
`settleDeregister`: with the control plane's answer, or with a timeout that has no effect.
-/

namespace NodeFleet

/-- How a loop ended. -/
inductive LoopExit where
  | cancelled
  /-- The identity it worked for is lost. -/
  | superseded (error : CallError)
  deriving DecidableEq

/-- What all agents of a fleet share. -/
structure Site where
  plane : ControlPlane
  /-- Metrics, health and journal. -/
  telemetry : Telemetry
  /-- The time since the clock was started. -/
  now : Instant
  /-- The wall-clock time at which the clock was started. -/
  epoch : Timestamp
  /-- The number of uids drawn so far. -/
  drawn : Nat

namespace Site

/-- A site with an unused control plane. -/
def create (plane : ControlPlane) (epoch : Timestamp) : Site :=
  { plane, telemetry := .empty, now := 0, epoch, drawn := 0 }

/-- The wall-clock time. -/
def wall (s : Site) : Timestamp := s.epoch.later s.now

/-- Moves the clock forward to an instant; it does not move back. -/
def advanceTo (s : Site) (instant : Instant) : Site :=
  { s with now := max s.now instant }

/-- The uid with the given number. -/
def uid (number : Nat) : String := "uid-" ++ Text.Numeral.text number

/-- Draws a fresh identity. -/
def freshIdentity (s : Site) (name : String) (generation : Nat) : Identity × Site :=
  ({ name, uid := uid s.drawn, generation }, { s with drawn := s.drawn + 1 })

/-- Counts one more of a series. -/
def increment (s : Site) (series : Series) : Site :=
  { s with telemetry := s.telemetry.increment series }

/-- Writes an event into the journal. -/
def note (s : Site) (event : Journal.Event) : Site :=
  { s with telemetry := s.telemetry.note event }

/-- Moves a tracker to a state, if that is allowed. -/
def move (s : Site) (tracker : Tracker) (target : AgentState) : Tracker × Site :=
  let (_, tracker, telemetry) := tracker.move target s.telemetry s.wall
  (tracker, { s with telemetry })

def recordSuccess (s : Site) (tracker : Tracker) (kind : LoopKind) : Tracker × Site :=
  let (tracker, telemetry) := tracker.recordSuccess kind s.telemetry s.wall
  (tracker, { s with telemetry })

def recordFailure (s : Site) (tracker : Tracker) (kind : LoopKind) : Tracker × Site :=
  let (_, tracker, telemetry) := tracker.recordFailure kind s.telemetry s.wall
  (tracker, { s with telemetry })

/-! ## Calls -/

/-- Begins a call that is given up after the limit. -/
def beginCall (s : Site) (limit : Duration) : Call :=
  { begun := s.now, latency := s.plane.latency, limit }

/-- Settles a call: by what `complete` makes of the control plane if the call is answered, and
otherwise by a timeout. -/
def settle {α : Type} (s : Site) (call : Call)
    (complete : ControlPlane → Except CallError α × ControlPlane) : Except CallError α × Site :=
  if call.isAnswered then
    let (result, plane) := complete s.plane
    (result, { s with plane })
  else (.error (.timeout call.limit), s)

/-- Settling a call takes no time. -/
theorem settle_now {α : Type} (s : Site) (call : Call)
    (complete : ControlPlane → Except CallError α × ControlPlane) :
    (s.settle call complete).2.now = s.now := by
  unfold settle
  split <;> rfl

def settleRegister (s : Site) (call : Call) (identity : Identity) (profile : Profile) :
    Except CallError Nat × Site :=
  s.settle call fun plane => plane.register identity profile s.now s.wall

def settleRenew (s : Site) (call : Call) (identity : Identity) (version : Nat) :
    Except CallError Nat × Site :=
  s.settle call fun plane => plane.renew identity version s.now s.wall

/-- Settles a publication. -/
def settlePublish (s : Site) (call : Call) (identity : Identity) (snapshot : StatusSnapshot) :
    Except CallError Unit × Site :=
  s.settle call fun plane => plane.publish identity snapshot s.now

def settleDeregister (s : Site) (call : Call) (identity : Identity) :
    Except CallError Unit × Site :=
  s.settle call fun plane => plane.deregister identity s.now

end Site

end NodeFleet
