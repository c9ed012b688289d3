import NodeFleet.ControlPlane.Error
import NodeFleet.Lifecycle

/-!
# Metrics

Every metric is a family of series, one per label.  All of them are whole numbers: a
gauge of agents by state, counters of outcomes, and for call latencies the number of
observations.  `Metrics.count` is the view: what each series has come to.
-/

namespace NodeFleet

/-- The outcome of a lease renewal. -/
inductive RenewalOutcome where
  | success
  /-- The call failed; the identity is intact. -/
  | failure
  /-- The identity is lost. -/
  | superseded
  deriving DecidableEq

/-- The outcome of a status tick. -/
inductive PublishOutcome where
  | published
  | skipped
  /-- The call failed; the identity is intact. -/
  | failed
  /-- The identity is lost. -/
  | superseded
  deriving DecidableEq

/-- The outcome of a placement request. -/
inductive PlacementOutcome where
  /-- The workload is live. -/
  | admitted
  /-- The workload was turned away. -/
  | rejected
  | released
  deriving DecidableEq

def RenewalOutcome.name : RenewalOutcome → String
  | .success => "success"
  | .failure => "failure"
  | .superseded => "superseded"

/-- The name of a tick's outcome. -/
def PublishOutcome.name : PublishOutcome → String
  | .published => "published"
  | .skipped => "skipped"
  | .failed => "failed"
  | .superseded => "superseded"

def PlacementOutcome.name : PlacementOutcome → String
  | .admitted => "admitted"
  | .rejected => "rejected"
  | .released => "released"

inductive Series where
  | agents (state : AgentState)
  | leaseRenewals (outcome : RenewalOutcome)
  | statusPublishes (outcome : PublishOutcome)
  /-- Registrations: successes, or failures by the kind of their error. -/
  | registrations (failure : Option String)
  /-- Losses of an identity. -/
  | reregistrations
  | placements (outcome : PlacementOutcome)
  | callLatency (operation : Operation)
  deriving DecidableEq

/-- The name of a series: its family and its label in brackets. -/
def Series.name : Series → String
  | .agents state => "agents[" ++ state.name ++ "]"
  | .leaseRenewals outcome => "lease_renewals_total[" ++ outcome.name ++ "]"
  | .statusPublishes outcome => "status_publishes_total[" ++ outcome.name ++ "]"
  | .registrations failure => "registrations_total[" ++ failure.getD "success" ++ "]"
  | .reregistrations => "reregistrations_total"
  | .placements outcome => "placements_total[" ++ outcome.name ++ "]"
  | .callLatency operation => "control_plane_latency_seconds[" ++ operation.name ++ "]"

/-- What the series have come to; a series without an entry stands at zero. -/
structure Metrics where
  /-- The series that were changed, each once. -/
  entries : List (Series × Int)
  deriving DecidableEq

namespace Metrics

/-- All series at zero. -/
def zero : Metrics := ⟨[]⟩

def addTo (series : Series) (amount : Int) : List (Series × Int) → List (Series × Int)
  | [] => [(series, amount)]
  | (s, n) :: rest =>
      if s = series then (s, n + amount) :: rest else (s, n) :: addTo series amount rest

/-- What a series has come to in a list of entries. -/
def valueIn (series : Series) : List (Series × Int) → Int
  | [] => 0
  | (s, n) :: rest => if s = series then n else valueIn series rest

/-- What a series has come to. -/
def count (m : Metrics) (series : Series) : Int :=
  valueIn series m.entries

/-- Changes a series by an amount. -/
def add (m : Metrics) (series : Series) (amount : Int) : Metrics :=
  ⟨addTo series amount m.entries⟩

/-- Counts one more. -/
def increment (m : Metrics) (series : Series) : Metrics := m.add series 1

/-- Moves one agent from the gauge of one state, if any, to that of another. -/
def moveAgent (m : Metrics) (source : Option AgentState) (target : AgentState) : Metrics :=
  match source with
  | some state => (m.add (.agents state) (-1)).increment (.agents target)
  | none => m.increment (.agents target)

theorem valueIn_addTo (series other : Series) (amount : Int) (entries : List (Series × Int)) :
    valueIn other (addTo series amount entries) =
      valueIn other entries + if series = other then amount else 0 := by
  induction entries with
  | nil => simp [addTo, valueIn]
  | cons entry rest ih =>
      obtain ⟨s, n⟩ := entry
      unfold addTo
      by_cases hs : s = series
      · subst hs
        by_cases ho : s = other <;> simp [valueIn, ho]
      · simp only [if_neg hs, valueIn, ih]
        by_cases ho : s = other
        · have : series ≠ other := fun h => hs (ho.trans h.symm)
          simp [ho, this]
        · simp [ho]

/-- Changing a series changes its count and no other. -/
theorem count_add (m : Metrics) (series other : Series) (amount : Int) :
    (m.add series amount).count other = m.count other + if series = other then amount else 0 :=
  valueIn_addTo series other amount m.entries

end Metrics

end NodeFleet
