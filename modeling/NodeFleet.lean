import NodeFleet.Cli.Replay
import NodeFleet.LoopRun
import NodeFleet.Main
import NodeFleet.Wire.Daemon
import NodeFleet.Wire.Remote
import NodeFleet.Json.Access
import NodeFleet.Proofs.Ledger.Run
import NodeFleet.Proofs.Table.Sorted
import NodeFleet.Proofs.Ledger.Accounts
import NodeFleet.Proofs.ControlPlane.Fencing
import NodeFleet.Proofs.StatusSync.Run
import NodeFleet.Proofs.StatusSync.Staleness
import NodeFleet.Proofs.Tracker.Gauge
import NodeFleet.Proofs.Tracker.Roster
import NodeFleet.Proofs.Agent.Gauge
import NodeFleet.Proofs.Cohort.Gauge
import NodeFleet.Proofs.Tracker.Overlap
import NodeFleet.Proofs.Condition.Statuses
import NodeFleet.Proofs.StatusSync.Delivery
import NodeFleet.Proofs.Agent.Run
import NodeFleet.Proofs.Agent.Turn
import NodeFleet.Proofs.Agent.Identity
import NodeFleet.Proofs.Agent.Lease
import NodeFleet.Proofs.Agent.StopCalls
import NodeFleet.Proofs.Agent.Lifecycle
import NodeFleet.Proofs.Agent.Cancellation
import NodeFleet.Proofs.Agent.Departure
import NodeFleet.Proofs.Agent.Overlap
import NodeFleet.Proofs.Text.Parts
import NodeFleet.Proofs.AddressRange.Block
import NodeFleet.Proofs.AddressRange.Text
import NodeFleet.Proofs.Config.Profiles
import NodeFleet.Proofs.Cli.Requests
import NodeFleet.Proofs.Agent.PromptStop
import NodeFleet.Proofs.Fleet.Shutdown
import NodeFleet.Proofs.Wire.Agreement
import NodeFleet.Proofs.Tracker.Trail
import NodeFleet.Proofs.Fleet.Starts
import NodeFleet.Proofs.Agent.Snapshots
import NodeFleet.Proofs.Agent.CallLog
import NodeFleet.Proofs.Ledger.Admission
import NodeFleet.Proofs.Ledger.Generation
import NodeFleet.Proofs.Config.Options
import NodeFleet.Proofs.Backoff.Delay
import NodeFleet.Proofs.Agent.Pace
import NodeFleet.Proofs.Agent.Registration
import NodeFleet.Proofs.Fleet.Calls
import NodeFleet.Proofs.Fleet.Readiness
import NodeFleet.Proofs.Fleet.Ledgers
import NodeFleet.Proofs.Api.Front
import NodeFleet.Proofs.Agent.Health
import NodeFleet.Proofs.Health.Overall
import NodeFleet.Proofs.Heartbeat.Cadence
import NodeFleet.Proofs.Ledger.Order
import NodeFleet.Proofs.AddressRange.Division
import NodeFleet.Proofs.Condition.Transition
import NodeFleet.Proofs.StatusSync.Quiet
import NodeFleet.Proofs.Tracker.FailuresInRow
import NodeFleet.Proofs.Text.Numeral
import NodeFleet.Proofs.Quantity.Grammar
import NodeFleet.Proofs.Quantity.RoundTrip
import NodeFleet.Proofs.Backoff.Run
import NodeFleet.Proofs.ControlPlane.Traffic
import NodeFleet.Proofs.Agent.Placement
import NodeFleet.Proofs.AddressRange.Grammar
import NodeFleet.Proofs.ControlPlane.Window
import NodeFleet.Proofs.Remote.Message
import NodeFleet.Proofs.StatusSync.Grid
import NodeFleet.Proofs.Fleet.Offsets
import NodeFleet.Proofs.Fleet.Timetable
