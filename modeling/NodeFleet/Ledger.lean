import NodeFleet.Lifecycle
import NodeFleet.Resource
import NodeFleet.Text.Numeral
import NodeFleet.Timestamp

/-!
# The admission ledger

A ledger holds the workloads admitted onto one node, by their ids, with the sum of what
they take.  A workload is admitted if in every dimension the sum with it stays within
what the node offers; one that is live already is answered with its record.  The
generation counts the effective changes.

Requests and offers are words, but sums are formed in the natural numbers, so a request
near the largest word is refused like any other that does not fit.
-/

namespace NodeFleet

/-- An admitted workload. -/
structure AdmissionRecord where
  workload : String
  requested : ResourceRequest
  admittedAt : Timestamp
  deriving DecidableEq

/-- Why a workload is not admitted. -/
inductive RejectionReason where
  /-- The first dimension that does not suffice. -/
  | insufficient (resource : Resource) (requested used allocatable : Nat)
  /-- The agent is not registered or is about to stop. -/
  | agentUnavailable (state : String)
  deriving DecidableEq

def RejectionReason.message : RejectionReason → String
  | .insufficient resource requested used allocatable =>
      "insufficient " ++ resource.listName ++ ": requested " ++ Text.Numeral.text requested ++
        ", used " ++ Text.Numeral.text used ++ ", allocatable " ++ Text.Numeral.text allocatable
  | .agentUnavailable state => "agent is not accepting placements (state " ++ state ++ ")"

/-- The answer to a placement. -/
inductive AdmissionDecision where
  /-- The workload is live under this record. -/
  | admitted (record : AdmissionRecord)
  /-- The workload was not admitted. -/
  | rejected (reason : RejectionReason)
  deriving DecidableEq

namespace AdmissionDecision

/-- Whether the workload is live. -/
def isAdmitted : AdmissionDecision → Bool
  | .admitted _ => true
  | .rejected _ => false

def rejection? : AdmissionDecision → Option RejectionReason
  | .admitted _ => none
  | .rejected reason => some reason

end AdmissionDecision

/-- What a ledger shows of its state. -/
structure LedgerSnapshot where
  /-- What the live workloads take. -/
  used : ResourceUsage
  allocatable : NodeResources
  /-- The number of live workloads. -/
  live : Nat
  /-- The number of effective changes so far. -/
  generation : Nat
  deriving DecidableEq

/-- The part of a dimension that is taken: the quotient of the two quantities, each rounded to a
double, and zero where nothing is offered. -/
def LedgerSnapshot.utilization (s : LedgerSnapshot) (r : Resource) : Float :=
  if s.allocatable.amount r = 0 then 0.0
  else
    (UInt64.ofNat (s.used.amount r)).toFloat / (UInt64.ofNat (s.allocatable.amount r)).toFloat

/-- The workloads admitted onto one node. -/
structure Ledger where
  allocatable : NodeResources
  /-- The live workloads by their ids. -/
  entries : Table AdmissionRecord
  /-- The sum of what they asked for. -/
  used : ResourceUsage
  /-- The number of effective changes so far. -/
  generation : Nat
  deriving DecidableEq

namespace Ledger

/-- The ledger of a node without workloads. -/
def empty (allocatable : NodeResources) : Ledger :=
  { allocatable, entries := [], used := .zero, generation := 0 }

/-- Whether a dimension has room for a request. -/
def fits (l : Ledger) (request : ResourceRequest) (r : Resource) : Bool :=
  l.used.amount r + request.amount r ≤ l.allocatable.amount r

/-- The first dimension without room for a request. -/
def shortage? (l : Ledger) (request : ResourceRequest) : Option Resource :=
  Resource.tracked.find? fun r => !l.fits request r

/-- The ledger with a workload put in. -/
def put (l : Ledger) (record : AdmissionRecord) : Ledger :=
  { l with
    entries := l.entries.insert record.workload record
    used := l.used.add record.requested
    generation := l.generation + 1 }

/-- Admits a workload if every dimension has room for it.  A live workload keeps its record. -/
def tryAdmit (l : Ledger) (workload : String) (request : ResourceRequest) (now : Timestamp) :
    AdmissionDecision × Ledger :=
  match l.entries.find? workload with
  | some record => (.admitted record, l)
  | none =>
      match l.shortage? request with
      | some r =>
          (.rejected (.insufficient r (request.amount r) (l.used.amount r)
            (l.allocatable.amount r)), l)
      | none =>
          let record := { workload, requested := request, admittedAt := now }
          (.admitted record, l.put record)

/-- Releases a workload; tells whether it was live. -/
def release (l : Ledger) (workload : String) : Bool × Ledger :=
  match l.entries.find? workload with
  | some record =>
      (true, { l with
        entries := l.entries.erase workload
        used := l.used.subtract record.requested
        generation := l.generation + 1 })
  | none => (false, l)

/-- The live workloads in the order of their ids. -/
def records (l : Ledger) : List AdmissionRecord :=
  l.entries.values

/-- The state that a ledger shows. -/
def snapshot (l : Ledger) : LedgerSnapshot :=
  { used := l.used, allocatable := l.allocatable, live := l.entries.length
    generation := l.generation }

end Ledger

end NodeFleet
