import NodeFleet.Ledger

/-!
# Node conditions and status snapshots

A node reports five conditions.  Two of them follow the ledger: memory and pods are
under pressure when their utilization reaches a threshold.  The other three are
constant.  A condition keeps the time of its last transition for as long as its status
stays the same.

The pressure test enters `buildConditions` as a predicate on dimensions, so that what
the module says of transition times holds for every such test.
-/

namespace NodeFleet

/-- What a condition is about. -/
inductive ConditionType where
  /-- The node accepts workloads. -/
  | ready
  /-- Memory runs short. -/
  | memoryPressure
  /-- Disk space runs short. -/
  | diskPressure
  /-- Process ids run short. -/
  | pidPressure
  /-- The pod network does not work. -/
  | networkUnavailable
  deriving DecidableEq

namespace ConditionType

/-- The conditions in the order in which they are reported. -/
def all : List ConditionType :=
  [.ready, .memoryPressure, .diskPressure, .pidPressure, .networkUnavailable]

def name : ConditionType → String
  | .ready => "Ready"
  | .memoryPressure => "MemoryPressure"
  | .diskPressure => "DiskPressure"
  | .pidPressure => "PIDPressure"
  | .networkUnavailable => "NetworkUnavailable"

end ConditionType

inductive ConditionStatus where
  | yes
  /-- It does not hold. -/
  | no
  | unknown
  deriving DecidableEq

namespace ConditionStatus

/-- The three statuses. -/
def all : List ConditionStatus := [.yes, .no, .unknown]

def name : ConditionStatus → String
  | .yes => "True"
  | .no => "False"
  | .unknown => "Unknown"

end ConditionStatus

/-- A reported condition. -/
structure NodeCondition where
  type : ConditionType
  status : ConditionStatus
  /-- A word for the cause of the status. -/
  reason : String
  /-- The cause in words. -/
  message : String
  /-- When the status last changed. -/
  transitionAt : Timestamp
  deriving DecidableEq

/-- What the evaluation of a condition comes to. -/
structure Verdict where
  status : ConditionStatus
  /-- A word for the cause. -/
  reason : String
  /-- The cause in words. -/
  message : String
  deriving DecidableEq

/-- The verdict on a condition, given which dimensions are under pressure. -/
def evaluate (pressed : Resource → Bool) : ConditionType → Verdict
  | .ready => ⟨.yes, "AgentReady", "hollow agent is posting ready status"⟩
  | .memoryPressure =>
      if pressed .memory then
        ⟨.yes, "AgentHasInsufficientMemory", "admitted memory is above the pressure threshold"⟩
      else ⟨.no, "AgentHasSufficientMemory", "agent has sufficient memory available"⟩
  | .diskPressure => ⟨.no, "AgentHasNoDiskPressure", "agent has no disk pressure"⟩
  | .pidPressure =>
      if pressed .pods then
        ⟨.yes, "AgentHasInsufficientPID", "admitted pods are above the pressure threshold"⟩
      else ⟨.no, "AgentHasSufficientPID", "agent has sufficient PID available"⟩
  | .networkUnavailable => ⟨.no, "RouteCreated", "pod network is configured"⟩

/-- The time of the last transition: that of the first earlier entry with the same type and
status, or `now`. -/
def transitionTime (previous : List NodeCondition) (type : ConditionType)
    (status : ConditionStatus) (now : Timestamp) : Timestamp :=
  match previous.find? fun c => c.type = type ∧ c.status = status with
  | some c => c.transitionAt
  | none => now

/-- The five conditions, given those reported before. -/
def buildConditions (previous : List NodeCondition) (pressed : Resource → Bool)
    (now : Timestamp) : List NodeCondition :=
  ConditionType.all.map fun type =>
    let verdict := evaluate pressed type
    { type
      status := verdict.status
      reason := verdict.reason
      message := verdict.message
      transitionAt := transitionTime previous type verdict.status now }

/-- Whether a dimension's utilization reaches the threshold. -/
def LedgerSnapshot.isPressed (s : LedgerSnapshot) (threshold : Float) (r : Resource) : Bool :=
  threshold ≤ s.utilization r

/-- Whether the list has no entry of the type of `current` or has another status there first. -/
def differsFrom (previous : List NodeCondition) (current : NodeCondition) : Bool :=
  match previous.find? fun p => p.type = current.type with
  | some p => p.status ≠ current.status
  | none => true

/-- Whether two reports differ in length or in the status of a condition. -/
def conditionsDiffer (current previous : List NodeCondition) : Bool :=
  current.length ≠ previous.length || current.any (differsFrom previous)

/-- The full report of a node's state. -/
structure StatusSnapshot where
  conditions : List NodeCondition
  capacity : NodeResources
  /-- What workloads can take. -/
  allocatable : NodeResources
  /-- The generation of the ledger that the report is about. -/
  observedGeneration : Nat
  /-- The pod address range. -/
  podCidr : String
  /-- When the report was made. -/
  generatedAt : Timestamp
  deriving DecidableEq

/-- The first condition of a type. -/
def StatusSnapshot.condition? (s : StatusSnapshot) (type : ConditionType) :
    Option NodeCondition :=
  s.conditions.find? fun c => c.type = type

end NodeFleet
