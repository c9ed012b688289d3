import NodeFleet.Table

/-!
# Resources of a simulated node

Admission keeps account of four dimensions: processor time in thousandths of a core,
bytes of memory, graphics processors and pods.  A node also advertises ephemeral
storage, which admission does not look at.

`NodeResources` is what a node offers, `ResourceRequest` what a workload asks for and
`ResourceUsage` what the admitted workloads take.  Each has a view by dimension,
`amount`, and the four-dimensional arithmetic is stated through it.
-/

namespace NodeFleet

/-- A dimension that admission keeps account of. -/
inductive Resource where
  /-- Thousandths of a processor core. -/
  | cpu
  | memory
  /-- Graphics processors. -/
  | gpu
  | pods
  deriving DecidableEq, Repr

namespace Resource

/-- The dimensions in the order in which admission checks them. -/
def tracked : List Resource := [.cpu, .memory, .gpu, .pods]

/-- The name of a dimension in resource lists and messages. -/
def listName : Resource → String
  | .cpu => "cpu"
  | .memory => "memory"
  | .gpu => "nvidia.com/gpu"
  | .pods => "pods"

/-- The name of a dimension in encoded decisions. -/
def wireName : Resource → String
  | .cpu => "cpu"
  | .memory => "memory"
  | .gpu => "gpu"
  | .pods => "pods"

theorem mem_tracked (r : Resource) : r ∈ tracked := by
  cases r <;> simp [tracked]

end Resource

/-- The quantities that a node offers. -/
structure NodeResources where
  /-- Thousandths of a processor core. -/
  cpuMillis : Nat
  memoryBytes : Nat
  /-- Graphics processors. -/
  gpuCount : Nat
  ephemeralBytes : Nat
  pods : Nat
  deriving DecidableEq

namespace NodeResources

/-- The quantity in one dimension. -/
def amount (n : NodeResources) : Resource → Nat
  | .cpu => n.cpuMillis
  | .memory => n.memoryBytes
  | .gpu => n.gpuCount
  | .pods => n.pods

/-- The quantities by their names, in the order of the names. -/
def toTable (n : NodeResources) : Table Nat :=
  [("cpu", n.cpuMillis), ("ephemeral-storage", n.ephemeralBytes), ("memory", n.memoryBytes),
    ("nvidia.com/gpu", n.gpuCount), ("pods", n.pods)]

end NodeResources

/-- The quantities that a workload asks for. -/
structure ResourceRequest where
  /-- Thousandths of a processor core. -/
  cpuMillis : Nat
  memoryBytes : Nat
  /-- Graphics processors. -/
  gpuCount : Nat
  deriving DecidableEq

namespace ResourceRequest

/-- The quantity in one dimension; a workload is one pod. -/
def amount (r : ResourceRequest) : Resource → Nat
  | .cpu => r.cpuMillis
  | .memory => r.memoryBytes
  | .gpu => r.gpuCount
  | .pods => 1

end ResourceRequest

/-- The quantities that the admitted workloads take. -/
structure ResourceUsage where
  /-- Thousandths of a processor core. -/
  cpuMillis : Nat
  memoryBytes : Nat
  /-- Graphics processors. -/
  gpuCount : Nat
  pods : Nat
  deriving DecidableEq

namespace ResourceUsage

/-- Nothing is taken. -/
def zero : ResourceUsage := ⟨0, 0, 0, 0⟩

/-- The quantity in one dimension. -/
def amount (u : ResourceUsage) : Resource → Nat
  | .cpu => u.cpuMillis
  | .memory => u.memoryBytes
  | .gpu => u.gpuCount
  | .pods => u.pods

/-- The usage with one more workload. -/
def add (u : ResourceUsage) (r : ResourceRequest) : ResourceUsage :=
  { cpuMillis := u.cpuMillis + r.cpuMillis
    memoryBytes := u.memoryBytes + r.memoryBytes
    gpuCount := u.gpuCount + r.gpuCount
    pods := u.pods + 1 }

/-- The usage with one workload less; no dimension falls below zero. -/
def subtract (u : ResourceUsage) (r : ResourceRequest) : ResourceUsage :=
  { cpuMillis := u.cpuMillis - r.cpuMillis
    memoryBytes := u.memoryBytes - r.memoryBytes
    gpuCount := u.gpuCount - r.gpuCount
    pods := u.pods - 1 }

theorem amount_add (u : ResourceUsage) (r : ResourceRequest) (d : Resource) :
    (u.add r).amount d = u.amount d + r.amount d := by
  cases d <;> rfl

theorem amount_subtract (u : ResourceUsage) (r : ResourceRequest) (d : Resource) :
    (u.subtract r).amount d = u.amount d - r.amount d := by
  cases d <;> rfl

theorem ext_amount {u v : ResourceUsage} (h : ∀ d, u.amount d = v.amount d) : u = v := by
  cases u
  cases v
  simpa [amount] using And.intro (h .cpu) (And.intro (h .memory) (And.intro (h .gpu) (h .pods)))

end ResourceUsage

end NodeFleet
