import NodeFleet.AddressRange
import NodeFleet.Resource

/-!
# Resource profiles

A profile is the fabricated description of one node: the quantities it offers and the
address range of its pods.  It is built from a plan, in which the range may be missing
and the quantities may be anything; building checks processor, memory and pods in this
order and then the range.  Capacity and allocatable quantities are the same.
-/

namespace NodeFleet

/-- Why a profile or an address range is refused. -/
inductive ProfileError where
  /-- A quantity that must be positive is zero. -/
  | zeroQuantity (what : String)
  | malformedRange (value : String) (fault : AddressFault)
  /-- A subnet cannot be given out. -/
  | subnet (fault : SubnetFault)
  deriving DecidableEq

/-- The short name of a refusal. -/
def ProfileError.kind : ProfileError → String
  | .zeroQuantity _ => "zero_quantity"
  | .malformedRange .. => "malformed_address_range"
  | .subnet fault => fault.kind

/-- The wording of a refusal. -/
def ProfileError.message : ProfileError → String
  | .zeroQuantity what => what ++ " must be greater than zero"
  | .malformedRange value fault =>
      "malformed pod address range '" ++ value ++ "': " ++ fault.reason
  | .subnet fault => fault.message

/-- Reads an address range, keeping the text in a refusal. -/
def readRange (text : String) : Except ProfileError AddressRange :=
  match AddressRange.read text with
  | .ok range => .ok range
  | .error fault => .error (.malformedRange text fault)

/-- The description of one node. -/
structure Profile where
  /-- Thousandths of a processor core. -/
  cpuMillis : Nat
  memoryBytes : Nat
  /-- Graphics processors. -/
  gpuCount : Nat
  ephemeralBytes : Nat
  maxPods : Nat
  /-- The addresses of the node's pods. -/
  podRange : AddressRange
  deriving DecidableEq

namespace Profile

/-- What a profile is to be built from. -/
structure Plan where
  /-- Thousandths of a processor core. -/
  cpuMillis : Nat := 0
  memoryBytes : Nat := 0
  /-- Graphics processors. -/
  gpuCount : Nat := 0
  ephemeralBytes : Nat := 0
  maxPods : Nat := 110
  /-- The text of the pod address range, if one is given. -/
  podRange : Option String := none

def build (plan : Plan) : Except ProfileError Profile :=
  if plan.cpuMillis = 0 then .error (.zeroQuantity "cpu")
  else if plan.memoryBytes = 0 then .error (.zeroQuantity "memory")
  else if plan.maxPods = 0 then .error (.zeroQuantity "pods")
  else
    match plan.podRange with
    | none => .error (.malformedRange "" .absent)
    | some text =>
        match readRange text with
        | .error e => .error e
        | .ok podRange =>
            .ok { cpuMillis := plan.cpuMillis
                  memoryBytes := plan.memoryBytes
                  gpuCount := plan.gpuCount
                  ephemeralBytes := plan.ephemeralBytes
                  maxPods := plan.maxPods
                  podRange }

/-- The quantities that the node has. -/
def capacity (p : Profile) : NodeResources :=
  { cpuMillis := p.cpuMillis
    memoryBytes := p.memoryBytes
    gpuCount := p.gpuCount
    ephemeralBytes := p.ephemeralBytes
    pods := p.maxPods }

/-- The quantities that workloads can take: all of them. -/
def allocatable (p : Profile) : NodeResources := p.capacity

end Profile

end NodeFleet
