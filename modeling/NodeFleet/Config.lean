import NodeFleet.Agent
import NodeFleet.Decimal.Shortest

/-!
# Fleet configuration

A configuration describes a fleet of agents with the same resources.  Every option has a
default.  `FleetConfig.validate` checks all of them in a fixed order and names the first
that is wrong; a fleet is launched from a valid configuration only.

Agents are numbered from zero.  Each gets its own subnet of the base address range.
-/

namespace NodeFleet

/-- Why a configuration is refused. -/
inductive ConfigError where
  | emptyFleet
  /-- An option that must be positive is zero. -/
  | zeroInterval (option : String)
  /-- An option is above the bound for intervals. -/
  | intervalTooLong (option : String) (maxSeconds : Nat)
  /-- The maximal status interval is below the minimal one. -/
  | statusIntervals (least greatest : Nat)
  /-- The pressure threshold is outside its range. -/
  | pressureThreshold (value : Float)
  | failureThreshold
  | emptyNamePrefix
  /-- The address range does not suffice for the fleet. -/
  | addressSpace (fleetSize : Nat) (base : AddressRange) (prefixLength : UInt8) (available : Nat)
  | profile (error : ProfileError)

/-- The short name of a refusal. -/
def ConfigError.kind : ConfigError → String
  | .emptyFleet => "empty_fleet"
  | .zeroInterval _ => "zero_interval"
  | .intervalTooLong .. => "interval_too_long"
  | .statusIntervals .. => "status_intervals"
  | .pressureThreshold _ => "pressure_threshold"
  | .failureThreshold => "failure_threshold"
  | .emptyNamePrefix => "empty_name_prefix"
  | .addressSpace .. => "address_space"
  | .profile error => error.kind

/-- The wording of a refusal. -/
def ConfigError.message : ConfigError → String
  | .emptyFleet => "fleet_size must be at least 1"
  | .zeroInterval option => option ++ " must be greater than zero"
  | .intervalTooLong option maxSeconds =>
      option ++ " must not exceed " ++ Text.Numeral.text maxSeconds ++ "s"
  | .statusIntervals least greatest =>
      "status_max_interval_seconds (" ++ Text.Numeral.text greatest ++
        ") must be >= status_min_interval_seconds (" ++ Text.Numeral.text least ++ ")"
  | .pressureThreshold value => "pressure_threshold must be in (0, 1], got " ++ Decimal.text value
  | .failureThreshold => "failure_threshold must be at least 1"
  | .emptyNamePrefix => "name_prefix must not be empty"
  | .addressSpace fleetSize base prefixLength available =>
      "fleet of " ++ Text.Numeral.text fleetSize ++ " does not fit in " ++ base.text ++ ": only " ++
        Text.Numeral.text available ++ " /" ++ Text.Numeral.text prefixLength.toNat ++ " subnets"
  | .profile error => error.message

/-- The options of a fleet. -/
structure FleetConfig where
  /-- The number of agents. -/
  fleetSize : Nat := 1
  /-- The start of every agent's name. -/
  namePrefix : String := "hollow-node"
  /-- Thousandths of a processor core of an agent. -/
  cpuMillis : Nat := 4000
  memoryBytes : Nat := 16 * 2 ^ 30
  /-- Graphics processors of an agent. -/
  gpuCount : Nat := 0
  /-- Bytes of ephemeral storage of an agent. -/
  ephemeralBytes : Nat := 0
  maxPods : Nat := 110
  leaseRenewSeconds : Nat := 10
  /-- Seconds between status evaluations. -/
  statusMinSeconds : Nat := 10
  /-- The most seconds between publications. -/
  statusMaxSeconds : Nat := 300
  /-- The text of the base address range. -/
  addressBase : String := "10.64.0.0/10"
  /-- The prefix length of an agent's range. -/
  addressPrefixLength : UInt8 := 24
  /-- The failures in a row at which an agent is degraded. -/
  failureThreshold : Nat := 3
  /-- Milliseconds of the first wait after a failure. -/
  backoffBaseMillis : Nat := 200
  /-- Milliseconds of the longest wait after a failure. -/
  backoffMaxMillis : Nat := 30000
  /-- Seconds after which a call is given up. -/
  callTimeoutSeconds : Nat := 10
  /-- The utilization at which a dimension is under pressure. -/
  pressureThreshold : Float := 0.9
  /-- Milliseconds from one agent's start to the next. -/
  startStaggerMillis : Nat := 20
  /-- Milliseconds below which an agent's start is delayed at random. -/
  startJitterMillis : Nat := 20
  /-- Seconds that stopping an agent may take. -/
  shutdownTimeoutSeconds : Nat := 30

namespace FleetConfig

/-! ## What the options mean -/

/-- The longest interval that an option may give: thirty days. -/
def maxInterval : Duration := Duration.ofSeconds (30 * 24 * 60 * 60)

/-- The time between lease renewals. -/
def renewInterval (c : FleetConfig) : Duration := .ofSeconds c.leaseRenewSeconds

/-- How status is reported. -/
def statusPolicy (c : FleetConfig) : StatusPolicy :=
  { minInterval := .ofSeconds c.statusMinSeconds
    maxInterval := .ofSeconds c.statusMaxSeconds
    pressureThreshold := c.pressureThreshold }

/-- How failed calls are treated. -/
def retryPolicy (c : FleetConfig) : RetryPolicy :=
  { failureThreshold := c.failureThreshold
    backoffBase := .ofMillis c.backoffBaseMillis
    backoffMax := .ofMillis c.backoffMaxMillis
    callTimeout := .ofSeconds c.callTimeoutSeconds }

/-- The time from one agent's start to the next. -/
def startStagger (c : FleetConfig) : Duration := .ofMillis c.startStaggerMillis

/-- The time below which an agent's start is delayed at random. -/
def startJitter (c : FleetConfig) : Duration := .ofMillis c.startJitterMillis

/-- The time that stopping an agent may take. -/
def shutdownTimeout (c : FleetConfig) : Duration := .ofSeconds c.shutdownTimeoutSeconds

/-! ## Agents by number -/

def agentName (c : FleetConfig) (index : Nat) : String :=
  c.namePrefix ++ "-" ++ Text.Numeral.text index

/-- Turns the refusal of a profile into that of a configuration. -/
def ofProfile {α : Type} : Except ProfileError α → Except ConfigError α
  | .ok a => .ok a
  | .error error => .error (.profile error)

/-- Turns the refusal of a subnet into that of a configuration. -/
def ofSubnet {α : Type} : Except SubnetFault α → Except ConfigError α
  | .ok a => .ok a
  | .error fault => .error (.profile (.subnet fault))

/-- The profile of an agent, with its own subnet of the base range. -/
def profileFor (c : FleetConfig) (index : Nat) : Except ConfigError Profile := do
  let base ← ofProfile (readRange c.addressBase)
  let range ← ofSubnet (base.subnet index c.addressPrefixLength)
  ofProfile (Profile.build
    { cpuMillis := c.cpuMillis
      memoryBytes := c.memoryBytes
      gpuCount := c.gpuCount
      ephemeralBytes := c.ephemeralBytes
      maxPods := c.maxPods
      podRange := some range.text })

/-- What an agent is set up with. -/
def setupFor (c : FleetConfig) (index : Nat) (profile : Profile) : AgentSetup :=
  { name := c.agentName index
    profile
    renewInterval := c.renewInterval
    status := c.statusPolicy
    retry := c.retryPolicy
    shutdownTimeout := c.shutdownTimeout }

/-! ## Validation -/

/-- The options that must be positive. -/
def positiveOptions (c : FleetConfig) : List (String × Nat) :=
  [("lease_renew_interval_seconds", c.leaseRenewSeconds),
    ("status_min_interval_seconds", c.statusMinSeconds),
    ("call_timeout_seconds", c.callTimeoutSeconds),
    ("backoff_base_millis", c.backoffBaseMillis),
    ("shutdown_timeout_seconds", c.shutdownTimeoutSeconds)]

/-- The options that must not be above the bound for intervals. -/
def boundedOptions (c : FleetConfig) : List (String × Duration) :=
  [("lease_renew_interval_seconds", .ofSeconds c.leaseRenewSeconds),
    ("status_min_interval_seconds", .ofSeconds c.statusMinSeconds),
    ("status_max_interval_seconds", .ofSeconds c.statusMaxSeconds),
    ("call_timeout_seconds", .ofSeconds c.callTimeoutSeconds),
    ("shutdown_timeout_seconds", .ofSeconds c.shutdownTimeoutSeconds),
    ("backoff_base_millis", .ofMillis c.backoffBaseMillis),
    ("backoff_max_millis", .ofMillis c.backoffMaxMillis),
    ("start_stagger_millis", .ofMillis c.startStaggerMillis),
    ("start_jitter_millis", .ofMillis c.startJitterMillis)]

/-- Checks that the address range suffices and that a profile can be built. -/
def validateAddresses (c : FleetConfig) : Except ConfigError Unit := do
  let base ← ofProfile (readRange c.addressBase)
  let available ← ofSubnet (base.subnetCount c.addressPrefixLength)
  if available < c.fleetSize then
    throw (.addressSpace c.fleetSize base c.addressPrefixLength available)
  let _ ← c.profileFor 0
  return ()

/-- Checks every option; the first that is wrong is named. -/
def validate (c : FleetConfig) : Except ConfigError Unit :=
  if c.fleetSize = 0 then .error .emptyFleet
  else if Text.trim c.namePrefix.toList = [] then .error .emptyNamePrefix
  else
    match c.positiveOptions.find? fun option => option.2 = 0 with
    | some option => .error (.zeroInterval option.1)
    | none =>
        match c.boundedOptions.find? fun option => maxInterval < option.2 with
        | some option => .error (.intervalTooLong option.1 (Duration.seconds maxInterval))
        | none =>
            if c.statusMaxSeconds < c.statusMinSeconds then
              .error (.statusIntervals c.statusMinSeconds c.statusMaxSeconds)
            else if ¬ (0.0 < c.pressureThreshold ∧ c.pressureThreshold ≤ 1.0) then
              .error (.pressureThreshold c.pressureThreshold)
            else if c.failureThreshold = 0 then .error .failureThreshold
            else c.validateAddresses

end FleetConfig

end NodeFleet
