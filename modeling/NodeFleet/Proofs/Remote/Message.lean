import Mathlib.Data.List.Forall2
import NodeFleet.Proofs.Timestamp.Calendar
import NodeFleet.Remote.Message
import NodeFleet.StatusSync

/-!
# What a status message tells

A status message tells everything about the report that it was made of: who reports, the
conditions in their order, the quantities and the times.  The message has other types than the
report.  Quantities go by their names, conditions by the names of their type and status, and
times as seconds and nanoseconds.

Each of these has a reader here, and `PublishMessage.read?_of` reads the message back from
them.  The reader looks quantities up and does not see how they are ordered
(`PublishMessage.Alike.read?_eq`), so messages that are alike in all look-ups are of the same
report.  Times are compared with the calendar by `Timestamp.sinceEpoch`, also before 1970.
-/

namespace NodeFleet

/-! ## Nanoseconds since the start of 1970 -/

namespace Timestamp

/-- The nanoseconds from the start of 1970, counted by the days of the calendar. -/
def sinceEpoch (t : Timestamp) : Int :=
  (t.date.toDays * 86400 + t.second % 86400) * 10 ^ 9 + t.nano

/-- Whether the timestamp is not in a leap second. -/
def IsRegular (t : Timestamp) : Prop := t.nano < 10 ^ 9

theorem sinceEpoch_eq (t : Timestamp) : t.sinceEpoch = t.second * 10 ^ 9 + t.nano := by
  have hsecond : t.second / 86400 * 86400 + t.second % 86400 = t.second :=
    Int.ediv_mul_add_emod t.second 86400
  rw [sinceEpoch, date, toDays_ofDays, hsecond]

/-- The whole seconds are rounded down, not towards 1970. -/
theorem IsRegular.second_eq {t : Timestamp} (h : t.IsRegular) :
    t.second = t.sinceEpoch / 10 ^ 9 := by
  have hnano : t.nano < 10 ^ 9 := h
  rw [sinceEpoch_eq]
  omega

end Timestamp

namespace Remote

/-! ## Readers of the parts -/

def AgentRef.identity (a : AgentRef) : Identity :=
  { name := a.name, uid := a.uid, generation := a.generation }

def Moment.timestamp (m : Moment) : Timestamp :=
  { second := m.seconds, nano := m.nanos }

/-- The nanoseconds since the start of 1970 that a message states. -/
def Moment.stated (m : Moment) : Int := m.seconds * 10 ^ 9 + m.nanos

/-- The type of a name. -/
def typeOf? (name : String) : Option ConditionType :=
  ConditionType.all.find? fun type => type.name = name

/-- The status of a name. -/
def statusOf? (name : String) : Option ConditionStatus :=
  ConditionStatus.all.find? fun status => status.name = name

theorem typeOf?_name (type : ConditionType) : typeOf? type.name = some type := by
  cases type <;> decide

theorem statusOf?_name (status : ConditionStatus) : statusOf? status.name = some status := by
  cases status <;> decide

def ConditionEntry.condition? (c : ConditionEntry) : Option NodeCondition := do
  let type ← typeOf? c.type
  let status ← statusOf? c.status
  return { type, status, reason := c.reason, message := c.message
           transitionAt := c.transitionAt.timestamp }

/-- The names of the quantities of a node. -/
def quantityNames : List String :=
  ["cpu", "memory", "nvidia.com/gpu", "ephemeral-storage", "pods"]

/-- The quantities by their names, looked up one by one. -/
def resources? (table : Table Nat) : Option NodeResources := do
  let cpuMillis ← table.find? "cpu"
  let memoryBytes ← table.find? "memory"
  let gpuCount ← table.find? "nvidia.com/gpu"
  let ephemeralBytes ← table.find? "ephemeral-storage"
  let pods ← table.find? "pods"
  return { cpuMillis, memoryBytes, gpuCount, ephemeralBytes, pods }

theorem condition?_ofCondition (c : NodeCondition) :
    (ConditionEntry.ofCondition c).condition? = some c := by
  unfold ConditionEntry.condition? ConditionEntry.ofCondition
  rw [typeOf?_name, statusOf?_name]
  rfl

theorem mapM_condition? (conditions : List NodeCondition) :
    (conditions.map ConditionEntry.ofCondition).mapM ConditionEntry.condition? =
      some conditions := by
  induction conditions with
  | nil => rfl
  | cons c rest ih =>
      rw [List.map_cons, List.mapM_cons, condition?_ofCondition, ih]
      rfl

theorem resources?_toTable (n : NodeResources) : resources? n.toTable = some n := rfl

/-- A node has a quantity under each of the five names, and under no other. -/
theorem keys_toTable (n : NodeResources) :
    n.toTable.keys.Perm quantityNames ∧ n.toTable.keys.Nodup := by
  have hkeys : n.toTable.keys =
      ["cpu", "ephemeral-storage", "memory", "nvidia.com/gpu", "pods"] := rfl
  rw [hkeys]
  decide

/-! ## The message as a whole -/

namespace PublishMessage

def read? (m : PublishMessage) : Option (Identity × StatusSnapshot) := do
  let conditions ← m.conditions.mapM ConditionEntry.condition?
  let capacity ← resources? m.capacity
  let allocatable ← resources? m.allocatable
  return (m.agent.identity,
    { conditions, capacity, allocatable
      observedGeneration := m.observedGeneration
      podCidr := m.podCidr
      generatedAt := m.generatedAt.timestamp })

theorem read?_of (i : Identity) (s : StatusSnapshot) : (of i s).read? = some (i, s) := by
  unfold read? of
  dsimp only
  rw [mapM_condition?, resources?_toTable, resources?_toTable]
  rfl

/-- Whether two messages have the same fields.  Maps are the same if all look-ups in them are. -/
structure Alike (m other : PublishMessage) : Prop where
  agent_eq : m.agent = other.agent
  conditions_eq : m.conditions = other.conditions
  capacity_eq : ∀ name, m.capacity.find? name = other.capacity.find? name
  allocatable_eq : ∀ name, m.allocatable.find? name = other.allocatable.find? name
  observedGeneration_eq : m.observedGeneration = other.observedGeneration
  podCidr_eq : m.podCidr = other.podCidr
  generatedAt_eq : m.generatedAt = other.generatedAt

/-- The reader does not see more of a message than its fields. -/
theorem Alike.read?_eq {m other : PublishMessage} (h : m.Alike other) : m.read? = other.read? := by
  have hcapacity : resources? m.capacity = resources? other.capacity := by
    simp only [resources?, h.capacity_eq]
  have hallocatable : resources? m.allocatable = resources? other.allocatable := by
    simp only [resources?, h.allocatable_eq]
  rw [read?, read?, h.agent_eq, h.conditions_eq, hcapacity, hallocatable,
    h.observedGeneration_eq, h.podCidr_eq, h.generatedAt_eq]

end PublishMessage

/-- What it is for a moment to state a point of time. -/
structure Moment.States (m : Moment) (t : Timestamp) : Prop where
  nanos_lt : m.nanos < 10 ^ 9
  stated_eq : m.stated = t.sinceEpoch
  /-- The whole seconds are rounded down, also before 1970. -/
  seconds_eq : m.seconds = t.sinceEpoch / 10 ^ 9

theorem Moment.ofTimestamp_states {t : Timestamp} (h : t.IsRegular) :
    (Moment.ofTimestamp t).States t :=
  { nanos_lt := h
    stated_eq := t.sinceEpoch_eq.symm
    seconds_eq := h.second_eq }

/-- What a message tells of a report. -/
structure PublishMessage.Tells (m : PublishMessage) (i : Identity) (s : StatusSnapshot) :
    Prop where
  read?_eq : m.read? = some (i, s)
  /-- No other report has a message with the same fields. -/
  unique : ∀ other report, m.Alike (.of other report) → other = i ∧ report = s
  keys_capacity : m.capacity.keys.Perm quantityNames ∧ m.capacity.keys.Nodup
  keys_allocatable : m.allocatable.keys.Perm quantityNames ∧ m.allocatable.keys.Nodup
  generatedAt_states : m.generatedAt.States s.generatedAt
  /-- The conditions are in their order, each with the time of its last transition. -/
  transitions_state : List.Forall₂ (fun entry c => entry.transitionAt.States c.transitionAt)
    m.conditions s.conditions
  /-- The quantities and the range are those that were registered with the same profile. -/
  registered : ∀ policy profile usage previous now (holder : Identity),
    s = StatusSync.snapshotOf policy profile usage previous now →
      m.capacity = (RegisterMessage.of holder profile).capacity ∧
        m.allocatable = (RegisterMessage.of holder profile).allocatable ∧
          m.podCidr = (RegisterMessage.of holder profile).podCidr

/-- A status message tells the whole report, and nothing else. -/
theorem PublishMessage.of_tells (i : Identity) (s : StatusSnapshot)
    (hgenerated : s.generatedAt.IsRegular)
    (htransitions : ∀ c ∈ s.conditions, c.transitionAt.IsRegular) :
    (PublishMessage.of i s).Tells i s := by
  refine
    { read?_eq := read?_of i s
      unique := ?_
      keys_capacity := keys_toTable s.capacity
      keys_allocatable := keys_toTable s.allocatable
      generatedAt_states := Moment.ofTimestamp_states hgenerated
      transitions_state := ?_
      registered := ?_ }
  · intro other report halike
    -- Both messages read the same, and each reads as the report it was made of.
    have hread := halike.read?_eq
    rw [read?_of, read?_of] at hread
    obtain ⟨rfl, rfl⟩ := Prod.mk.inj (Option.some.inj hread)
    exact ⟨rfl, rfl⟩
  · show List.Forall₂ _ (s.conditions.map ConditionEntry.ofCondition) s.conditions
    rw [List.forall₂_map_left_iff, List.forall₂_same]
    intro c hc
    exact Moment.ofTimestamp_states (htransitions c hc)
  · rintro policy profile usage previous now holder rfl
    exact ⟨rfl, rfl, rfl⟩

/-- A millisecond before 1970 is told as the last second before it, almost over. -/
theorem PublishMessage.of_tells_before_1970 :
    let identity : Identity := ⟨"node", "uid-0", 1⟩
    let resources : NodeResources := ⟨4000, 2 ^ 63, 0, 2 ^ 64 - 1, 110⟩
    let report : StatusSnapshot :=
      { conditions :=
          [⟨.pidPressure, .no, "AgentHasSufficientPID", "", .ofMillis (-86400000)⟩,
            ⟨.ready, .unknown, "AgentReady", "", .ofMillis 0⟩]
        capacity := resources
        allocatable := resources
        observedGeneration := 7
        podCidr := "10.64.0.0/24"
        generatedAt := .ofMillis (-1) }
    (PublishMessage.of identity report).generatedAt = ⟨-1, 999000000⟩ ∧
      (PublishMessage.of identity report).Tells identity report := by
  intro identity resources report
  refine ⟨rfl, of_tells identity report ?_ ?_⟩
  · unfold Timestamp.IsRegular
    decide
  · unfold Timestamp.IsRegular
    decide

end Remote

end NodeFleet
