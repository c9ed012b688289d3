import NodeFleet.Cli.View
import NodeFleet.Json.Access
import NodeFleet.Proofs.Json.Record
import NodeFleet.Proofs.Json.Text
import NodeFleet.Proofs.Timestamp.Text

/-!
# Messages between the daemon and the client

What a message says is declared on both sides.  For each one this file has what the daemon
writes read back by the daemon (`ofJson_toJson`) and read by the client as what the client makes
of it (`ofJson_seen`), which the client would write alike (`toJson_seen`).  All of it holds of
values whose numbers are words and whose times are times of the calendar (`Fits`).

Where the two sides read the same entries into different types, the fields stand here once, for
any constructor.
-/

namespace NodeFleet

open Json

variable {α σ : Type}

/-! ## Parts -/

theorem Wire.timestamp_eq {t : Timestamp} (h : t.IsValid) :
    Wire.timestamp (Wire.ofTimestamp t) = .ok t := by
  simp only [Wire.timestamp, Wire.ofTimestamp, Timestamp.read?_text h]

theorem AgentState.ofJson_toJson (s : AgentState) : AgentState.ofJson s.toJson = .ok s :=
  Decoder.named_eq (by decide) (by cases s <;> decide)

theorem Resource.ofJsonPart_toJson (r : Resource) : Resource.ofJsonPart r.toJson = .ok r :=
  Decoder.namedPart_eq (by decide) r.mem_tracked

namespace ResourceRequest

/-- Whether the quantities are words. -/
structure Fits (r : ResourceRequest) : Prop where
  cpuMillis : r.cpuMillis < 2 ^ 64
  memoryBytes : r.memoryBytes < 2 ^ 64
  gpuCount : r.gpuCount < 2 ^ 64

theorem Fits.isPlain {r : ResourceRequest} (h : r.Fits) : r.toJson.IsPlain :=
  ⟨h.cpuMillis, h.memoryBytes, h.gpuCount, trivial⟩

/-- The fields of what a placement takes, as both sides read them. -/
def fields (make : Nat → Nat → Nat → α) : Record α :=
  (((Record.const make).withDefault "cpu_millis" Decoder.word 0).withDefault "memory_bytes"
    Decoder.word 0).withDefault "gpu_count" Decoder.word 0

theorem Fits.reads {r : ResourceRequest} (h : r.Fits) (make : Nat → Nat → Nat → α) :
    (fields make).decode r.toJson = .ok (make r.cpuMillis r.memoryBytes r.gpuCount) :=
  Record.Reads.decode_eq
    ((((Record.reads_const make).withDefault "cpu_millis"
      (Decoder.word_nat h.cpuMillis)).withDefault "memory_bytes"
      (Decoder.word_nat h.memoryBytes)).withDefault "gpu_count" (Decoder.word_nat h.gpuCount))
    (show ["cpu_millis", "memory_bytes", "gpu_count"].Nodup by decide)

/-- What a placement takes as the client sees it. -/
def seen (r : ResourceRequest) : Cli.RequestView :=
  { cpuMillis := r.cpuMillis, memoryBytes := r.memoryBytes, gpuCount := r.gpuCount }

theorem ofJson_toJson {r : ResourceRequest} (h : r.Fits) : ofJson r.toJson = .ok r :=
  h.reads mk

theorem ofJson_seen {r : ResourceRequest} (h : r.Fits) :
    Cli.RequestView.ofJson r.toJson = .ok r.seen :=
  h.reads Cli.RequestView.mk

end ResourceRequest

namespace ResourceUsage

/-- Whether the quantities are words. -/
structure Fits (u : ResourceUsage) : Prop where
  cpuMillis : u.cpuMillis < 2 ^ 64
  memoryBytes : u.memoryBytes < 2 ^ 64
  gpuCount : u.gpuCount < 2 ^ 64
  pods : u.pods < 2 ^ 64

theorem Fits.isPlain {u : ResourceUsage} (h : u.Fits) : u.toJson.IsPlain :=
  ⟨h.cpuMillis, h.memoryBytes, h.gpuCount, h.pods, trivial⟩

/-- The fields of what is in use, as both sides read them. -/
def fields (make : Nat → Nat → Nat → Nat → α) : Record α :=
  ((((Record.const make).field "cpu_millis" Decoder.word).field "memory_bytes"
    Decoder.word).field "gpu_count" Decoder.word).field "pods" Decoder.word

theorem Fits.reads {u : ResourceUsage} (h : u.Fits) (make : Nat → Nat → Nat → Nat → α) :
    (fields make).decode u.toJson = .ok (make u.cpuMillis u.memoryBytes u.gpuCount u.pods) :=
  Record.Reads.decode_eq
    (((((Record.reads_const make).field "cpu_millis" (Decoder.word_nat h.cpuMillis)).field
      "memory_bytes" (Decoder.word_nat h.memoryBytes)).field "gpu_count"
      (Decoder.word_nat h.gpuCount)).field "pods" (Decoder.word_nat h.pods))
    (show ["cpu_millis", "memory_bytes", "gpu_count", "pods"].Nodup by decide)

/-- What is in use as the client sees it. -/
def seen (u : ResourceUsage) : Cli.UsageView :=
  { cpuMillis := u.cpuMillis
    memoryBytes := u.memoryBytes
    gpuCount := u.gpuCount
    pods := u.pods }

theorem ofJson_toJson {u : ResourceUsage} (h : u.Fits) : ofJson u.toJson = .ok u :=
  h.reads mk

theorem ofJson_seen {u : ResourceUsage} (h : u.Fits) : Cli.UsageView.ofJson u.toJson = .ok u.seen :=
  h.reads Cli.UsageView.mk

end ResourceUsage

/-! ## Placements -/

namespace AdmissionRecord

/-- Whether a record can be had in the daemon. -/
structure Fits (r : AdmissionRecord) : Prop where
  requested : r.requested.Fits
  admittedAt : r.admittedAt.IsValid

theorem Fits.isPlain {r : AdmissionRecord} (h : r.Fits) : r.toJson.IsPlain :=
  ⟨trivial, h.requested.isPlain, trivial, trivial⟩

/-- The fields of a placement, as both sides read them. -/
def fields (make : String → σ → Timestamp → α) (decode : Decoder σ) : Record α :=
  (((Record.const make).field "workload_id" Decoder.string).field "requested" decode).field
    "admitted_at" Wire.timestamp

theorem Fits.reads {r : AdmissionRecord} (h : r.Fits) (make : String → σ → Timestamp → α)
    {decode : Decoder σ} {requested : σ} (hdecode : decode r.requested.toJson = .ok requested) :
    (fields make decode).decode r.toJson = .ok (make r.workload requested r.admittedAt) :=
  Record.Reads.decode_eq
    ((((Record.reads_const make).field "workload_id" (Decoder.string_eq _)).field "requested"
      hdecode).field "admitted_at" (Wire.timestamp_eq h.admittedAt))
    (show ["workload_id", "requested", "admitted_at"].Nodup by decide)

/-- A placement as the client sees it. -/
def seen (r : AdmissionRecord) : Cli.PlacementView :=
  { workload := r.workload, requested := r.requested.seen, admittedAt := r.admittedAt }

theorem toJson_seen (r : AdmissionRecord) : r.seen.toJson = r.toJson := rfl

theorem ofJson_toJson {r : AdmissionRecord} (h : r.Fits) : ofJson r.toJson = .ok r :=
  h.reads mk (ResourceRequest.ofJson_toJson h.requested)

theorem ofJson_seen {r : AdmissionRecord} (h : r.Fits) :
    Cli.PlacementView.ofJson r.toJson = .ok r.seen :=
  h.reads Cli.PlacementView.mk (ResourceRequest.ofJson_seen h.requested)

end AdmissionRecord

namespace RejectionReason

/-- Whether the quantities are words. -/
def Fits : RejectionReason → Prop
  | .insufficient _ requested used allocatable =>
      requested < 2 ^ 64 ∧ used < 2 ^ 64 ∧ allocatable < 2 ^ 64
  | .agentUnavailable _ => True

theorem isPlain {r : RejectionReason} (h : r.Fits) : r.toJson.IsPlain := by
  cases r with
  | insufficient resource requested used allocatable =>
      obtain ⟨hrequested, hused, hallocatable⟩ := h
      exact ⟨trivial, trivial, hrequested, hused, hallocatable, trivial⟩
  | agentUnavailable state => exact ⟨trivial, trivial, trivial⟩

/-- What is said of a resource that does not suffice, as both sides read it. -/
theorem reads_insufficient (make : σ → Nat → Nat → Nat → α) {decode : Decoder σ}
    {resource : Resource} {name : σ} {requested used allocatable : Nat}
    (hdecode : decode resource.toJson = .ok name)
    (h : (RejectionReason.insufficient resource requested used allocatable).Fits) :
    (((((Record.const make).field "resource" decode).field "requested" Decoder.word).field "used"
      Decoder.word).field "allocatable" Decoder.word).Reads
      [("resource", resource.toJson), ("requested", .nat requested), ("used", .nat used),
        ("allocatable", .nat allocatable)]
      (make name requested used allocatable) := by
  obtain ⟨hrequested, hused, hallocatable⟩ := h
  exact ((((Record.reads_const make).field "resource" hdecode).field "requested"
    (Decoder.word_nat hrequested)).field "used" (Decoder.word_nat hused)).field "allocatable"
    (Decoder.word_nat hallocatable)

theorem ofJsonPart_toJson {r : RejectionReason} (h : r.Fits) : ofJsonPart r.toJson = .ok r := by
  cases r with
  | insufficient resource requested used allocatable =>
      exact decodeTagged_eq (reads_insufficient RejectionReason.insufficient
        resource.ofJsonPart_toJson h) (by decide) rfl rfl (show 1 < depthLimit by decide)
  | agentUnavailable state =>
      exact decodeTagged_eq ((Record.reads_const RejectionReason.agentUnavailable).field "state"
        (Decoder.string_eq _)) (by decide) rfl rfl (show 1 < depthLimit by decide)

/-- A reason as the client sees it. -/
def seen : RejectionReason → Cli.Refusal
  | .insufficient resource requested used allocatable =>
      .insufficient resource.wireName requested used allocatable
  | .agentUnavailable state => .agentUnavailable state

theorem toJson_seen (r : RejectionReason) : r.seen.toJson = r.toJson := by cases r <;> rfl

theorem ofJsonPart_seen {r : RejectionReason} (h : r.Fits) :
    Cli.Refusal.ofJsonPart r.toJson = .ok r.seen := by
  cases r with
  | insufficient resource requested used allocatable =>
      exact decodeTagged_eq (reads_insufficient Cli.Refusal.insufficient (Decoder.string_eq _) h)
        (by decide) rfl rfl (show 1 < depthLimit by decide)
  | agentUnavailable state =>
      exact decodeTagged_eq ((Record.reads_const Cli.Refusal.agentUnavailable).field "state"
        (Decoder.string_eq _)) (by decide) rfl rfl (show 1 < depthLimit by decide)

theorem readable_toJson (r : RejectionReason) :
    (Json.object [("decision", .string "rejected"), ("reason", r.toJson)]).readable = true := by
  cases r <;> rfl

theorem depth_toJson (r : RejectionReason) :
    (Json.object [("decision", .string "rejected"), ("reason", r.toJson)]).depth < depthLimit := by
  cases r <;> exact (show 2 < depthLimit by decide)

end RejectionReason

namespace AdmissionDecision

/-- Whether a decision can be had in the daemon. -/
def Fits : AdmissionDecision → Prop
  | .admitted record => record.Fits
  | .rejected reason => reason.Fits

theorem isPlain {d : AdmissionDecision} (h : d.Fits) : d.toJson.IsPlain := by
  cases d with
  | admitted record => exact ⟨trivial, AdmissionRecord.Fits.isPlain h, trivial⟩
  | rejected reason => exact ⟨trivial, reason.isPlain h, trivial⟩

theorem ofJson_toJson {d : AdmissionDecision} (h : d.Fits) : ofJson d.toJson = .ok d := by
  cases d with
  | admitted record =>
      exact decodeTagged_eq ((Record.reads_const AdmissionDecision.admitted).field "record"
        (AdmissionRecord.ofJson_toJson h)) (by decide) rfl rfl (show 3 < depthLimit by decide)
  | rejected reason =>
      exact decodeTagged_eq ((Record.reads_const AdmissionDecision.rejected).field "reason"
        (RejectionReason.ofJsonPart_toJson h)) (by decide) rfl reason.readable_toJson
        reason.depth_toJson

/-- A decision as the client sees it. -/
def seen : AdmissionDecision → Cli.Verdict
  | .admitted record => .admitted record.seen
  | .rejected reason => .rejected reason.seen

theorem toJson_seen (d : AdmissionDecision) : d.seen.toJson = d.toJson := by
  cases d with
  | admitted record => rfl
  | rejected reason => exact congrArg (fun form => Json.object
      [("decision", .string "rejected"), ("reason", form)]) reason.toJson_seen

theorem ofJson_seen {d : AdmissionDecision} (h : d.Fits) :
    Cli.Verdict.ofJson d.toJson = .ok d.seen := by
  cases d with
  | admitted record =>
      exact decodeTagged_eq ((Record.reads_const Cli.Verdict.admitted).field "record"
        (AdmissionRecord.ofJson_seen h)) (by decide) rfl rfl (show 3 < depthLimit by decide)
  | rejected reason =>
      exact decodeTagged_eq ((Record.reads_const Cli.Verdict.rejected).field "reason"
        (RejectionReason.ofJsonPart_seen h)) (by decide) rfl reason.readable_toJson
        reason.depth_toJson

end AdmissionDecision

/-! ## Agents -/

namespace Agent.Summary

/-- Whether a view can be had in the daemon: its numbers are words, its table is sorted, and its
times are times of the calendar. -/
structure Fits (s : Agent.Summary) : Prop where
  generation : ∀ n ∈ s.generation, n < 2 ^ 64
  leaseVersion : ∀ n ∈ s.leaseVersion, n < 2 ^ 64
  renewedAt : ∀ t ∈ s.renewedAt, t.IsValid
  publishedAt : ∀ t ∈ s.publishedAt, t.IsValid
  heartbeatFailures : s.heartbeatFailures < 2 ^ 32
  statusFailures : s.statusFailures < 2 ^ 32
  sorted : s.allocatable.Sorted
  allocatable : ∀ entry ∈ s.allocatable, entry.2 < 2 ^ 64
  used : s.used.Fits
  livePlacements : s.livePlacements < 2 ^ 64
  observedGeneration : s.observedGeneration < 2 ^ 64

theorem Fits.isPlain {s : Agent.Summary} (h : s.Fits) : s.toJson.IsPlain := by
  have hword {n : Option Nat} (hn : ∀ m ∈ n, m < 2 ^ 64) : (Json.option .nat n).IsPlain :=
    isPlain_option hn
  have htime (t : Option Timestamp) : (Json.option Wire.ofTimestamp t).IsPlain :=
    isPlain_option fun _ _ => trivial
  have hfailures {n : Nat} (hn : n < 2 ^ 32) : (Json.nat n).IsPlain :=
    Nat.lt_trans hn (by decide)
  exact ⟨trivial, trivial, isPlain_option fun _ _ => trivial, hword h.generation,
    hword h.leaseVersion, htime _, htime _, hfailures h.heartbeatFailures,
    hfailures h.statusFailures, trivial, isPlain_table h.allocatable, h.used.isPlain,
    h.livePlacements, h.observedGeneration, trivial⟩

/-- The fields of a view, as both sides read them. -/
def fields {υ : Type}
    (make : String → σ → Option String → Option Nat → Option Nat → Option Timestamp →
      Option Timestamp → Nat → Nat → String → Table Nat → υ → Nat → Nat → α)
    (state : Decoder σ) (used : Decoder υ) : Record α :=
  ((((((((((((((Record.const make).field "name" Decoder.string).field "state" state).optional "uid"
    Decoder.string).optional "generation" Decoder.word).optional "lease_version"
    Decoder.word).optional "last_lease_renewal" Wire.timestamp).optional "last_status_publish"
    Wire.timestamp).field "heartbeat_failures" Decoder.word32).field "status_failures"
    Decoder.word32).field "pod_cidr" Decoder.string).field "allocatable"
    (Decoder.table Decoder.word)).field "used" used).field "live_placements"
    Decoder.word).field "observed_generation" Decoder.word

theorem Fits.reads {υ : Type} {s : Agent.Summary} (h : s.Fits)
    (make : String → σ → Option String → Option Nat → Option Nat → Option Timestamp →
      Option Timestamp → Nat → Nat → String → Table Nat → υ → Nat → Nat → α)
    {readState : Decoder σ} {state : σ} (hstate : readState s.state.toJson = .ok state)
    {readUsed : Decoder υ} {used : υ} (hused : readUsed s.used.toJson = .ok used) :
    (fields make readState readUsed).decode s.toJson = .ok (make s.name state s.uid s.generation
      s.leaseVersion s.renewedAt s.publishedAt s.heartbeatFailures s.statusFailures s.podCidr
      s.allocatable used s.livePlacements s.observedGeneration) := by
  have huid : Decoder.option Decoder.string (.option .string s.uid) = .ok s.uid :=
    Decoder.option_eq (fun _ _ => rfl) nofun
  have hword {n : Option Nat} (hn : ∀ m ∈ n, m < 2 ^ 64) :
      Decoder.option Decoder.word (.option .nat n) = .ok n :=
    Decoder.option_eq (fun m hm => Decoder.word_nat (hn m hm)) nofun
  have htime {t : Option Timestamp} (ht : ∀ u ∈ t, u.IsValid) :
      Decoder.option Wire.timestamp (.option Wire.ofTimestamp t) = .ok t :=
    Decoder.option_eq (fun u hu => Wire.timestamp_eq (ht u hu)) nofun
  have htable : Decoder.table Decoder.word (.table .nat s.allocatable) = .ok s.allocatable :=
    Decoder.table_eq h.sorted fun entry hentry => Decoder.word_nat (h.allocatable entry hentry)
  have hkeys : ((fields make readState readUsed).fields.map FieldSpec.key).Nodup := by
    simp only [fields, Record.keys_field, Record.keys_optional, Record.keys_const]
    decide
  have hnamed := ((Record.reads_const make).field "name" (Decoder.string_eq s.name)).field "state"
    hstate
  have hregistered := (((((hnamed.optional "uid" huid).optional "generation"
    (hword h.generation)).optional "lease_version" (hword h.leaseVersion)).optional
    "last_lease_renewal" (htime h.renewedAt)).optional "last_status_publish"
    (htime h.publishedAt))
  have hreads := ((((((hregistered.field "heartbeat_failures"
    (Decoder.word32_nat h.heartbeatFailures)).field "status_failures"
    (Decoder.word32_nat h.statusFailures)).field "pod_cidr" (Decoder.string_eq s.podCidr)).field
    "allocatable" htable).field "used" hused).field "live_placements"
    (Decoder.word_nat h.livePlacements)).field "observed_generation"
    (Decoder.word_nat h.observedGeneration)
  simp only [List.nil_append, List.cons_append] at hreads
  exact hreads.decode_eq hkeys

/-- The view of an agent as the client sees it. -/
def seen (s : Agent.Summary) : Cli.AgentView :=
  { name := s.name
    state := s.state.name
    uid := s.uid
    generation := s.generation
    leaseVersion := s.leaseVersion
    renewedAt := s.renewedAt
    publishedAt := s.publishedAt
    heartbeatFailures := s.heartbeatFailures
    statusFailures := s.statusFailures
    podCidr := s.podCidr
    allocatable := s.allocatable
    used := s.used.seen
    livePlacements := s.livePlacements
    observedGeneration := s.observedGeneration }

theorem toJson_seen (s : Agent.Summary) : s.seen.toJson = s.toJson := rfl

theorem ofJson_toJson {s : Agent.Summary} (h : s.Fits) : ofJson s.toJson = .ok s :=
  h.reads mk s.state.ofJson_toJson (ResourceUsage.ofJson_toJson h.used)

theorem ofJson_seen {s : Agent.Summary} (h : s.Fits) : Cli.AgentView.ofJson s.toJson = .ok s.seen :=
  h.reads Cli.AgentView.mk (Decoder.string_eq _) (ResourceUsage.ofJson_seen h.used)

end Agent.Summary

/-! ## Requests -/

namespace Cli.Order

/-- Whether the numbers are words. -/
structure Fits (o : Order) : Prop where
  cpuMillis : o.cpuMillis < 2 ^ 64
  gpuCount : o.gpuCount < 2 ^ 64

theorem Fits.isPlain {o : Order} (h : o.Fits) : o.toJson.IsPlain :=
  ⟨trivial, h.cpuMillis, trivial, h.gpuCount, trivial⟩

theorem ofJson_toJson {o : Order} (h : o.Fits) {memoryBytes : Nat}
    (hread : Quantity.read o.memory = .ok memoryBytes) :
    PlacementRequest.ofJson o.toJson =
      .ok ⟨o.workload, o.cpuMillis, memoryBytes, o.gpuCount⟩ := by
  have hbytes : Wire.bytes (.string o.memory) = .ok memoryBytes := by
    simp only [Wire.bytes, hread]
  exact Record.Reads.decode_eq (r := PlacementRequest.record)
    (((((Record.reads_const PlacementRequest.mk).field "workload_id"
      (Decoder.string_eq _)).withDefault "cpu_millis"
      (Decoder.word_nat h.cpuMillis)).withDefault "memory_bytes" hbytes).withDefault "gpu_count"
      (Decoder.word_nat h.gpuCount))
    (by decide)

theorem ofJson_refused {o : Order} (h : o.Fits) {refusal : Quantity.Refusal}
    (hread : Quantity.read o.memory = .error refusal) :
    PlacementRequest.ofJson o.toJson = .error (.invalid refusal.message) := by
  have hbytes : Wire.bytes (.string o.memory) = .error (.invalid refusal.message) := by
    simp only [Wire.bytes, hread]
  have hchecked : Record.checkEntries PlacementRequest.record.fields [] o.toJson.entries =
      .error (.invalid refusal.message) := by
    simp [PlacementRequest.record, Record.field, Record.withDefault, Record.const, toJson,
      Record.checkEntries, Json.entries, Decoder.string, Decoder.word_nat h.cpuMillis, hbytes]
    rfl
  have hdecode : PlacementRequest.ofJson o.toJson =
      (Record.checkEntries PlacementRequest.record.fields [] o.toJson.entries >>= fun _ =>
        PlacementRequest.record.build (Record.lookup o.toJson.entries)) := rfl
  rw [hdecode, hchecked]
  rfl

end Cli.Order

end NodeFleet
