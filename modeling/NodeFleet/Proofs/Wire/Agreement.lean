import NodeFleet.Api
import NodeFleet.Proofs.Wire.Forms

/-!
# Daemon and client agree on what they exchange

A message travels as text.  What is written of it can be read (`parseWhole_compact`), because
its numbers are words, and each side reads it for itself (`Forms`).  The client sends the amount
of memory as the text it was given, so that the daemon alone decides whether this is an amount:
a request is read as what was asked for if it is one, and refused with status 422 if it is not.
-/

namespace NodeFleet.Wire

open Json

variable {α β : Type}

/-- Whether the daemon reads back what it writes of a value, and the client reads this as a value
which it would write alike. -/
def Agree (write : α → Json) (read : Decoder α) (writeSeen : β → Json) (readSeen : Decoder β)
    (a : α) : Prop :=
  decodeWhole read (parseWhole (write a).compact) = .ok a ∧
    ∃ seen, decodeWhole readSeen (parseWhole (write a).compact) = .ok seen ∧
      writeSeen seen = write a

theorem agree_of_plain {write : α → Json} {read : Decoder α} {writeSeen : β → Json}
    {readSeen : Decoder β} {a : α} {seen : β} (hplain : (write a).IsPlain)
    (hread : read (write a) = .ok a) (hreadSeen : readSeen (write a) = .ok seen)
    (hwrite : writeSeen seen = write a) : Agree write read writeSeen readSeen a := by
  refine ⟨?_, seen, ?_, hwrite⟩
  · rw [parseWhole_compact hplain, decodeWhole, hread]
    rfl
  · rw [parseWhole_compact hplain, decodeWhole, hreadSeen]
    rfl

/-- The body of a request is read as what was asked for, if the amount of memory is one. -/
theorem readPlacement_eq {o : Cli.Order} (h : o.Fits) {request : Api.Request} {type : String}
    (hbody : request.body = o.toJson.compact) (htype : request.contentType = some type)
    (hjson : MediaType.declaresJson type = true) :
    Api.readPlacement request =
      match Quantity.read o.memory with
      | .ok memoryBytes => .ok ⟨o.workload, o.cpuMillis, memoryBytes, o.gpuCount⟩
      | .error _ => .error 422 := by
  have hparsed : parseFront request.body = o.toJson := by
    rw [hbody, parseFront_compact h.isPlain]
  cases hread : Quantity.read o.memory with
  | ok memoryBytes =>
      simp [Api.readPlacement, htype, hjson, hparsed, Cli.Order.ofJson_toJson h hread]
  | error refusal =>
      simp [Api.readPlacement, htype, hjson, hparsed, Cli.Order.ofJson_refused h hread]

/-- Daemon and client agree on agents, placements and decisions, and the daemon takes from a
request what the client has asked for. -/
theorem messages_agree {s : Agent.Summary} {r : AdmissionRecord} {d : AdmissionDecision}
    {o : Cli.Order} {request : Api.Request} {type : String} (hs : s.Fits) (hr : r.Fits)
    (hd : d.Fits) (ho : o.Fits) (hbody : request.body = o.toJson.compact)
    (htype : request.contentType = some type) (hjson : MediaType.declaresJson type = true) :
    Agree Agent.Summary.toJson Agent.Summary.ofJson Cli.AgentView.toJson Cli.AgentView.ofJson s ∧
      Agree AdmissionRecord.toJson AdmissionRecord.ofJson Cli.PlacementView.toJson
        Cli.PlacementView.ofJson r ∧
      Agree AdmissionDecision.toJson AdmissionDecision.ofJson Cli.Verdict.toJson
        Cli.Verdict.ofJson d ∧
      Api.readPlacement request =
        match Quantity.read o.memory with
        | .ok memoryBytes => .ok ⟨o.workload, o.cpuMillis, memoryBytes, o.gpuCount⟩
        | .error _ => .error 422 := by
  refine ⟨?_, ?_, ?_, readPlacement_eq ho hbody htype hjson⟩
  · exact agree_of_plain hs.isPlain (Agent.Summary.ofJson_toJson hs) (Agent.Summary.ofJson_seen hs)
      s.toJson_seen
  · exact agree_of_plain hr.isPlain (AdmissionRecord.ofJson_toJson hr)
      (AdmissionRecord.ofJson_seen hr) r.toJson_seen
  · exact agree_of_plain (AdmissionDecision.isPlain hd) (AdmissionDecision.ofJson_toJson hd)
      (AdmissionDecision.ofJson_seen hd) d.toJson_seen

/-- Quantities at their bound, times in a leap second and before 1970, and memory in a unit. -/
theorem messages_agree_at_bounds :
    let leap : Timestamp := { second := 1483228799, nano := 1500000000 }
    let early : Timestamp := { second := -1, nano := 999999999 }
    let used : ResourceUsage := ⟨2 ^ 64 - 1, 2 ^ 64 - 1, 0, 110⟩
    let s : Agent.Summary :=
      ⟨"node-0", .degraded, some "a \"b\"", some (2 ^ 64 - 1), none, some leap, some early,
        2 ^ 32 - 1, 0, "10.64.0.0/24", [("cpu", 4000), ("memory", 2 ^ 64 - 1)], used, 1, 0⟩
    let r : AdmissionRecord := ⟨"job/1", ⟨2 ^ 64 - 1, 0, 3⟩, leap⟩
    let d : AdmissionDecision := .rejected (.insufficient .memory (2 ^ 64 - 1) 1 0)
    let o : Cli.Order := ⟨"job/1", 500, "16Gi", 0⟩
    let request : Api.Request := ⟨"POST", "/", o.toJson.compact, some "application/json"⟩
    decodeWhole Agent.Summary.ofJson (parseWhole s.toJson.compact) = .ok s ∧
      decodeWhole AdmissionRecord.ofJson (parseWhole r.toJson.compact) = .ok r ∧
      decodeWhole AdmissionDecision.ofJson (parseWhole d.toJson.compact) = .ok d ∧
      Api.readPlacement request = .ok ⟨"job/1", 500, 17179869184, 0⟩ := by
  intro leap early used s r d o request
  have hleap : leap.IsValid := ⟨by decide, by decide⟩
  have hearly : early.IsValid := ⟨by decide, by decide⟩
  have hs : s.Fits :=
    { generation := by rintro n ⟨⟩; decide
      leaseVersion := nofun
      renewedAt := by rintro t ⟨⟩; exact hleap
      publishedAt := by rintro t ⟨⟩; exact hearly
      heartbeatFailures := by decide
      statusFailures := by decide
      sorted := List.pairwise_pair.2 (by decide)
      allocatable := by decide
      used := ⟨by decide, by decide, by decide, by decide⟩
      livePlacements := by decide
      observedGeneration := by decide }
  have hr : r.Fits := ⟨⟨by decide, by decide, by decide⟩, hleap⟩
  have hd : d.Fits := ⟨by decide, by decide, by decide⟩
  have ho : o.Fits := ⟨by decide, by decide⟩
  have hbody : request.body = o.toJson.compact := rfl
  have hmemory : Quantity.read o.memory = .ok 17179869184 := by decide
  obtain ⟨⟨hs, -⟩, ⟨hr, -⟩, ⟨hd, -⟩, hplaced⟩ := messages_agree hs hr hd ho hbody rfl (by decide)
  rw [hmemory] at hplaced
  exact ⟨hs, hr, hd, hplaced⟩

end NodeFleet.Wire
