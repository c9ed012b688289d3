import Mathlib.Data.List.Induction
import NodeFleet.Proofs.Agent.Lifecycle
import NodeFleet.Proofs.Ledger.Accounts

/-!
# What the answer to a placement tells

A submission is decided in two places.  An agent that is not running refuses it without a
look at its ledger; otherwise the ledger answers, with the record of a workload that is live
already.  An agent loses its identity without losing its placements, so a workload may be live
while its agent is registering anew.  The refusal of such an agent says nothing about the
workload (`refused_while_live`), and the one of a ledger says that the workload is not live.

The ledger of an agent is balanced throughout (`attend_balanced`), as it changes by submissions
and releases only.
-/

namespace NodeFleet

/-! ## What the answer of a ledger tells -/

/-- The record under which a decision says that the workload is live. -/
def AdmissionDecision.record? : AdmissionDecision → Option AdmissionRecord
  | .admitted record => some record
  | .rejected _ => none

namespace Ledger

/-- After a submission a ledger holds for the workload what it has answered. -/
theorem find?_tryAdmit (l : Ledger) (workload : String) (request : ResourceRequest)
    (now : Timestamp) :
    (l.tryAdmit workload request now).2.entries.find? workload =
      (l.tryAdmit workload request now).1.record? := by
  rcases l.tryAdmit_cases workload request now with
    ⟨record, hfind, heq⟩ | ⟨d, hfind, -, heq⟩ | ⟨-, -, heq⟩ <;> rw [heq]
  · exact hfind
  · exact hfind
  · exact (Table.find?_insert ..).trans (if_pos rfl)

theorem tryAdmit_ne_unavailable (l : Ledger) (workload : String) (request : ResourceRequest)
    (now : Timestamp) (state : String) :
    (l.tryAdmit workload request now).1 ≠ .rejected (.agentUnavailable state) := by
  rcases l.tryAdmit_cases workload request now with
    ⟨_, -, heq⟩ | ⟨_, -, -, heq⟩ | ⟨-, -, heq⟩ <;> rw [heq] <;> exact nofun

theorem Balanced.find?_eq_some_iff {l : Ledger} (h : Balanced l) {workload : String}
    {record : AdmissionRecord} :
    l.entries.find? workload = some record ↔ record ∈ l.records ∧ record.workload = workload := by
  constructor
  · intro hfind
    have hname : record.workload = workload := h.named _ (h.sorted.find?_eq_some_iff.1 hfind)
    exact ⟨h.mem_records_iff.2 (hname ▸ hfind), hname⟩
  · rintro ⟨hrecord, rfl⟩
    exact h.mem_records_iff.1 hrecord

end Ledger

namespace Agent

/-- Whether a workload is live with an agent. -/
def IsLive (a : Agent) (workload : String) : Prop :=
  ∃ record ∈ a.ledger.records, record.workload = workload

instance (a : Agent) (workload : String) : Decidable (a.IsLive workload) :=
  inferInstanceAs (Decidable (∃ record ∈ _, _))

/-! ## The ledger of an agent -/

theorem Attended.happen_balanced {x : Attended} (h : x.agent.ledger.Balanced) (event : Event) :
    (x.happen event).agent.ledger.Balanced := by
  rcases x.happen_ledger event with heq | ⟨workload, request, -, -, -, heq⟩ |
    ⟨workload, -, -, heq⟩ <;> rw [heq]
  · exact h
  · exact h.answer (.submit workload request x.site.wall)
  · exact h.answer (.release workload)

theorem attend_balanced (setup : AgentSetup) (site : Site) (events : List Attended.Event) :
    (attend setup site events).agent.ledger.Balanced := by
  induction events using List.reverseRecOn with
  | nil => exact Ledger.balanced_empty _
  | append_singleton events event ih =>
      rw [attend_concat]
      exact Attended.happen_balanced ih event

/-! ## What the answer of an agent tells -/

/-- What the answer to a submission tells about the workload. -/
structure Tells (before : Agent) (workload : String) (decision : AdmissionDecision)
    (after : Agent) : Prop where
  /-- An admitted workload is live under the record that it is answered with, and under no other. -/
  admitted : ∀ record, decision = .admitted record → record.workload = workload ∧
    ∀ other, other ∈ after.ledger.records ∧ other.workload = workload ↔ other = record
  /-- A workload that does not fit is not live. -/
  insufficient : ∀ resource requested used allocatable,
    decision = .rejected (.insufficient resource requested used allocatable) →
      ¬ after.IsLive workload
  /-- Only an agent that is not running turns a workload away for its state.  That changes nothing,
  so the workload is live exactly if it was. -/
  unavailable : ∀ state, decision = .rejected (.agentUnavailable state) →
    before.state.isRunning = false ∧ state = before.state.name ∧ after.ledger = before.ledger
  /-- Such an agent turns every workload away. -/
  gated : before.state.isRunning = false →
    decision = .rejected (.agentUnavailable before.state.name)

theorem tells_submit {a : Agent} (h : a.ledger.Balanced) (site : Site) (workload : String)
    (request : ResourceRequest) :
    a.Tells workload (a.submit workload request site).1 (a.submit workload request site).2.1 := by
  cases hrunning : a.state.isRunning with
  | false =>
      -- The ledger is not asked.
      have hdecision : (a.submit workload request site).1 =
          .rejected (.agentUnavailable a.state.name) := by
        simp [submit, hrunning]
      have hledger : (a.submit workload request site).2.1.ledger = a.ledger := by
        simp [submit, hrunning]
      rw [hdecision]
      refine ⟨by simp, by simp, ?_, fun _ => rfl⟩
      intro state hrejected
      obtain rfl := RejectionReason.agentUnavailable.inj (AdmissionDecision.rejected.inj hrejected)
      exact ⟨hrunning, rfl, hledger⟩
  | true =>
      have hdecision : (a.submit workload request site).1 =
          (a.ledger.tryAdmit workload request site.wall).1 := by
        simp [submit, hrunning]
      have hledger : (a.submit workload request site).2.1.ledger =
          (a.ledger.tryAdmit workload request site.wall).2 := by
        simp [submit, hrunning]
      have hheld := a.ledger.find?_tryAdmit workload request site.wall
      have hlater : (a.submit workload request site).2.1.ledger.Balanced := by
        rw [hledger]
        exact h.answer (.submit workload request site.wall)
      rw [← hledger, ← hdecision] at hheld
      refine ⟨?_, ?_, ?_, ?_⟩
      · intro record hadmitted
        rw [hadmitted] at hheld
        refine ⟨(hlater.find?_eq_some_iff.1 hheld).2, fun other => ?_⟩
        rw [← hlater.find?_eq_some_iff, hheld]
        exact Option.some_inj.trans eq_comm
      · rintro resource requested used allocatable hrejected ⟨record, hrecord, hname⟩
        rw [hrejected] at hheld
        exact hlater.find?_eq_none_iff.1 hheld record hrecord hname
      · intro state hrejected
        rw [hdecision] at hrejected
        exact absurd hrejected (a.ledger.tryAdmit_ne_unavailable workload request site.wall state)
      · intro hnot
        exact absurd (hrunning.symm.trans hnot) (by decide)

/-- In every run of an agent, whatever happened to its identity and its placements before, an
admitted workload is live right after the call.  A workload that does not fit is not.  One that is
turned away because the agent is not running is live exactly if it was. -/
theorem attend_submit_tells (setup : AgentSetup) (site : Site) (events : List Attended.Event)
    (workload : String) (request : ResourceRequest) :
    let x := attend setup site events
    x.agent.Tells workload (x.agent.submit workload request x.site).1
      (x.agent.submit workload request x.site).2.1 :=
  tells_submit (attend_balanced setup site events) _ workload request

/-- Somebody takes over the lease of an agent, and it registers anew.  It refuses a workload that it
has admitted before and still holds. -/
theorem refused_while_live :
    let profile : Profile := ⟨1000, 1000, 0, 0, 10, ⟨0, 24⟩⟩
    let setup : AgentSetup := ⟨"node", profile, 10, ⟨10, 60, 1⟩, ⟨3, 1, 8, 5⟩, 30⟩
    let site : Site := .create (.empty 0) ⟨0, 0⟩
    let request : ResourceRequest := ⟨1, 1, 0⟩
    let events : List Attended.Event :=
      [.other (.act .task) rfl, .other (.act .task) rfl, .other (.submit "w" request) rfl,
        .other (.plane (.supersede "node")) rfl, .other (.act .heartbeat) rfl,
        .other (.act .heartbeat) rfl, .other (.act .task) rfl, .other (.act .statusSync) rfl,
        .other (.act .task) rfl]
    let x := attend setup site events
    (x.agent.submit "w" request x.site).1 = .rejected (.agentUnavailable "registering") ∧
      (x.agent.submit "w" request x.site).2.1.IsLive "w" := by
  decide +kernel

end Agent

end NodeFleet
