import NodeFleet.Proofs.Agent.Step
import NodeFleet.Proofs.Tracker.Gauge

/-!
# What an agent shows while it works

Whatever an agent does, what is shown of it goes through changes of its state, each shown as
it is made, and through changes that neither touch its state nor show it.  The first step
of the task is the one exception: there the agent announces itself.

`Tracker.Passes` is the closure of those two kinds of changes, and `act_passes` says that
every step stays within it.  What a change of state does to a gauge, to the health or to a
journal then follows for a whole step by induction on the passage.
-/

namespace NodeFleet

/-! ## Passages -/

/-- A tracker and what is shown go on to others. -/
inductive Tracker.Passes (x : Tracker × Telemetry) : Tracker × Telemetry → Prop where
  | refl : Passes x x
  /-- Neither the name and the state, nor the health and the gauge change. -/
  | keep {t changed : Tracker} {shown later : Telemetry} (h : Passes x (t, shown))
      (hname : changed.name = t.name) (hstate : changed.state = t.state)
      (hhealth : later.health = shown.health) (hgauge : ∀ s, later.gauge s = shown.gauge s) :
      Passes x (changed, later)
  | moveWhen {t : Tracker} {shown : Telemetry} (h : Passes x (t, shown))
      (guard : AgentState → Bool) (target : AgentState) (now : Timestamp) :
      Passes x (t.moveWhen guard target shown now).2

namespace Tracker.Passes

variable {x : Tracker × Telemetry} {t : Tracker} {shown : Telemetry}

theorem setFailures (h : Passes x (t, shown)) (kind : LoopKind) (count : Nat) :
    Passes x (t.setFailures kind count, shown) := by
  cases kind <;> exact h.keep rfl rfl rfl fun _ => rfl

theorem degradeAt (h : Passes x (t, shown)) (count : Nat) (now : Timestamp) :
    Passes x (t.degradeAt count shown now) := by
  unfold Tracker.degradeAt
  split_ifs
  · exact h.moveWhen _ .degraded now
  · exact h

theorem recoverBelow (h : Passes x (t, shown)) (count : Nat) (now : Timestamp) :
    Passes x (t.recoverBelow count shown now) := by
  unfold Tracker.recoverBelow
  split_ifs
  · exact h.moveWhen _ .active now
  · exact h

theorem recordFailure (h : Passes x (t, shown)) (kind : LoopKind) (now : Timestamp) :
    Passes x (t.recordFailure kind shown now).2 :=
  (h.setFailures kind _).degradeAt _ now

theorem recordSuccess (h : Passes x (t, shown)) (kind : LoopKind) (now : Timestamp) :
    Passes x (t.recordSuccess kind shown now) :=
  (h.setFailures kind 0).recoverBelow _ now

theorem increment (h : Passes x (t, shown)) (series : Series)
    (hseries : ∀ s, series ≠ .agents s) : Passes x (t, shown.increment series) :=
  h.keep rfl rfl rfl (shown.gauge_increment hseries)

theorem note (h : Passes x (t, shown)) (event : Journal.Event) : Passes x (t, shown.note event) :=
  h.keep rfl rfl rfl fun _ => rfl

end Tracker.Passes

open Tracker (Passes)

/-! ## Loops -/

/-- What is shown at a site, beside a tracker. -/
def Tracker.shownAt (y : Tracker × Site) : Tracker × Telemetry := (y.1, y.2.telemetry)

/-- Settling a call shows nothing. -/
theorem Tracker.Passes.settle {x : Tracker × Telemetry} {t : Tracker} {site : Site} {α : Type}
    (h : Passes x (t, site.telemetry)) (call : NodeFleet.Call)
    (complete : ControlPlane → Except CallError α × ControlPlane) :
    Passes x (t, (site.settle call complete).2.telemetry) := by
  unfold Site.settle
  split_ifs <;> exact h

section Loops

variable {x : Tracker × Telemetry} {t : Tracker} {site : Site}

theorem Heartbeat.report_passes (h : Passes x (t, site.telemetry))
    (result : Except CallError Nat) :
    Passes x (Tracker.shownAt (Heartbeat.report result t site)) := by
  have hlatency := h.increment (.callLatency .renewLease) nofun
  cases result with
  | ok version =>
      have hcounted := hlatency.increment (.leaseRenewals .success) nofun
      have hrenewed : Passes x (t.recordRenewal version site.wall, _) :=
        hcounted.keep rfl rfl rfl fun _ => rfl
      exact hrenewed.recordSuccess .heartbeat site.wall
  | error error =>
      simp only [Heartbeat.report]
      split_ifs
      · exact hlatency.increment (.leaseRenewals .superseded) nofun
      · exact (hlatency.increment (.leaseRenewals .failure) nofun).recordFailure .heartbeat site.wall

theorem Heartbeat.act_passes (h : Passes x (t, site.telemetry)) (loop : Heartbeat) :
    Passes x (Tracker.shownAt (loop.act t site).2) := by
  unfold Heartbeat.act
  cases loop.call with
  | none => exact h
  | some call => exact report_passes (h.settle call _) _

theorem StatusSync.report_passes (h : Passes x (t, site.telemetry))
    (result : Except CallError Unit) (snapshot : StatusSnapshot) :
    Passes x (Tracker.shownAt (StatusSync.report result snapshot t site)) := by
  have hlatency := h.increment (.callLatency .publishStatus) nofun
  cases result with
  | ok _ =>
      have hcounted := hlatency.increment (.statusPublishes .published) nofun
      have hpublished : Passes x (t.recordPublish snapshot.generatedAt, _) :=
        hcounted.keep rfl rfl rfl fun _ => rfl
      exact hpublished.recordSuccess .statusSync site.wall
  | error error =>
      simp only [StatusSync.report]
      split_ifs
      · exact hlatency.increment (.statusPublishes .superseded) nofun
      · exact (hlatency.increment (.statusPublishes .failed) nofun).recordFailure .statusSync
          site.wall

theorem StatusSync.act_passes (h : Passes x (t, site.telemetry)) (loop : StatusSync)
    (profile : Profile) (ledger : Ledger) :
    Passes x (Tracker.shownAt (loop.act profile ledger t site).2) := by
  unfold StatusSync.act
  cases loop.flight with
  | none =>
      simp only [StatusSync.tick]
      split_ifs
      · exact h
      · exact h.increment (.statusPublishes .skipped) nofun
  | some flight => exact report_passes (h.settle flight.call _) _ flight.snapshot

end Loops

/-! ## Agents -/

namespace Agent

/-- What is shown at a site, beside the tracker of an agent. -/
def shownAt (y : Agent × Site) : Tracker × Telemetry := (y.1.tracker, y.2.telemetry)

section Steps

variable {x : Tracker × Telemetry} {a : Agent} {site : Site}

theorem move_passes (h : Passes x (shownAt (a, site))) (target : AgentState) :
    Passes x (shownAt (a.move target site)) :=
  h.moveWhen _ target site.wall

theorem windUp_passes (h : Passes x (shownAt (a, site))) (held : Option Identity) :
    Passes x (shownAt (a.windUp held site)) := by
  have hterminating := move_passes h .terminating
  cases held with
  | none => exact move_passes hterminating .stopped
  | some identity => exact hterminating

theorem beginLoops_passes (h : Passes x (shownAt (a, site))) (identity : Identity)
    (version : Nat) : Passes x (shownAt (a.beginLoops identity version site)) := by
  let lease : Lease :=
    { holder := identity.uid
      renewInterval := a.setup.renewInterval
      renewedAt := some site.wall
      version }
  have hregistered : Passes x ((a.tracker.setRegistered identity lease).resetFailures, _) :=
    (h.note (.registered identity a.setup.profile.podRange.text version)).keep rfl rfl rfl
      fun _ => rfl
  exact hregistered.moveWhen _ .active site.wall

theorem afterRegister_passes (h : Passes x (shownAt (a, site))) (attempt : RegistrationAttempt)
    (result : Except CallError Nat) :
    Passes x (shownAt (a.afterRegister attempt result site)) := by
  have hlatency := h.increment (.callLatency .register) nofun
  cases result with
  | ok version =>
      refine beginLoops_passes ?_ attempt.identity version
      exact hlatency.increment (.registrations none) nofun
  | error error =>
      have hcounted := hlatency.increment (.registrations (some error.kind)) nofun
      simp only [Agent.afterRegister, nextAttempt]
      split <;> exact hcounted

theorem afterLoss_passes (h : Passes x (shownAt (a, site))) (loops : Loops) (error : CallError) :
    Passes x (shownAt (a.afterLoss loops error site)) := by
  have hnoted := h.note (.superseded loops.identity error.message)
  exact (hnoted.increment .reregistrations nofun).moveWhen _ .registering site.wall

end Steps

variable (a : Agent) (site : Site)

/-- The first step of the task announces the agent, and goes on from there. -/
theorem actTask_created_passes (hstage : a.stage = .created) :
    Passes (a.tracker, a.tracker.announce site.telemetry site.wall)
      (shownAt (a.actTask site)) := by
  have h : Passes (shownAt (a, a.announced site)) (shownAt (a, a.announced site)) := .refl
  unfold actTask
  rw [hstage]
  dsimp only
  split_ifs
  · exact windUp_passes h none
  · exact move_passes h .registering

/-- Every step but the first one of the task is a passage. -/
theorem act_passes (actor : Actor) (hfirst : actor = .task → a.stage ≠ .created) :
    Passes (shownAt (a, site)) (shownAt (a.act actor site)) := by
  have h : Passes (shownAt (a, site)) (shownAt (a, site)) := .refl
  have hstep := a.act_step site actor
  generalize a.act actor site = later at hstep ⊢
  cases hstep with
  | declined hstage | entered hstage => exact absurd hstage (hfirst rfl)
  | quitWaiting | quitRegistering | quitRetrying => exact windUp_passes h none
  | settled => exact afterRegister_passes (h.settle _ _) _ _
  | leaving => exact windUp_passes h _
  | lost => exact afterLoss_passes h _ _
  | @left identity call hstage =>
      have hsettled := h.settle call fun plane => plane.deregister identity site.now
      exact move_passes (hsettled.increment (.callLatency .deregister) nofun) .stopped
  | heartbeatWorked => exact Heartbeat.act_passes h _
  | statusSyncWorked => exact StatusSync.act_passes h _ _ _
  | _ => exact h

theorem submit_passes (workload : String) (request : ResourceRequest) :
    Passes (shownAt (a, site)) (shownAt (a.submit workload request site).2) := by
  have h : Passes (shownAt (a, site)) (shownAt (a, site)) := .refl
  exact (h.increment (.placements _) nofun).note _

theorem release_passes (workload : String) :
    Passes (shownAt (a, site)) (shownAt (a.release workload site).2) := by
  have h : Passes (shownAt (a, site)) (shownAt (a, site)) := .refl
  simp only [release]
  split_ifs
  · exact h.increment (.placements .released) nofun
  · exact h

end Agent

end NodeFleet
