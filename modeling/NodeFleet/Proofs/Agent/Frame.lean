import Mathlib.Tactic.SplitIfs
import NodeFleet.Proofs.Agent.Step

/-!
# What agents leave alone

Whatever an agent does at its site takes no time, and it does not declare the fleet ready
or take that back.
-/

namespace NodeFleet

namespace Site

/-- The part of a site that no agent touches. -/
def frame (s : Site) : Instant × Bool := (s.now, s.telemetry.health.declaredReady)

variable (site : Site) (t : Tracker)

theorem declaredReady_moveWhen (guard : AgentState → Bool) (target : AgentState) :
    (t.moveWhen guard target site.telemetry site.wall).2.2.health.declaredReady =
      site.telemetry.health.declaredReady := by
  unfold Tracker.moveWhen
  split_ifs <;> rfl

theorem frame_move (target : AgentState) : (site.move t target).2.frame = site.frame :=
  congrArg (site.now, ·) (declaredReady_moveWhen site t _ target)

theorem frame_recordSuccess (kind : LoopKind) :
    (site.recordSuccess t kind).2.frame = site.frame := by
  refine congrArg (site.now, ·) ?_
  show (Tracker.recoverBelow _ _ _ _).2.health.declaredReady = _
  unfold Tracker.recoverBelow
  split_ifs
  · exact declaredReady_moveWhen site _ _ _
  · rfl

theorem frame_recordFailure (kind : LoopKind) :
    (site.recordFailure t kind).2.frame = site.frame := by
  refine congrArg (site.now, ·) ?_
  show (Tracker.degradeAt _ _ _ _).2.health.declaredReady = _
  unfold Tracker.degradeAt
  split_ifs
  · exact declaredReady_moveWhen site _ _ _
  · rfl

theorem frame_settle {α : Type} (call : Call)
    (complete : ControlPlane → Except CallError α × ControlPlane) :
    (site.settle call complete).2.frame = site.frame := by
  unfold settle
  split_ifs <;> rfl

end Site

theorem Heartbeat.frame_report (result : Except CallError Nat) (t : Tracker) (site : Site) :
    (report result t site).2.frame = site.frame := by
  cases result with
  | ok version => exact Site.frame_recordSuccess _ _ .heartbeat
  | error error =>
      simp only [report]
      split_ifs
      · rfl
      · exact Site.frame_recordFailure _ t .heartbeat

theorem Heartbeat.frame_act (h : Heartbeat) (t : Tracker) (site : Site) :
    (h.act t site).2.2.frame = site.frame := by
  unfold Heartbeat.act
  split
  · rfl
  · exact (frame_report _ t _).trans (site.frame_settle _ _)

theorem StatusSync.frame_report (result : Except CallError Unit) (snapshot : StatusSnapshot)
    (t : Tracker) (site : Site) : (report result snapshot t site).2.frame = site.frame := by
  cases result with
  | ok _ => exact Site.frame_recordSuccess _ _ .statusSync
  | error error =>
      simp only [report]
      split_ifs
      · rfl
      · exact Site.frame_recordFailure _ t .statusSync

theorem StatusSync.frame_act (s : StatusSync) (profile : Profile) (ledger : Ledger) (t : Tracker)
    (site : Site) : (s.act profile ledger t site).2.2.frame = site.frame := by
  unfold StatusSync.act
  split
  · simp only [tick]
    split_ifs <;> rfl
  · exact (frame_report _ _ t _).trans (site.frame_settle _ _)

namespace Agent

variable (a : Agent) (site : Site)

theorem frame_move (target : AgentState) : (a.move target site).2.frame = site.frame :=
  site.frame_move a.tracker target

theorem frame_windUp (held : Option Identity) : (a.windUp held site).2.frame = site.frame := by
  cases held with
  | some identity => exact a.frame_move site .terminating
  | none =>
      let halfway := a.move .terminating site
      calc (a.windUp none site).2.frame
          = (halfway.1.move .stopped halfway.2).2.frame := rfl
        _ = halfway.2.frame := frame_move _ _ .stopped
        _ = site.frame := a.frame_move site .terminating

theorem frame_beginRegistration (generation : Nat) :
    (a.beginRegistration generation site).2.frame = site.frame := rfl

theorem frame_nextAttempt (attempt : RegistrationAttempt) (error : CallError) :
    (nextAttempt attempt error site).2.frame = site.frame := by
  cases error <;> rfl

theorem frame_afterRegister (attempt : RegistrationAttempt) (result : Except CallError Nat) :
    (a.afterRegister attempt result site).2.frame = site.frame := by
  cases result with
  | ok version => exact Site.frame_move _ _ .active
  | error error => exact frame_nextAttempt _ attempt error

/-- No step of an actor takes time, or touches the readiness of the fleet. -/
theorem frame_act (actor : Actor) : (a.act actor site).2.frame = site.frame := by
  have hstep := a.act_step site actor
  generalize a.act actor site = later at hstep ⊢
  cases hstep with
  | declined => exact a.frame_windUp _ none
  | entered => exact (frame_beginRegistration _ _ 0).trans (a.frame_move _ .registering)
  | quitWaiting | quitRegistering | quitRetrying => exact a.frame_windUp site none
  | settled => exact (a.frame_afterRegister _ _ _).trans (site.frame_settle _ _)
  | leaving => exact a.frame_windUp site _
  | lost => exact a.frame_move _ .registering
  | left => exact (a.frame_move _ .stopped).trans (site.frame_settle _ _)
  | heartbeatWorked => exact Heartbeat.frame_act _ _ site
  | statusSyncWorked => exact StatusSync.frame_act _ _ _ _ site
  | _ => rfl

theorem act_now (actor : Actor) : (a.act actor site).2.now = site.now :=
  congrArg Prod.fst (a.frame_act site actor)

theorem frame_submit (workload : String) (request : ResourceRequest) :
    (a.submit workload request site).2.2.frame = site.frame := rfl

theorem frame_release (workload : String) :
    (a.release workload site).2.2.frame = site.frame := by
  simp only [release]
  split_ifs <;> rfl

end Agent

end NodeFleet
