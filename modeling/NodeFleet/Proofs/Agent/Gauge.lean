import NodeFleet.Proofs.Agent.Lifecycle
import NodeFleet.Proofs.Agent.Shown

/-!
# Agents and the gauge

Whatever an agent does after it has announced itself carries over to the gauge of agents:
the gauge beside the agent stays the same.  The announcement is made in the first step of
the task, and only there, so a step of a task that has run does not lead back to the
stage `created`.
-/

namespace NodeFleet

theorem Tracker.Passes.carried {x y : Tracker × Telemetry} (h : Passes x y) : Carried x y := by
  induction h with
  | refl => exact .refl x
  | keep h hname hstate hhealth hgauge ih => exact ih.trans (carried_of_eq hstate hgauge)
  | moveWhen h guard target now ih => exact ih.trans (moveWhen_carried guard target)

/-- What is shown beside a tracker's agent stays the same. -/
def Site.Carried (before after : Tracker × Site) : Prop :=
  Tracker.Carried (before.1, before.2.telemetry) (after.1, after.2.telemetry)

theorem Site.move_carried (site : Site) (t : Tracker) (target : AgentState) :
    Carried (t, site) (site.move t target) :=
  Tracker.moveWhen_carried _ target

/-! ## Agents -/

namespace Agent

/-- What is shown beside an agent stays the same, and so does whether it was told to end. -/
structure Carried (before after : Agent × Site) : Prop where
  /-- The gauge beside the agent. -/
  gauge : Site.Carried (before.1.tracker, before.2) (after.1.tracker, after.2)
  /-- Whether it was told to end. -/
  isCancelled_eq : after.1.isCancelled = before.1.isCancelled

variable (a : Agent) (site : Site)

/-- The first step of the task announces the agent, and goes on from there. -/
theorem actTask_created (hstage : a.stage = .created) :
    Carried (a, { site with telemetry := a.tracker.announce site.telemetry site.wall })
      (a.actTask site) :=
  ⟨(a.actTask_created_passes site hstage).carried, (a.act_keeps site .task).2.2⟩

/-- Every step but the first one of the task carries over. -/
theorem act_carried (actor : Actor) (hfirst : actor = .task → a.stage ≠ .created) :
    Carried (a, site) (a.act actor site) :=
  ⟨(a.act_passes site actor hfirst).carried, (a.act_keeps site actor).2.2⟩

theorem submit_carried (workload : String) (request : ResourceRequest) :
    Carried (a, site) (a.submit workload request site).2 :=
  ⟨(a.submit_passes site workload request).carried, rfl⟩

theorem release_carried (workload : String) :
    Carried (a, site) (a.release workload site).2 :=
  ⟨(a.release_passes site workload).carried, rfl⟩

/-! ## The first step -/

/-- The task has not taken its first step, or never will. -/
def IsUnstarted (a : Agent) : Prop := a.stage = .created ∨ a.stage = .aborted

theorem windUp_stage_ne (held : Option Identity) : (a.windUp held site).1.stage ≠ .created := by
  cases held <;> exact nofun

theorem afterRegister_stage_ne (attempt : RegistrationAttempt) (result : Except CallError Nat) :
    (a.afterRegister attempt result site).1.stage ≠ .created := by
  cases result <;> exact nofun

/-- The first step of the task leads on, and no step leads back before it. -/
theorem act_stage_ne (actor : Actor) (h : actor = .task ∨ a.stage ≠ .created) :
    (a.act actor site).1.stage ≠ .created := by
  have hstep := a.act_step site actor
  generalize a.act actor site = later at hstep ⊢
  cases hstep with
  | declined | quitWaiting | quitRegistering | quitRetrying => exact windUp_stage_ne _ _ none
  | settled => exact a.afterRegister_stage_ne _ _ _
  | leaving => exact a.windUp_stage_ne site _
  | taskIdle hstage => rcases hstage with hstage | hstage <;> simp [hstage]
  | heartbeatIdle | statusSyncIdle | released => exact h.resolve_left nofun
  | _ => exact nofun

/-- Until the task takes its first step, no actor changes the tracker. -/
theorem act_of_isUnstarted (actor : Actor) (h : a.IsUnstarted)
    (hfirst : actor = .task → a.stage ≠ .created) :
    (a.act actor site).1.IsUnstarted ∧ (a.act actor site).1.tracker = a.tracker := by
  have hstep := a.act_step site actor
  generalize a.act actor site = later at hstep ⊢
  cases hstep with
  | declined hstage | entered hstage => exact absurd hstage (hfirst rfl)
  | taskIdle | heartbeatIdle | statusSyncIdle | released => exact ⟨h, rfl⟩
  | abandoned => exact ⟨.inr rfl, rfl⟩
  | _ =>
      -- Every other step is one of an agent that has started.
      simp_all [IsUnstarted]

/-- A stop call moves the agent to `terminating` if it can, and does not touch the stage. -/
theorem stop_eq : (a.stop site).2.2 = (a.move .terminating site).2 ∧
    (a.stop site).2.1.tracker = (a.move .terminating site).1.tracker ∧
    (a.stop site).2.1.isCancelled = true ∧ (a.stop site).2.1.stage = a.stage := by
  unfold stop
  dsimp only
  split <;> exact ⟨rfl, rfl, rfl, rfl⟩

end Agent

end NodeFleet
