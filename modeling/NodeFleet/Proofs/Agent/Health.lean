import NodeFleet.Proofs.Agent.Shown
import NodeFleet.Proofs.Agent.StopCalls
import NodeFleet.Proofs.Table.Sorted
import NodeFleet.Proofs.Tracker.Trail

/-!
# Agents and the health

An agent writes its own component of the health and no other, and what it writes is the health
of the state that it is in then.  So as long as an agent's component is what it wrote last, the
component mirrors the agent's state: `Discloses` is what each step keeps of this, and `Passes`
brings it to whole steps.
-/

namespace NodeFleet

namespace Tracker

/-- Of the health, only the tracker's own component changes, and it mirrors the state then. -/
structure Discloses (before after : Tracker × Telemetry) : Prop where
  name_eq : after.1.name = before.1.name
  declared : after.2.health.declaredReady = before.2.health.declaredReady
  sorted : before.2.health.components.Sorted → after.2.health.components.Sorted
  others : ∀ name, name ≠ before.1.name → after.2.component? name = before.2.component? name
  /-- Either neither the component nor the state has changed, or the one mirrors the other. -/
  own : after.2.component? before.1.name = before.2.component? before.1.name ∧
      after.1.state = before.1.state ∨
    after.2.Mirrors before.1.name after.1.state

namespace Discloses

variable {x y z : Tracker × Telemetry}

theorem of_eq (hname : y.1.name = x.1.name) (hstate : y.1.state = x.1.state)
    (hhealth : y.2.health = x.2.health) : Discloses x y := by
  have hcomponent (name : String) : y.2.component? name = x.2.component? name := by
    rw [Telemetry.component?, hhealth, Telemetry.component?]
  refine ⟨hname, by rw [hhealth], fun h => by rwa [hhealth], fun name _ => hcomponent name, ?_⟩
  exact .inl ⟨hcomponent _, hstate⟩

theorem of_observe {now : Timestamp} (hname : y.1.name = x.1.name)
    (hhealth : y.2.health = x.2.health.observe x.1.name y.1.state now) : Discloses x y := by
  refine ⟨hname, by rw [hhealth]; rfl, fun h => ?_, fun name hother => ?_, ?_⟩
  · rw [hhealth]
    exact h.insert _ _
  · simp only [Telemetry.component?, hhealth, HealthRegistry.observe, HealthRegistry.update,
      Table.find?_insert, if_neg hother.symm]
  · exact .inr (Telemetry.mirrors_of_observe hhealth)

theorem trans (hxy : Discloses x y) (hyz : Discloses y z) : Discloses x z := by
  refine ⟨hyz.name_eq.trans hxy.name_eq, hyz.declared.trans hxy.declared,
    fun h => hyz.sorted (hxy.sorted h), fun name hother => ?_, ?_⟩
  · have hstill : name ≠ y.1.name := hxy.name_eq ▸ hother
    exact (hyz.others name hstill).trans (hxy.others name hother)
  · have hlast := hyz.own
    rw [hxy.name_eq] at hlast
    rcases hlast with ⟨hcomponent, hstate⟩ | hmirrors
    · rcases hxy.own with ⟨hsame, hfirst⟩ | ⟨now, hfirst⟩
      · exact .inl ⟨hcomponent.trans hsame, hstate.trans hfirst⟩
      · exact .inr ⟨now, by rw [hcomponent, hfirst, hstate]⟩
    · exact .inr hmirrors

end Discloses

theorem announce_discloses (t : Tracker) (shown : Telemetry) (now : Timestamp) :
    Discloses (t, shown) (t, t.announce shown now) :=
  .of_observe rfl rfl

theorem Passes.discloses {x y : Tracker × Telemetry} (h : Passes x y) : Discloses x y := by
  induction h with
  | refl => exact .of_eq rfl rfl rfl
  | keep h hname hstate hhealth hgauge ih => exact ih.trans (.of_eq hname hstate hhealth)
  | @moveWhen t shown h guard target now ih =>
      refine ih.trans ?_
      unfold Tracker.moveWhen
      split_ifs
      · exact .of_observe rfl rfl
      · exact .of_eq rfl rfl rfl

end Tracker

open Tracker (Discloses)

namespace Agent

variable (a : Agent) (site : Site)

theorem act_discloses (actor : Actor) :
    Discloses (shownAt (a, site)) (shownAt (a.act actor site)) := by
  by_cases hfirst : actor = .task ∧ a.stage = .created
  · -- The first step of the task begins with the announcement.
    obtain ⟨rfl, hstage⟩ := hfirst
    have hannounced := a.tracker.announce_discloses site.telemetry site.wall
    exact hannounced.trans (a.actTask_created_passes site hstage).discloses
  · exact (a.act_passes site actor fun htask hstage => hfirst ⟨htask, hstage⟩).discloses

theorem submit_discloses (workload : String) (request : ResourceRequest) :
    Discloses (shownAt (a, site)) (shownAt (a.submit workload request site).2) :=
  (a.submit_passes site workload request).discloses

theorem release_discloses (workload : String) :
    Discloses (shownAt (a, site)) (shownAt (a.release workload site).2) :=
  (a.release_passes site workload).discloses

/-- A step of a stop call moves the agent to `terminating` at most. -/
theorem Attended.proceed_discloses (x : Attended) (caller : Nat) :
    Discloses (shownAt (x.agent, x.site))
      (shownAt ((x.proceed caller).agent, (x.proceed caller).site)) := by
  generalize hy : x.proceed caller = y
  have hstep : x.CallStep caller y := hy ▸ x.proceed_step caller
  cases hstep with
  | told hcall =>
      exact (move_passes (.refl : Tracker.Passes (shownAt (x.agent, x.site)) _)
        .terminating).discloses
  | _ => exact .of_eq rfl rfl rfl

end Agent

end NodeFleet
