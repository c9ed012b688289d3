import Mathlib.Data.List.Basic
import NodeFleet.Cohort

/-!
# Runs of a cohort

A run of a cohort is any sequence of moves: agents are started and told to end, actors
take their steps, the clock moves on, workloads are submitted and released, and the
control plane is changed from outside.  An event may happen at any time, whether it is due
or not, so the runs that follow the schedule are among these.
-/

namespace NodeFleet.Cohort

/-- Something that happens to a cohort. -/
inductive Move where
  | start (index : Nat) (setup : AgentSetup)
  | stop (position : Nat)
  /-- The launcher or an actor takes a step. -/
  | event (event : Event)
  | wait (instant : Instant)
  /-- The control plane becomes another. -/
  | control (plane : ControlPlane)
  | submit (position : Nat) (workload : String) (request : ResourceRequest)
  | release (position : Nat) (workload : String)

/-- Lets a move happen. -/
def move (c : Cohort) : Move → Cohort
  | .start index setup => c.enlist index setup
  | .stop position =>
      match c.members[position]? with
      | some member => (c.beginStop position member.agent).2
      | none => c
  | .event event => c.perform event
  | .wait instant => c.advanceTo instant
  | .control plane => { c with site := { c.site with plane } }
  | .submit position workload request =>
      match c.members[position]? with
      | some member =>
          let (_, agent, site) := member.agent.submit workload request c.site
          c.setAgent position agent site
      | none => c
  | .release position workload =>
      match c.members[position]? with
      | some member =>
          let (_, agent, site) := member.agent.release workload c.site
          c.setAgent position agent site
      | none => c

/-- Telling an agent to end replaces it by the told one. -/
theorem beginStop_eq (c : Cohort) (position : Nat) (agent : Agent) :
    (c.beginStop position agent).2 =
      c.setAgent position (agent.stop c.site).2.1 (agent.stop c.site).2.2 := rfl

/-- Replacing the agent at a position where there is one. -/
theorem setAgent_eq {c : Cohort} {position : Nat} {member : Member}
    (hget : c.members[position]? = some member) (agent : Agent) (site : Site) :
    c.setAgent position agent site =
      { c with site, members := c.members.set position { member with agent } } := by
  rw [setAgent, List.modify_eq_set_getElem?, hget]
  rfl

/-- Replacing a member does not show where both look alike. -/
theorem map_set_of_eq {α β : Type} {members : List α} {position : Nat} {before after : α}
    {g : α → β} (hbefore : members[position]? = some before) (hsame : g after = g before) :
    (members.set position after).map g = members.map g := by
  have hget : (members.map g)[position]? = some (g before) := by
    rw [List.getElem?_map, hbefore]
    rfl
  obtain ⟨hlt, hvalue⟩ := List.getElem?_eq_some_iff.1 hget
  rw [List.map_set, hsame, ← hvalue]
  exact List.set_getElem_self hlt

end NodeFleet.Cohort
