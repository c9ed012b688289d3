import NodeFleet.Proofs.Tracker.Gauge

/-!
# Interleaved tracker operations

The trackers of many agents share one telemetry, and their operations can come in any
order.  A roster holds the trackers and what they share; one step of it is one operation of
one tracker.  Of the order within an agent only this is used: its task announces it before
it does anything else with the tracker, and until then only stop calls move it.
-/

namespace NodeFleet

namespace Tracker

/-- An operation of a tracker that is not interrupted. -/
inductive Deed where
  | move (target : AgentState)
  | moveFrom (source target : AgentState)
  | countFailure (kind : LoopKind)
  | clearFailures (kind : LoopKind)
  | degradeAt (count : Nat)
  | recoverBelow (count : Nat)
  | resetFailures
  | setRegistered (identity : Identity) (lease : Lease)
  | recordRenewal (version : Nat)
  | recordPublish

/-- Carries out an operation. -/
def carryOut (t : Tracker) (shown : Telemetry) (now : Timestamp) : Deed → Tracker × Telemetry
  | .move target => (t.move target shown now).2
  | .moveFrom source target => (t.moveFrom source target shown now).2
  | .countFailure kind => (t.countFailure kind, shown)
  | .clearFailures kind => (t.clearFailures kind, shown)
  | .degradeAt count => t.degradeAt count shown now
  | .recoverBelow count => t.recoverBelow count shown now
  | .resetFailures => (t.resetFailures, shown)
  | .setRegistered identity lease => (t.setRegistered identity lease, shown)
  | .recordRenewal version => (t.recordRenewal version now, shown)
  | .recordPublish => (t.recordPublish now, shown)

theorem carryOut_carried (t : Tracker) (shown : Telemetry) (now : Timestamp) (deed : Deed) :
    Carried (t, shown) (t.carryOut shown now deed) := by
  cases deed with
  | move target => exact moveWhen_carried _ target
  | moveFrom source target => exact moveWhen_carried _ target
  | countFailure kind => exact carried_of_eq (setFailures_state _ kind _) fun _ => rfl
  | clearFailures kind => exact carried_of_eq (setFailures_state _ kind _) fun _ => rfl
  | degradeAt count => exact degradeAt_carried count
  | recoverBelow count => exact recoverBelow_carried count
  | resetFailures => exact .refl _
  | setRegistered identity lease => exact .refl _
  | recordRenewal version => exact .refl _
  | recordPublish => exact .refl _

end Tracker

/-- The tracker of an agent that was started. -/
structure Enrolled where
  tracker : Tracker
  isTold : Bool
  /-- Once it was announced, whether it had been told to end by then. -/
  announced : Option Bool

/-- What is known of the agent. -/
def Enrolled.standing (e : Enrolled) : Standing :=
  { state := e.tracker.state, isTold := e.isTold, announced := e.announced }

/-- The trackers of all agents, with what they share. -/
structure Roster where
  shown : Telemetry
  enrolled : List Enrolled

namespace Roster

/-- One uninterrupted operation. -/
inductive Event where
  /-- An agent is started. -/
  | start (name : String) (threshold : Nat)
  /-- The task of an agent announces it, which it does once. -/
  | announce (position : Nat) (now : Timestamp)
  /-- A stop call tells an agent to end. -/
  | tell (position : Nat) (now : Timestamp)
  /-- The task of an agent or one of its loops does something else, after the announcement. -/
  | carryOut (position : Nat) (deed : Tracker.Deed) (now : Timestamp)

/-- Lets an operation happen. -/
def happen (r : Roster) : Event → Roster
  | .start name threshold =>
      { r with
        enrolled := r.enrolled ++
          [{ tracker := .create name threshold, isTold := false, announced := none }] }
  | .announce position now =>
      match r.enrolled[position]? with
      | some { tracker, isTold, announced := none } =>
          { shown := tracker.announce r.shown now
            enrolled := r.enrolled.set position { tracker, isTold, announced := some isTold } }
      | _ => r
  | .tell position now =>
      match r.enrolled[position]? with
      | some e =>
          let (_, tracker, shown) := e.tracker.move .terminating r.shown now
          { shown, enrolled := r.enrolled.set position { e with tracker, isTold := true } }
      | none => r
  | .carryOut position deed now =>
      match r.enrolled[position]? with
      | some { tracker, isTold, announced := some told } =>
          let (tracker, shown) := tracker.carryOut r.shown now deed
          { shown
            enrolled := r.enrolled.set position { tracker, isTold, announced := some told } }
      | _ => r

/-- Lets operations happen one after the other. -/
def run (r : Roster) (events : List Event) : Roster := events.foldl happen r

theorem run_concat (r : Roster) (events : List Event) (event : Event) :
    run r (events ++ [event]) = (run r events).happen event := by
  simp [run]

/-- What is known of the agents. -/
def standings (r : Roster) : List Standing := r.enrolled.map Enrolled.standing

variable {r : Roster} {shown : Telemetry}

/-- The gauge has changed by the shares of the enrolled agents. -/
abbrev IsAccounted (r : Roster) (shown : Telemetry) : Prop :=
  Accounted (r.shown.gaugeSince shown) r.standings

theorem standings_set {enrolled : List Enrolled} {position : Nat} {e : Enrolled} :
    standings { shown, enrolled := enrolled.set position e } =
      (enrolled.map Enrolled.standing).set position e.standing :=
  List.map_set

theorem standings_get {position : Nat} {e : Enrolled} (hget : r.enrolled[position]? = some e) :
    r.standings[position]? = some e.standing := by
  rw [standings, List.getElem?_map, hget]
  rfl

theorem IsAccounted.happen (h : r.IsAccounted shown) (event : Event) :
    (r.happen event).IsAccounted shown := by
  cases event with
  | start name threshold =>
      have hstart : (r.happen (.start name threshold)).standings =
          r.standings ++ [{ state := .unregistered, isTold := false, announced := none }] :=
        List.map_append
      rw [IsAccounted, hstart]
      exact Accounted.start h
  | announce position now =>
      simp only [Roster.happen]
      split
      · next tracker isTold hget =>
          rw [IsAccounted, standings_set]
          exact Accounted.announce h (standings_get hget) rfl (Tracker.gaugeSince_announce shown)
      · exact h
  | tell position now =>
      simp only [Roster.happen]
      split
      · next e hget =>
          rw [IsAccounted, standings_set]
          -- The agent may not have announced itself yet, so its order has to be kept as well.
          have horderly := h.orderly _ (List.mem_of_getElem? (standings_get hget))
          exact Accounted.carry h (standings_get hget) (horderly.tell Tracker.move_terminating_state)
            ((Tracker.moveWhen_carried _ .terminating).gaugeSince shown)
      · exact h
  | carryOut position deed now =>
      simp only [Roster.happen]
      split
      · next tracker isTold told hget =>
          rw [IsAccounted, standings_set]
          exact Accounted.carry h (standings_get hget) nofun
            ((Tracker.carryOut_carried _ _ _ deed).gaugeSince shown)
      · exact h

theorem run_isAccounted (shown : Telemetry) (events : List Event) :
    (run { shown, enrolled := [] } events).IsAccounted shown := by
  induction events using List.reverseRecOn with
  | nil => exact ⟨fun s => Int.sub_self _, nofun⟩
  | append_singleton events event ih =>
      rw [run_concat]
      exact ih.happen event

end Roster

end NodeFleet
