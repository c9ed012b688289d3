import Mathlib.Logic.Function.Basic
import NodeFleet.Proofs.Agent.Gauge
import NodeFleet.Proofs.Cohort.Run
import NodeFleet.Proofs.Tracker.Roster

/-!
# What the gauge of agents comes to

The gauge should show how many agents are in each state.  It does so exactly as long as
every agent has taken its first step before it is told to end.  An agent that is told to
end earlier moves from `unregistered`, where it was never counted, to `terminating`, and
then announces that state once more: from then on one agent too many is counted as
terminating and one too few as unregistered.

The run of a cohort keeps for each position whether the agent there has announced itself,
and whether it had been told to end by then.
-/

namespace NodeFleet.Cohort

/-- A cohort with what is remembered of its agents' announcements. -/
structure Recorded where
  cohort : Cohort
  /-- For each position, once the agent has announced itself, whether it had been told to end. -/
  announced : Nat → Option Bool

/-- The agent that announces itself in a move, with whether it has been told to end. -/
def announcing? (c : Cohort) : Move → Option (Nat × Bool)
  | .event (.agent position .task) =>
      (c.members[position]?).bind fun member =>
        match member.agent.stage with
        | .created => some (position, member.agent.isCancelled)
        | _ => none
  | _ => none

namespace Recorded

/-- Lets a move happen and remembers an announcement. -/
def move (r : Recorded) (m : Move) : Recorded :=
  { cohort := r.cohort.move m
    announced :=
      match r.cohort.announcing? m with
      | some (position, isTold) => Function.update r.announced position (some isTold)
      | none => r.announced }

/-- Lets moves happen one after the other. -/
def run (c : Cohort) (moves : List Move) : Recorded :=
  moves.foldl move { cohort := c, announced := fun _ => none }

theorem run_concat (c : Cohort) (moves : List Move) (m : Move) :
    run c (moves ++ [m]) = (run c moves).move m := by
  simp [run]

/-- What is known of the agent at a position. -/
def standing (announced : Nat → Option Bool) (position : Nat) (member : Member) : Standing :=
  { state := member.agent.state
    isTold := member.agent.isCancelled
    announced := announced position }

/-- What is known of the agents. -/
def standings (r : Recorded) : List Standing :=
  r.cohort.members.mapIdx (standing r.announced)

/-- The gauge has changed by the agents' shares, and the announcements are remembered as the
stages of the tasks show them. -/
structure Accounts (r : Recorded) (shown : Telemetry) : Prop where
  /-- The gauge is the sum of the shares. -/
  accounted : Accounted (r.cohort.site.telemetry.gaugeSince shown) r.standings
  /-- An agent that has not announced itself has not taken its first step. -/
  unstarted : ∀ position member, r.cohort.members[position]? = some member →
    r.announced position = none → member.agent.IsUnstarted
  /-- An agent that has announced itself does not do so again. -/
  started : ∀ position member, r.cohort.members[position]? = some member →
    r.announced position ≠ none → member.agent.stage ≠ .created
  /-- Positions to come are not remembered. -/
  fresh : ∀ position, r.cohort.members.length ≤ position → r.announced position = none

variable {r : Recorded} {shown : Telemetry}

theorem standings_get {position : Nat} {member : Member}
    (hget : r.cohort.members[position]? = some member) :
    r.standings[position]? = some (standing r.announced position member) := by
  rw [standings, List.getElem?_mapIdx, hget]
  rfl

/-- What is known after one agent and what is remembered of it have changed. -/
theorem standings_setAgent {announced : Nat → Option Bool} {position : Nat} {member : Member}
    {agent : Agent} {site : Site} (hget : r.cohort.members[position]? = some member)
    (hothers : ∀ other, other ≠ position → announced other = r.announced other) :
    standings { cohort := r.cohort.setAgent position agent site, announced } =
      r.standings.set position (standing announced position { member with agent }) := by
  rw [standings, setAgent_eq hget, List.mapIdx_set]
  refine List.ext_getElem? fun i => ?_
  by_cases hi : position = i
  · subst hi
    simp [standings, List.getElem?_set]
  · rw [List.getElem?_set_ne hi, List.getElem?_set_ne hi, standings, List.getElem?_mapIdx,
      List.getElem?_mapIdx]
    refine congrArg (Option.map · _) (funext fun m => ?_)
    exact congrArg (Standing.mk _ _) (hothers i (Ne.symm hi))

/-! ## Steps -/

/-- One agent changes, and the rest carries over to what is remembered. -/
theorem Accounts.setAgent {announced : Nat → Option Bool} {position : Nat} {member : Member}
    {agent : Agent} {site : Site} (h : r.Accounts shown)
    (hget : r.cohort.members[position]? = some member)
    (hothers : ∀ other, other ≠ position → announced other = r.announced other)
    (haccounted : Accounted (site.telemetry.gaugeSince shown)
      (r.standings.set position (standing announced position { member with agent })))
    (hunstarted : announced position = none → agent.IsUnstarted)
    (hstarted : announced position ≠ none → agent.stage ≠ .created) :
    Accounts { cohort := r.cohort.setAgent position agent site, announced } shown := by
  have hposition : position < r.cohort.members.length :=
    (List.getElem?_eq_some_iff.1 hget).1
  have hnew : ∀ i m, (r.cohort.setAgent position agent site).members[i]? = some m →
      (i = position ∧ m.agent = agent) ∨ (i ≠ position ∧ r.cohort.members[i]? = some m) := by
    intro i m hm
    rw [setAgent_eq hget] at hm
    by_cases hi : position = i
    · subst hi
      rw [List.getElem?_set_self hposition] at hm
      exact .inl ⟨rfl, (Option.some.inj hm) ▸ rfl⟩
    · rw [List.getElem?_set_ne hi] at hm
      exact .inr ⟨Ne.symm hi, hm⟩
  constructor
  · rw [standings_setAgent hget hothers]
    exact haccounted
  · intro i m hm hnone
    rcases hnew i m hm with ⟨rfl, rfl⟩ | ⟨hi, hold⟩
    · exact hunstarted hnone
    · exact h.unstarted i m hold (hothers i hi ▸ hnone)
  · intro i m hm hsome
    rcases hnew i m hm with ⟨rfl, rfl⟩ | ⟨hi, hold⟩
    · exact hstarted hsome
    · exact h.started i m hold (hothers i hi ▸ hsome)
  · intro i hi
    rw [setAgent_eq hget, List.length_set] at hi
    exact (hothers i (by omega)).trans (h.fresh i hi)

/-- One agent takes a step that is not its first. -/
theorem Accounts.carry {position : Nat} {member : Member} {agent : Agent} {site : Site}
    (h : r.Accounts shown) (hget : r.cohort.members[position]? = some member)
    (hgauge : Site.Carried (member.agent.tracker, r.cohort.site) (agent.tracker, site))
    (horderly : (standing r.announced position { member with agent }).IsOrderly)
    (hunstarted : r.announced position = none → agent.IsUnstarted)
    (hstarted : r.announced position ≠ none → agent.stage ≠ .created) :
    Accounts { cohort := r.cohort.setAgent position agent site, announced := r.announced }
      shown := by
  refine h.setAgent hget (fun _ _ => rfl) ?_ hunstarted hstarted
  exact h.accounted.carry (standings_get hget) horderly (hgauge.gaugeSince shown)

/-- Neither what is shown nor the agents change. -/
theorem Accounts.keep {cohort : Cohort} (h : r.Accounts shown)
    (hmembers : cohort.members = r.cohort.members)
    (hgauge : ∀ s, cohort.site.telemetry.gauge s = r.cohort.site.telemetry.gauge s) :
    Accounts { cohort, announced := r.announced } shown := by
  have hchange : cohort.site.telemetry.gaugeSince shown =
      r.cohort.site.telemetry.gaugeSince shown :=
    funext fun s => congrArg (· - shown.gauge s) (hgauge s)
  have hstandings : standings { cohort, announced := r.announced } = r.standings :=
    congrArg (List.mapIdx (standing r.announced)) hmembers
  refine ⟨?_, hmembers ▸ h.unstarted, hmembers ▸ h.started, hmembers ▸ h.fresh⟩
  rw [hchange, hstandings]
  exact h.accounted

theorem Accounts.enlist (h : r.Accounts shown) (index : Nat) (setup : AgentSetup) :
    Accounts { cohort := r.cohort.enlist index setup, announced := r.announced } shown := by
  have hnew : ∀ i m, (r.cohort.enlist index setup).members[i]? = some m →
      (i = r.cohort.members.length ∧ m.agent = .create setup) ∨
        r.cohort.members[i]? = some m := by
    intro i m hm
    rw [Cohort.enlist, List.getElem?_append] at hm
    split_ifs at hm with hi
    · exact .inr hm
    · obtain ⟨hi', hm'⟩ := List.getElem?_eq_some_iff.1 hm
      simp only [List.length_singleton, List.getElem_singleton] at hi' hm'
      exact .inl ⟨by omega, hm' ▸ rfl⟩
  have hnone := h.fresh r.cohort.members.length (Nat.le_refl _)
  constructor
  · have hstandings : standings { cohort := r.cohort.enlist index setup
                                  announced := r.announced } =
        r.standings ++ [{ state := .unregistered, isTold := false, announced := none }] := by
      rw [standings, Cohort.enlist, List.mapIdx_append, List.mapIdx_singleton, standing,
        Nat.zero_add, hnone]
      rfl
    rw [hstandings]
    exact h.accounted.start
  · intro i m hm hi
    rcases hnew i m hm with ⟨-, hagent⟩ | hold
    · exact .inl (hagent ▸ rfl)
    · exact h.unstarted i m hold hi
  · intro i m hm hi
    rcases hnew i m hm with ⟨rfl, -⟩ | hold
    · exact absurd hnone hi
    · exact h.started i m hold hi
  · intro i hi
    rw [Cohort.enlist, List.length_append] at hi
    exact h.fresh i (by omega)

/-- One agent takes its first step, in which it announces itself. -/
theorem Accounts.announce {position : Nat} {member : Member} (h : r.Accounts shown)
    (hget : r.cohort.members[position]? = some member) (hcreated : member.agent.stage = .created) :
    Accounts
      { cohort := r.cohort.perform (.agent position .task)
        announced := Function.update r.announced position (some member.agent.isCancelled) }
      shown := by
  have hnone : r.announced position = none := by
    by_contra hsome
    exact h.started position member hget hsome hcreated
  have hposition : position < r.standings.length :=
    (List.getElem?_eq_some_iff.1 (standings_get hget)).1
  -- First the announcement by itself, then the rest of the step, which carries over.
  let telemetry := member.agent.tracker.announce r.cohort.site.telemetry r.cohort.site.wall
  have hannounced : Accounted (telemetry.gaugeSince shown)
      (r.standings.set position
        { state := member.agent.state
          isTold := member.agent.isCancelled
          announced := some member.agent.isCancelled }) :=
    h.accounted.announce (standings_get hget) hnone (Tracker.gaugeSince_announce shown)
  have hcarried := member.agent.actTask_created r.cohort.site hcreated
  let after := member.agent.actTask r.cohort.site
  have hafter : Accounted (after.2.telemetry.gaugeSince shown)
      ((r.standings.set position _).set position
        { state := after.1.state
          isTold := after.1.isCancelled
          announced := some member.agent.isCancelled }) :=
    hannounced.carry (List.getElem?_set_self hposition) nofun
      (hcarried.gauge.gaugeSince shown)
  rw [List.set_set] at hafter
  simp only [perform, hget]
  refine h.setAgent hget (fun other hother => Function.update_of_ne hother _ _) ?_ ?_ ?_
  · rw [standing, Function.update_self]
    exact hafter
  · rw [Function.update_self]
    exact nofun
  · exact fun _ => member.agent.act_stage_ne r.cohort.site .task (.inl rfl)

/-- The agent at a position takes a step that leaves its tracker alone until it has announced
itself. -/
theorem Accounts.act {position : Nat} {member : Member} {agent : Agent} {site : Site}
    (h : r.Accounts shown) (hget : r.cohort.members[position]? = some member)
    (hcarried : Agent.Carried (member.agent, r.cohort.site) (agent, site))
    (hunstarted : member.agent.IsUnstarted →
      r.announced position = none → agent.IsUnstarted ∧ agent.tracker = member.agent.tracker)
    (hstarted : member.agent.stage ≠ .created → agent.stage ≠ .created) :
    Accounts { cohort := r.cohort.setAgent position agent site, announced := r.announced }
      shown := by
  refine h.carry hget hcarried.gauge ?_ ?_ ?_
  · intro hnone
    have hmember := h.accounted.orderly _ (List.mem_of_getElem? (standings_get hget)) hnone
    obtain ⟨-, htracker⟩ := hunstarted (h.unstarted position member hget hnone) hnone
    have hsame : standing r.announced position { member with agent } =
        standing r.announced position member := by
      have hcancelled : agent.isCancelled = member.agent.isCancelled := hcarried.isCancelled_eq
      simp only [standing, Agent.state, htracker, hcancelled]
    rw [hsame]
    exact hmember
  · exact fun hnone => (hunstarted (h.unstarted position member hget hnone) hnone).1
  · exact fun hsome => hstarted (h.started position member hget hsome)

theorem Accounts.stop {position : Nat} {member : Member} (h : r.Accounts shown)
    (hget : r.cohort.members[position]? = some member) :
    Accounts
      { cohort := (r.cohort.beginStop position member.agent).2, announced := r.announced }
      shown := by
  obtain ⟨hsite, htracker, hcancelled, hstage⟩ := member.agent.stop_eq r.cohort.site
  rw [beginStop_eq]
  refine h.carry hget ?_ ?_ ?_ ?_
  · rw [hsite, htracker]
    exact r.cohort.site.move_carried member.agent.tracker .terminating
  · have hmember := h.accounted.orderly _ (List.mem_of_getElem? (standings_get hget))
    rw [standing, hcancelled, Agent.state, htracker]
    exact Standing.IsOrderly.tell hmember Tracker.move_terminating_state
  · intro hnone
    have hmember := h.unstarted position member hget hnone
    rwa [Agent.IsUnstarted, hstage]
  · intro hsome
    rw [hstage]
    exact h.started position member hget hsome

theorem Accounts.launch (h : r.Accounts shown) :
    Accounts { cohort := r.cohort.perform .launch, announced := r.announced } shown := by
  simp only [perform]
  cases r.cohort.launcher with
  | none => exact h
  | some launcher =>
      simp only [actLauncher]
      split
      · exact h.keep rfl fun _ => rfl
      · next index setup pending hpending =>
          have henlisted := h.enlist index setup
          split_ifs
          · exact h.keep rfl fun _ => rfl
          · exact henlisted.keep rfl fun _ => rfl
          · exact henlisted.keep rfl fun _ => rfl

/-- A step of an actor announces the agent if it is the first one of the task, and carries over
otherwise. -/
theorem Accounts.agent {position : Nat} {actor : Actor} (h : r.Accounts shown) :
    (r.move (.event (.agent position actor))).Accounts shown := by
  cases hget : r.cohort.members[position]? with
  | none =>
      have hannouncing : r.cohort.announcing? (.event (.agent position actor)) = none := by
        cases actor <;> simp [announcing?, hget]
      simp only [move, hannouncing, Cohort.move, perform, hget]
      exact h
  | some member =>
      by_cases hfirst : actor = .task ∧ member.agent.stage = .created
      · obtain ⟨rfl, hcreated⟩ := hfirst
        have hannouncing : r.cohort.announcing? (.event (.agent position .task)) =
            some (position, member.agent.isCancelled) := by
          simp [announcing?, hget, hcreated]
        simp only [move, hannouncing]
        exact h.announce hget hcreated
      · -- A step of a loop or of the stop call before the first one of the task changes nothing.
        have hlater : actor = .task → member.agent.stage ≠ .created :=
          fun htask hcreated => hfirst ⟨htask, hcreated⟩
        have hannouncing : r.cohort.announcing? (.event (.agent position actor)) = none := by
          cases actor with
          | task =>
              simp only [announcing?, hget, Option.bind_some]
              split
              · next hcreated => exact absurd hcreated (hlater rfl)
              · rfl
          | heartbeat => rfl
          | statusSync => rfl
          | stopper => rfl
        simp only [move, hannouncing, Cohort.move, perform, hget]
        refine h.act hget (member.agent.act_carried r.cohort.site actor hlater) ?_ ?_
        · exact fun hunstarted _ =>
            member.agent.act_of_isUnstarted r.cohort.site actor hunstarted hlater
        · exact fun hstage => member.agent.act_stage_ne r.cohort.site actor (.inr hstage)

theorem Accounts.move (h : r.Accounts shown) (m : Move) : (r.move m).Accounts shown := by
  cases m with
  | start index setup => exact h.enlist index setup
  | stop position =>
      simp only [Recorded.move, announcing?, Cohort.move]
      cases hget : r.cohort.members[position]? with
      | none => exact h
      | some member => exact h.stop hget
  | event event =>
      cases event with
      | launch => exact h.launch
      | agent position actor => exact h.agent
  | wait instant => exact h.keep rfl fun _ => rfl
  | control plane => exact h.keep rfl fun _ => rfl
  | submit position workload request =>
      simp only [Recorded.move, announcing?, Cohort.move]
      cases hget : r.cohort.members[position]? with
      | none => exact h
      | some member =>
          exact h.act hget (member.agent.submit_carried r.cohort.site workload request)
            (fun hunstarted _ => ⟨hunstarted, rfl⟩) id
  | release position workload =>
      simp only [Recorded.move, announcing?, Cohort.move]
      cases hget : r.cohort.members[position]? with
      | none => exact h
      | some member =>
          exact h.act hget (member.agent.release_carried r.cohort.site workload)
            (fun hunstarted _ => ⟨hunstarted, rfl⟩) id

/-! ## Runs -/

theorem run_accounts (site : Site) (launcher : Option Launcher) (launchCancelled : Bool)
    (moves : List Move) :
    (run { site, members := [], launcher, launchCancelled } moves).Accounts site.telemetry := by
  induction moves using List.reverseRecOn with
  | nil =>
      refine ⟨⟨fun s => ?_, ?_⟩, ?_, ?_, fun _ _ => rfl⟩
      · simp [run, Telemetry.gaugeSince, standings]
      · simp [run, standings]
      · simp [run]
      · simp [run]
  | append_singleton moves m ih =>
      rw [run_concat]
      exact ih.move m

end Recorded

/-- The gauge of agents is exact as long as every agent announces itself before it is told to end,
and only then.  This holds at every point of every run of a cohort, and also between any two
operations when those of all trackers are interleaved. -/
theorem gauge_exact_unless_told_before_announced (site : Site) (launcher : Option Launcher)
    (launchCancelled : Bool) (moves : List Move) (operations : List Roster.Event) :
    let r := Recorded.run { site, members := [], launcher, launchCancelled } moves
    let roster := Roster.run { shown := site.telemetry, enrolled := [] } operations
    GaugeLaw (r.cohort.site.telemetry.gaugeSince site.telemetry) r.standings ∧
      GaugeLaw (roster.shown.gaugeSince site.telemetry) roster.standings := by
  have hcohort := Recorded.run_accounts site launcher launchCancelled moves
  have hroster := Roster.run_isAccounted site.telemetry operations
  exact ⟨hcohort.accounted.gaugeLaw, hroster.gaugeLaw⟩

/-- One agent is started, told to end, and takes its first step, which is then also its last: it is
stopped, but one agent is counted as terminating, and minus one as unregistered. -/
theorem told_before_announced_miscounts :
    let setup : AgentSetup :=
      { name := "node"
        profile := ⟨1000, 1000, 0, 0, 1, ⟨0, 24⟩⟩
        renewInterval := 10
        status := { minInterval := 10, maxInterval := 60, pressureThreshold := 0 }
        retry := ⟨3, 1, 8, 4⟩
        shutdownTimeout := 30 }
    let site := Site.create (.empty 0) ⟨0, 0⟩
    let r := Recorded.run (create site) [.start 0 setup, .stop 0, .event (.agent 0 .task)]
    r.standings.all (·.announced.isSome) = true ∧ Standing.inState r.standings .stopped = 1 ∧
      r.cohort.site.telemetry.gaugeSince site.telemetry .terminating = 1 ∧
      Standing.inState r.standings .terminating = 0 ∧
      r.cohort.site.telemetry.gaugeSince site.telemetry .unregistered = -1 ∧
      Standing.inState r.standings .unregistered = 0 := by
  intro setup site r
  refine ⟨rfl, rfl, rfl, rfl, rfl, rfl⟩

end NodeFleet.Cohort
