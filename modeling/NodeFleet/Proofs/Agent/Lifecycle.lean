import Mathlib.Data.Fintype.Basic
import Mathlib.Data.List.Induction
import NodeFleet.Proofs.Agent.StopCalls
import NodeFleet.Proofs.Ledger.Run
import NodeFleet.Proofs.Table.Sorted

/-!
# The state of an agent and the stage of its task

The task asks for a change of state whenever it enters another part of its life, and never
looks whether the change was allowed.  Stop calls and both loops change the same state.
That the state still fits the stage rests on two facts.  The task asks for states in the
order of the table of allowed moves (`Asks`), and all that a loop can do is to swing
between `active` and `degraded`, which its stage permits.  A stop call is the only one to
break the order; from then on all the task asks for is refused until it asks for `stopped`.

`Period` has the parts of a life that the state tells apart, and `Period.states` the states
that fit each of them before and after the first stop call has told the agent to end.
-/

namespace NodeFleet

/-! ## Moves that were asked for -/

namespace AgentState

instance : Fintype AgentState where
  elems := ⟨all, by decide⟩
  complete := mem_all

/-- The state after a move was asked for: one that is not allowed is refused. -/
def moved (s target : AgentState) : AgentState :=
  if s.canMoveTo target then target else s

/-- The state after several moves were asked for. -/
def follow (s : AgentState) (asked : List AgentState) : AgentState :=
  asked.foldl moved s

/-- Whether each of several moves is allowed after the ones before it. -/
def Allows (s : AgentState) : List AgentState → Prop
  | [] => True
  | target :: later => s.canMoveTo target = true ∧ target.Allows later

/-- Moves that are allowed lead where they were meant to. -/
theorem Allows.follow_eq {s : AgentState} {asked : List AgentState} (h : s.Allows asked) :
    s.follow asked = asked.getLastD s := by
  induction asked generalizing s with
  | nil => rfl
  | cons target later ih =>
      obtain ⟨hmove, hlater⟩ := h
      have hmoved : s.moved target = target := if_pos hmove
      calc s.follow (target :: later)
          = (s.moved target).follow later := rfl
        _ = later.getLastD target := by rw [hmoved, ih hlater]
        _ = (target :: later).getLastD s := by rw [List.getLastD_cons]

/-- Whether at most a degradation or a recovery lies between two states. -/
def Swings (s later : AgentState) : Prop :=
  later = s ∨ s.isRunning = true ∧ later.isRunning = true

instance (s later : AgentState) : Decidable (s.Swings later) :=
  inferInstanceAs (Decidable (_ ∨ _))

theorem isRunning_iff {s : AgentState} : s.isRunning = true ↔ s = .active ∨ s = .degraded := by
  cases s <;> simp [isRunning]

/-- Whether an agent is about to end or has ended. -/
def IsClosing (s : AgentState) : Prop := s = .terminating ∨ s = .stopped

theorem IsClosing.follow {s : AgentState} (h : s.IsClosing) (asked : List AgentState) :
    (s.follow asked).IsClosing := by
  induction asked generalizing s with
  | nil => exact h
  | cons target later ih =>
      have hmoved : (s.moved target).IsClosing := by
        rcases h with rfl | rfl <;> cases target <;> simp [IsClosing, moved, canMoveTo]
      exact ih hmoved

theorem IsClosing.isRunning_ne {s : AgentState} (h : s.IsClosing) : s.isRunning ≠ true := by
  rcases h with rfl | rfl <;> decide

theorem IsClosing.swings {s later : AgentState} (h : s.IsClosing) (hswings : s.Swings later) :
    later.IsClosing := by
  rcases hswings with rfl | ⟨hrunning, -⟩
  · exact h
  · exact absurd hrunning h.isRunning_ne

end AgentState

theorem Site.move_state (site : Site) (t : Tracker) (target : AgentState) :
    (site.move t target).1.state = t.state.moved target := by
  simp only [move, Tracker.move, Tracker.moveWhen, Tracker.canMove, AgentState.moved]
  by_cases hallowed : t.state.canMoveTo target = true
  · -- No state has an allowed move to itself, so the check for a change adds nothing.
    have hother : t.state ≠ target := by
      rintro rfl
      simp [AgentState.not_canMoveTo_self] at hallowed
    simp [hallowed, hother]
  · simp [hallowed]

theorem Site.recordSuccess_swings (site : Site) (t : Tracker) (kind : LoopKind) :
    t.state.Swings (site.recordSuccess t kind).1.state := by
  have hstate : (t.clearFailures kind).state = t.state := t.setFailures_state kind 0
  simp only [recordSuccess, Tracker.recordSuccess, Tracker.recoverBelow_fst]
  split_ifs with hrecovers
  · have hdegraded : t.state = .degraded := hstate.symm.trans hrecovers.2
    exact .inr ⟨congrArg AgentState.isRunning hdegraded, rfl⟩
  · exact .inl hstate

theorem Site.recordFailure_swings (site : Site) (t : Tracker) (kind : LoopKind) :
    t.state.Swings (site.recordFailure t kind).1.state := by
  have hstate : (t.countFailure kind).state = t.state := t.setFailures_state kind _
  simp only [recordFailure, Tracker.recordFailure, Tracker.degradeAt_fst]
  split_ifs with hdegrades
  · have hactive : t.state = .active := hstate.symm.trans hdegrades.2
    exact .inr ⟨congrArg AgentState.isRunning hactive, rfl⟩
  · exact .inl hstate

theorem Heartbeat.report_swings (result : Except CallError Nat) (t : Tracker) (site : Site) :
    t.state.Swings (report result t site).1.state := by
  cases result with
  | ok version => exact Site.recordSuccess_swings _ (t.recordRenewal version site.wall) .heartbeat
  | error error =>
      simp only [report]
      split_ifs
      · exact .inl rfl
      · exact Site.recordFailure_swings _ t .heartbeat

theorem Heartbeat.act_swings (h : Heartbeat) (t : Tracker) (site : Site) :
    t.state.Swings (h.act t site).2.1.state := by
  unfold Heartbeat.act
  split
  · exact .inl rfl
  · exact report_swings _ t _

theorem StatusSync.report_swings (result : Except CallError Unit) (snapshot : StatusSnapshot)
    (t : Tracker) (site : Site) : t.state.Swings (report result snapshot t site).1.state := by
  cases result with
  | ok _ => exact Site.recordSuccess_swings _ (t.recordPublish snapshot.generatedAt) .statusSync
  | error error =>
      simp only [report]
      split_ifs
      · exact .inl rfl
      · exact Site.recordFailure_swings _ t .statusSync

theorem StatusSync.act_swings (s : StatusSync) (profile : Profile) (ledger : Ledger) (t : Tracker)
    (site : Site) : t.state.Swings (s.act profile ledger t site).2.1.state := by
  unfold StatusSync.act
  split
  · exact .inl rfl
  · exact report_swings _ _ t _

theorem Ledger.mem_records_tryAdmit {l : Ledger} {workload : String} {request : ResourceRequest}
    {now : Timestamp} {record : AdmissionRecord}
    (h : record ∈ (l.tryAdmit workload request now).2.records) :
    record ∈ l.records ∨ record = ⟨workload, request, now⟩ := by
  rcases l.tryAdmit_cases workload request now with
    ⟨_, -, heq⟩ | ⟨_, -, -, heq⟩ | ⟨-, -, heq⟩ <;> rw [heq] at h
  · exact .inl h
  · exact .inl h
  · obtain ⟨entry, hentry, rfl⟩ := List.mem_map.1 h
    rcases Table.mem_insert hentry with rfl | hkept
    · exact .inr rfl
    · exact .inl (List.mem_map_of_mem hkept)

theorem Ledger.mem_records_release {l : Ledger} {workload : String} {record : AdmissionRecord}
    (h : record ∈ (l.release workload).2.records) : record ∈ l.records := by
  rcases l.release_cases workload with ⟨-, heq⟩ | ⟨_, -, heq⟩ <;> rw [heq] at h
  · exact h
  · obtain ⟨entry, hentry, rfl⟩ := List.mem_map.1 h
    exact List.mem_map_of_mem (List.mem_of_mem_filter hentry)

/-! ## The parts of a life -/

/-- The parts of an agent's life that its state tells apart. -/
inductive Period where
  | created
  /-- Registering, or waiting to register. -/
  | registering
  /-- The loops run or end. -/
  | running
  /-- Deregistering. -/
  | leaving
  | finished
  | aborted
  deriving DecidableEq

def Stage.period : Stage → Period
  | .created => .created
  | .waiting _ _ => .registering
  | .registering _ _ => .registering
  | .retrying _ _ => .registering
  | .running _ => .running
  | .deregistering _ _ => .leaving
  | .finished => .finished
  | .aborted => .aborted

theorem Stage.period_eq_finished {stage : Stage} :
    stage.period = .finished ↔ stage = .finished := by
  cases stage <;> simp [period]

theorem Stage.period_eq_aborted {stage : Stage} : stage.period = .aborted ↔ stage = .aborted := by
  cases stage <;> simp [period]

/-- The states that fit a part of the life, before and after the agent was told to end. -/
def Period.states (isTold : Bool) : Period → List AgentState
  | .created => if isTold then [.terminating] else [.unregistered]
  | .registering => if isTold then [.terminating] else [.registering]
  | .running => if isTold then [.terminating] else [.active, .degraded]
  | .leaving => [.terminating]
  | .finished => [.stopped]
  | .aborted => if isTold then [.terminating] else []

/-- The moves that the task asks for on the way from one part of the life to another. -/
inductive Asks : Period → Period → List AgentState → Prop where
  | begins : Asks .created .registering [.registering]
  | tries : Asks .registering .registering []
  | registers : Asks .registering .running [.active]
  | joins : Asks .running .running []
  /-- The identity is lost. -/
  | returns : Asks .running .registering [.registering]
  | leaves : Asks .running .leaving [.terminating]
  | ends : Asks .leaving .finished [.stopped]
  /-- The task ends before it has registered. -/
  | quits {p : Period} (hearly : p = .created ∨ p = .registering) :
      Asks p .finished [.terminating, .stopped]
  | rests {p : Period} (hover : p = .finished ∨ p = .aborted) : Asks p p []

section Asks

variable {p q : Period} {asked : List AgentState} {s : AgentState}

/-- Whatever the task asks for, the state fits the part that it enters. -/
theorem Asks.follow_mem (h : Asks p q asked) {isTold : Bool} (hs : s ∈ p.states isTold) :
    s.follow asked ∈ q.states isTold := by
  cases h with
  -- Both parts from which the task may quit have a line of their own in the table.
  | quits hearly => rcases hearly with rfl | rfl <;> revert s isTold <;> decide
  | rests hover => exact hs
  | _ => revert s isTold; decide

/-- Before the agent was told to end, the task asks for allowed moves only. -/
theorem Asks.allows (h : Asks p q asked) (hs : s ∈ p.states false) : s.Allows asked := by
  cases h with
  | quits hearly =>
      rcases hearly with rfl | rfl <;> obtain rfl := List.mem_singleton.1 hs <;>
        exact ⟨rfl, rfl, trivial⟩
  | rests hover => trivial
  | tries => trivial
  | joins => trivial
  | returns =>
      have hrunning : s = .active ∨ s = .degraded := by simpa [Period.states] using hs
      rcases hrunning with rfl | rfl <;> exact ⟨rfl, trivial⟩
  | leaves =>
      have hrunning : s = .active ∨ s = .degraded := by simpa [Period.states] using hs
      rcases hrunning with rfl | rfl <;> exact ⟨rfl, trivial⟩
  | _ => obtain rfl := List.mem_singleton.1 hs; exact ⟨rfl, trivial⟩

end Asks

theorem Period.swings_mem {p : Period} {isTold : Bool} {s later : AgentState}
    (hs : s ∈ p.states isTold) (hswings : s.Swings later) : later ∈ p.states isTold := by
  rcases hswings with rfl | ⟨hrunning, hlater⟩
  · exact hs
  · -- Where one of the two running states fits, so does the other.
    cases p <;> revert isTold s later <;> decide

/-- A task is given up only after the agent was told to end, and not after it has ended. -/
theorem Period.aborted_mem {p : Period} {s : AgentState} (hs : s ∈ p.states true)
    (hp : p ≠ .finished) : s ∈ Period.aborted.states true := by
  cases p with
  | finished => exact absurd rfl hp
  | _ => exact hs

/-- An agent is stopped only when its task has ended. -/
theorem Period.eq_finished_of_stopped {p : Period} {isTold : Bool}
    (hs : AgentState.stopped ∈ p.states isTold) : p = .finished := by
  cases p with
  | finished => rfl
  | _ => cases isTold <;> exact absurd hs (by decide)

theorem Period.terminating_mem {p : Period} {isTold : Bool} {s : AgentState}
    (hs : s ∈ p.states isTold) : s.moved .terminating ∈ p.states true := by
  cases p <;> revert isTold s <;> decide

namespace Agent

/-! ## Steps of the actors -/

section Actors

variable (a : Agent) (site : Site)

theorem move_state (target : AgentState) :
    (a.move target site).1.state = a.state.moved target :=
  site.move_state a.tracker target

/-- Beside the state and the registration an actor changes where the task is, and how long it waits
before registering anew. -/
theorem act_eq (actor : Actor) (hactor : actor ≠ .stopper) :
    ∃ tracker stage reregistration,
      (a.act actor site).1 = { a with tracker, stage, reregistration } := by
  have hstep := a.act_step site actor
  generalize a.act actor site = later at hstep ⊢
  cases hstep with
  | @settled attempt call =>
      cases (site.settleRegister call attempt.identity a.setup.profile).1 <;>
        exact ⟨_, _, _, rfl⟩
  | released | abandoned => exact absurd rfl hactor
  | _ => exact ⟨_, _, _, rfl⟩

theorem act_keeps (actor : Actor) :
    (a.act actor site).1.setup = a.setup ∧ (a.act actor site).1.ledger = a.ledger ∧
      (a.act actor site).1.isCancelled = a.isCancelled := by
  by_cases hactor : actor = .stopper
  · subst hactor
    simp only [act, actStopper]
    split_ifs <;> exact ⟨rfl, rfl, rfl⟩
  · obtain ⟨tracker, stage, reregistration, heq⟩ := a.act_eq site actor hactor
    rw [heq]
    exact ⟨rfl, rfl, rfl⟩

theorem stop_keeps :
    (a.stop site).2.1.setup = a.setup ∧ (a.stop site).2.1.ledger = a.ledger ∧
      (a.stop site).2.1.stage = a.stage ∧
      (a.stop site).2.1.reregistration = a.reregistration ∧
      (a.stop site).2.1.isCancelled = true ∧ (a.stop site).2.2.now = site.now := by
  unfold stop
  dsimp only
  split <;> exact ⟨rfl, rfl, rfl, rfl, rfl, rfl⟩

theorem act_finished {a : Agent} {site : Site} {actor : Actor} (hactor : actor ≠ .stopper)
    (hstage : a.stage = .finished) : (a.act actor site).1.stage = .finished := by
  rw [a.act_of_over site hactor (.inl hstage)]
  exact hstage

/-- What is to be shown of a step of the task. -/
def TaskAsks (later : Agent) : Prop :=
  ∃ asked, Asks a.stage.period later.stage.period asked ∧ later.state = a.state.follow asked

theorem windUp_none_state :
    (a.windUp none site).1.state = a.state.follow [.terminating, .stopped] := by
  let halfway := a.move .terminating site
  calc (a.windUp none site).1.state
      = (halfway.1.move .stopped halfway.2).1.state := rfl
    _ = (a.state.moved .terminating).moved .stopped := by rw [move_state, move_state]

theorem windUp_some_state (identity : Identity) :
    (a.windUp (some identity) site).1.state = a.state.follow [.terminating] :=
  a.move_state site .terminating

theorem beginLoops_state (identity : Identity) (version : Nat) :
    (a.beginLoops identity version site).1.state = a.state.follow [.active] := by
  let lease : Lease := ⟨identity.uid, a.setup.renewInterval, some site.wall, version⟩
  let registered : Agent :=
    { a with tracker := (a.tracker.setRegistered identity lease).resetFailures }
  exact registered.move_state
    (site.note (.registered identity a.setup.profile.podRange.text version)) .active

variable {a site}

theorem windUp_none_asks (hearly : a.stage.period = .created ∨ a.stage.period = .registering) :
    a.TaskAsks (a.windUp none site).1 :=
  ⟨_, .quits hearly, a.windUp_none_state site⟩

theorem afterRegister_asks (hstage : a.stage.period = .registering) (attempt : RegistrationAttempt)
    (result : Except CallError Nat) : a.TaskAsks (a.afterRegister attempt result site).1 := by
  rw [TaskAsks, hstage]
  cases result with
  | ok version => exact ⟨_, .registers, a.beginLoops_state _ attempt.identity version⟩
  | error error => exact ⟨[], .tries, rfl⟩

/-- A step of the task asks for the moves that lead to the part of the life that it enters. -/
theorem actTask_asks (a : Agent) (site : Site) : a.TaskAsks (a.actTask site).1 := by
  have hstep := a.actTask_step site
  generalize a.actTask site = later at hstep ⊢
  cases hstep with
  | declined hstage => exact windUp_none_asks (.inl (congrArg Stage.period hstage))
  | quitWaiting hstage | quitRegistering hstage | quitRetrying hstage =>
      exact windUp_none_asks (.inr (congrArg Stage.period hstage))
  | settled hstage => exact afterRegister_asks (congrArg Stage.period hstage) _ _
  | entered hstage =>
      rw [TaskAsks, hstage]
      exact ⟨[.registering], .begins, a.move_state _ .registering⟩
  | attempted hstage | repeated hstage =>
      rw [TaskAsks, hstage]
      exact ⟨[], .tries, rfl⟩
  | joined hstage =>
      rw [TaskAsks, hstage]
      exact ⟨[], .joins, rfl⟩
  | leaving hstage =>
      rw [TaskAsks, hstage]
      exact ⟨_, .leaves, a.windUp_some_state site _⟩
  | lost hstage =>
      rw [TaskAsks, hstage]
      exact ⟨[.registering], .returns, a.move_state _ .registering⟩
  | left hstage =>
      rw [TaskAsks, hstage]
      exact ⟨[.stopped], .ends, a.move_state _ .stopped⟩
  | taskIdle hstage =>
      have hover : a.stage.period = .finished ∨ a.stage.period = .aborted :=
        hstage.imp (congrArg Stage.period) (congrArg Stage.period)
      exact ⟨[], .rests hover, rfl⟩

/-- A loop works in its part of the life, and its failures and successes only let the state
swing. -/
theorem actHeartbeat_swings (a : Agent) (site : Site) :
    (a.actHeartbeat site).1.stage.period = a.stage.period ∧
      a.state.Swings (a.actHeartbeat site).1.state := by
  have hstep := a.actHeartbeat_step site
  generalize a.actHeartbeat site = later at hstep ⊢
  cases hstep with
  | heartbeatIdle => exact ⟨rfl, .inl rfl⟩
  | heartbeatHalted hstage =>
      have hperiod : a.stage.period = .running := congrArg Stage.period hstage
      exact ⟨hperiod.symm, .inl rfl⟩
  | heartbeatWorked hstage =>
      have hperiod : a.stage.period = .running := congrArg Stage.period hstage
      exact ⟨hperiod.symm, Heartbeat.act_swings _ a.tracker site⟩

theorem actStatusSync_swings (a : Agent) (site : Site) :
    (a.actStatusSync site).1.stage.period = a.stage.period ∧
      a.state.Swings (a.actStatusSync site).1.state := by
  have hstep := a.actStatusSync_step site
  generalize a.actStatusSync site = later at hstep ⊢
  cases hstep with
  | statusSyncIdle => exact ⟨rfl, .inl rfl⟩
  | statusSyncHalted hstage =>
      have hperiod : a.stage.period = .running := congrArg Stage.period hstage
      exact ⟨hperiod.symm, .inl rfl⟩
  | statusSyncWorked hstage =>
      have hperiod : a.stage.period = .running := congrArg Stage.period hstage
      exact ⟨hperiod.symm, StatusSync.act_swings _ _ _ a.tracker site⟩

/-- A step of an actor leaves a state that fits the stage. -/
theorem act_state_mem {isTold : Bool} (h : a.state ∈ a.stage.period.states isTold) {actor : Actor}
    (hactor : actor ≠ .stopper) :
    (a.act actor site).1.state ∈ (a.act actor site).1.stage.period.states isTold := by
  cases actor with
  | task =>
      -- The task asks for the moves that belong to the part of the life that it enters.
      obtain ⟨asked, hasks, hstate⟩ := a.actTask_asks site
      show (a.actTask site).1.state ∈ _
      rw [hstate]
      exact hasks.follow_mem h
  | heartbeat =>
      obtain ⟨hperiod, hswings⟩ := a.actHeartbeat_swings site
      show _ ∈ (a.actHeartbeat site).1.stage.period.states isTold
      rw [hperiod]
      exact Period.swings_mem h hswings
  | statusSync =>
      obtain ⟨hperiod, hswings⟩ := a.actStatusSync_swings site
      show _ ∈ (a.actStatusSync site).1.stage.period.states isTold
      rw [hperiod]
      exact Period.swings_mem h hswings
  | stopper => exact absurd rfl hactor

end Actors

namespace Attended

/-! ## Stop calls and placements -/

/-- Whether the state of the agent fits the stage of its task. -/
def IsFitting (x : Attended) : Prop :=
  x.agent.state ∈ x.agent.stage.period.states x.isTold

section Steps

variable {x : Attended}

theorem isTold_of_getElem? {caller : Nat} {phase : StopPhase}
    (hcall : x.calls[caller]? = some phase) (hphase : phase ≠ .called) : x.isTold = true :=
  List.any_eq_true.2 ⟨phase, List.mem_of_getElem? hcall, decide_eq_true hphase⟩

theorem isTold_set {caller : Nat} {before after : StopPhase} {y : Attended}
    (hcall : x.calls[caller]? = some before) (hafter : after ≠ .called)
    (hcalls : y.calls = x.calls.set caller after) : y.isTold = true := by
  have hlt : caller < x.calls.length := (List.getElem?_eq_some_iff.1 hcall).1
  have hset : y.calls[caller]? = some after := by rw [hcalls, List.getElem?_set_self hlt]
  exact isTold_of_getElem? hset hafter

/-- A later step of a call finds an agent that was told to end, and leaves it so. -/
theorem IsFitting.goOn (h : x.IsFitting) {caller : Nat} {before after : StopPhase} {agent : Agent}
    (hcall : x.calls[caller]? = some before) (hbefore : before ≠ .called) (hafter : after ≠ .called)
    (hfits : x.agent.state ∈ x.agent.stage.period.states true →
      agent.state ∈ agent.stage.period.states true) :
    IsFitting { x with agent, calls := x.calls.set caller after } := by
  rw [IsFitting, isTold_of_getElem? hcall hbefore] at h
  rw [IsFitting, isTold_set hcall hafter rfl]
  exact hfits h

/-- The first step of a stop call moves the agent to `terminating`.  The others leave its state
alone, and the last one may give the task up. -/
theorem IsFitting.proceed (h : x.IsFitting) (caller : Nat) : (x.proceed caller).IsFitting := by
  generalize hy : x.proceed caller = y
  have hstep : x.CallStep caller y := hy ▸ x.proceed_step caller
  cases hstep with
  | rested => exact h
  | told hcall =>
      have htold : (x.tell caller).isTold = true := isTold_set hcall (by decide) rfl
      have hstate : (x.tell caller).agent.state = x.agent.state.moved .terminating :=
        x.agent.move_state x.site .terminating
      rw [IsFitting, htold, hstate]
      exact Period.terminating_mem h
  | cancelled hcall => exact h.goOn hcall (by decide) (by decide) id
  | took hcall hhandle => exact h.goOn hcall (by decide) nofun id
  | refused hcall hhandle => exact h.goOn hcall (by decide) nofun id
  | saw hcall hhandle hstage => exact h.goOn hcall nofun nofun id
  | gaveUp hcall hhandle hlate hstage =>
      refine h.goOn hcall nofun nofun fun hstate => Period.aborted_mem hstate fun hperiod => ?_
      exact hstage (Stage.period_eq_finished.1 hperiod)

theorem IsFitting.happen (h : x.IsFitting) (event : Event) : (x.happen event).IsFitting := by
  cases event with
  | call =>
      have htold : (x.happen .call).isTold = x.isTold := by simp [Attended.happen, isTold]
      rw [IsFitting, htold]
      exact h
  | proceed caller => exact h.proceed caller
  | other move hother =>
      cases move with
      | act actor => exact act_state_mem h (Move.ne_stopper hother)
      | stop => exact absurd hother (by decide)
      | _ => exact h

/-! ### Placements -/

theorem proceed_ledger (x : Attended) (caller : Nat) :
    (x.proceed caller).agent.ledger = x.agent.ledger := by
  generalize hy : x.proceed caller = y
  have hstep : x.CallStep caller y := hy ▸ x.proceed_step caller
  cases hstep <;> rfl

/-- A ledger changes with a submission that finds the agent running, and with a release. -/
theorem happen_ledger (x : Attended) (event : Event) :
    (x.happen event).agent.ledger = x.agent.ledger ∨
    (∃ workload request hother, event = .other (.submit workload request) hother ∧
      x.agent.state.isRunning = true ∧
      (x.happen event).agent.ledger =
        (x.agent.ledger.tryAdmit workload request x.site.wall).2) ∨
    ∃ workload hother, event = .other (.release workload) hother ∧
      (x.happen event).agent.ledger = (x.agent.ledger.release workload).2 := by
  cases event with
  | call => exact .inl rfl
  | proceed caller => exact .inl (x.proceed_ledger caller)
  | other move hother =>
      cases move with
      | act actor =>
          have hactor := Move.ne_stopper hother
          obtain ⟨tracker, stage, reregistration, hact⟩ := x.agent.act_eq x.site actor hactor
          have hledger : (x.agent.act actor x.site).1.ledger = x.agent.ledger := by rw [hact]
          exact .inl hledger
      | submit workload request =>
          cases hrunning : x.agent.state.isRunning with
          | true =>
              refine .inr (.inl ⟨workload, request, hother, rfl, rfl, ?_⟩)
              simp [Attended.happen, Recorded.move, submit, hrunning]
          | false =>
              refine .inl ?_
              simp [Attended.happen, Recorded.move, submit, hrunning]
      | release workload => exact .inr (.inr ⟨workload, hother, rfl, rfl⟩)
      | stop => exact absurd hother (by decide)
      | _ => exact .inl rfl

theorem happen_mem_records (x : Attended) (event : Event) {record : AdmissionRecord}
    (hmem : record ∈ (x.happen event).agent.ledger.records)
    (hnew : record ∉ x.agent.ledger.records) :
    ∃ workload request hother, event = .other (.submit workload request) hother ∧
      record = ⟨workload, request, x.site.wall⟩ ∧ x.agent.state.isRunning = true := by
  rcases x.happen_ledger event with hledger |
    ⟨workload, request, hother, hevent, hrunning, hledger⟩ |
    ⟨workload, hother, hevent, hledger⟩ <;> rw [hledger] at hmem
  · exact absurd hmem hnew
  · have hrecord := (Ledger.mem_records_tryAdmit hmem).resolve_left hnew
    exact ⟨workload, request, hother, hevent, hrecord, hrunning⟩
  · exact absurd (Ledger.mem_records_release hmem) hnew

theorem happen_state (x : Attended) (event : Event) :
    (∃ asked, (x.happen event).agent.state = x.agent.state.follow asked) ∨
      x.agent.state.Swings (x.happen event).agent.state := by
  cases event with
  | call => exact .inl ⟨[], rfl⟩
  | proceed caller =>
      generalize hy : x.happen (.proceed caller) = y
      have hstep : x.CallStep caller y := hy ▸ x.proceed_step caller
      cases hstep with
      | told hcall => exact .inl ⟨[.terminating], x.agent.move_state x.site .terminating⟩
      | _ => exact .inl ⟨[], rfl⟩
  | other move hother =>
      cases move with
      | act actor =>
          cases actor with
          | task =>
              obtain ⟨asked, -, hstate⟩ := x.agent.actTask_asks x.site
              exact .inl ⟨asked, hstate⟩
          | heartbeat => exact .inr (x.agent.actHeartbeat_swings x.site).2
          | statusSync => exact .inr (x.agent.actStatusSync_swings x.site).2
          | stopper => exact absurd hother (by decide)
      | stop => exact absurd hother (by decide)
      | _ => exact .inl ⟨[], rfl⟩

theorem isClosing_happen (h : x.agent.state.IsClosing) (event : Event) :
    (x.happen event).agent.state.IsClosing := by
  rcases x.happen_state event with ⟨asked, hstate⟩ | hswings
  · rw [hstate]
    exact h.follow asked
  · exact h.swings hswings

/-- An agent that is about to end admits nothing any more. -/
theorem records_of_isClosing (h : x.agent.state.IsClosing) (later : List Event)
    {record : AdmissionRecord}
    (hmem : record ∈ (later.foldl Attended.happen x).agent.ledger.records) :
    record ∈ x.agent.ledger.records := by
  induction later generalizing x with
  | nil => exact hmem
  | cons event later ih =>
      -- The state goes on to close, so no submission ever finds the agent running.
      have hkept : record ∈ (x.happen event).agent.ledger.records :=
        ih (isClosing_happen h event) hmem
      by_contra hnew
      obtain ⟨-, -, -, -, -, hrunning⟩ := x.happen_mem_records event hkept hnew
      exact h.isRunning_ne hrunning

end Steps

/-! ## Runs -/

/-- The state of an agent, its task and its ledger are in step. -/
structure InStep (x : Attended) : Prop where
  /-- The state fits the stage of the task. -/
  fits : x.agent.state ∈ x.agent.stage.period.states x.isTold
  /-- The task asks for the moves that belong to the way it goes, and before the agent is told to
  end it gets each of them. -/
  asks : ∃ asked,
    Asks x.agent.stage.period (x.agent.actTask x.site).1.stage.period asked ∧
      (x.agent.actTask x.site).1.state = x.agent.state.follow asked ∧
      (x.isTold = false → x.agent.state.Allows asked ∧
        (x.agent.actTask x.site).1.state = asked.getLastD x.agent.state)
  /-- Only submissions and releases change the ledger. -/
  ledger : ∀ event, (x.happen event).agent.ledger ≠ x.agent.ledger →
    ∃ move hother, event = .other move hother ∧
      ((∃ workload request, move = .submit workload request) ∨ ∃ workload, move = .release workload)
  /-- Only an active or degraded agent makes a record. -/
  admits : ∀ event, ∀ record ∈ (x.happen event).agent.ledger.records,
    record ∉ x.agent.ledger.records →
      (∃ workload request hother, event = .other (.submit workload request) hother ∧
        record = ⟨workload, request, x.site.wall⟩) ∧
      (x.agent.state = .active ∨ x.agent.state = .degraded)
  /-- No record is made once the agent is about to end. -/
  closes : x.agent.state = .terminating ∨ x.agent.state = .stopped →
    ∀ later : List Event, ∀ record ∈ (later.foldl happen x).agent.ledger.records,
      record ∈ x.agent.ledger.records

end Attended

theorem attend_isFitting (setup : AgentSetup) (site : Site) (events : List Attended.Event) :
    (attend setup site events).IsFitting := by
  induction events using List.reverseRecOn with
  | nil => exact List.mem_singleton_self _
  | append_singleton events event ih =>
      rw [attend_concat]
      exact ih.happen event

/-- In every run of an agent with any number of stop calls, whatever the control plane answers, the
state of the agent, the stage of its task and its ledger are in step.  The agent is registering
while its task registers or waits to, active or degraded while its loops run, terminating while it
deregisters and stopped when it has ended, except that from the first step of a stop call it is
terminating until it has ended.  Only placements touch the ledger, and only an agent that is active
or degraded takes on new ones. -/
theorem attend_inStep (setup : AgentSetup) (site : Site) (events : List Attended.Event) :
    (attend setup site events).InStep := by
  have hfits : (attend setup site events).IsFitting := attend_isFitting setup site events
  generalize attend setup site events = x at hfits
  refine ⟨hfits, ?_, ?_, ?_, fun hclosing later record hmem =>
    Attended.records_of_isClosing hclosing later hmem⟩
  · obtain ⟨asked, hasks, hstate⟩ := x.agent.actTask_asks x.site
    refine ⟨asked, hasks, hstate, fun htold => ?_⟩
    rw [Attended.IsFitting, htold] at hfits
    have hallows := hasks.allows hfits
    exact ⟨hallows, hstate.trans hallows.follow_eq⟩
  · intro event hchanged
    rcases x.happen_ledger event with hledger | ⟨workload, request, hother, hevent, -⟩ |
      ⟨workload, hother, hevent, -⟩
    · exact absurd hledger hchanged
    · exact ⟨_, hother, hevent, .inl ⟨workload, request, rfl⟩⟩
    · exact ⟨_, hother, hevent, .inr ⟨workload, rfl⟩⟩
  · intro event record hmem hnew
    obtain ⟨workload, request, hother, hevent, hrecord, hrunning⟩ :=
      x.happen_mem_records event hmem hnew
    exact ⟨⟨workload, request, hother, hevent, hrecord⟩, AgentState.isRunning_iff.1 hrunning⟩

end Agent

end NodeFleet
