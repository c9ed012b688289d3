import NodeFleet.Proofs.Agent.Cancellation
import NodeFleet.Proofs.Agent.Lease

/-!
# Agents that leave nothing behind

An agent whose name nobody else uses registers once at most, since it never loses its
identity.  When its task ends it has deregistered that identity, or it had not registered
at all: at every place where a stop call can find it, the stage says what was registered
and deregistered so far, and what the control plane has under its name.  `Leaves` has one
line for each stage, and the steps carry it from stage to stage.

A stop call that returns clean has seen the task end, so it finds the control plane without
a node of the agent.
-/

namespace NodeFleet

/-! ## Calls that are let through -/

namespace Site

variable {site settled : Site} {call : Call} {identity : Identity}

/-- A registration that fails leaves the nodes as they are. -/
theorem settleRegister_nodes {profile : Profile} {error : CallError}
    (hsettle : site.settleRegister call identity profile = (.error error, settled)) :
    settled.plane.nodes = site.plane.nodes := by
  unfold settleRegister settle at hsettle
  split_ifs at hsettle
  · obtain ⟨hresult, rfl⟩ := Prod.mk.inj hsettle
    rcases ControlPlane.complete_cases site.plane .register identity site.now
      (ControlPlane.registering identity profile site.wall) with
      ⟨_, -, hnodes⟩ | ⟨version, _, -, hvalue, -⟩
    · exact hnodes
    · exact nomatch hvalue.symm.trans hresult
  · obtain ⟨-, rfl⟩ := Prod.mk.inj hsettle
    rfl

/-- A deregistration by the holder that is answered and meets no fault removes the node. -/
theorem settleDeregister_ok {node : Node} {result : Except CallError Unit}
    (hanswered : call.isAnswered = true)
    (hfault : (ControlPlane.takeFault .deregister site.plane.faults).1 = none)
    (hfind : site.plane.nodes.find? identity.name = some node) (huid : node.uid = identity.uid)
    (hsettle : site.settleDeregister call identity = (result, settled)) :
    result = .ok () ∧ settled.plane.nodes = site.plane.nodes.erase identity.name := by
  have hderegistering : ControlPlane.deregistering identity site.plane.nodes =
      .ok ((), site.plane.nodes.erase identity.name) :=
    ControlPlane.deregistering_eq_ok_iff.2 ⟨node, hfind, huid, rfl⟩
  have hok : (site.plane.deregister identity site.now).1 = .ok () :=
    (ControlPlane.complete_eq_ok_iff ..).2 ⟨hfault, _, hderegistering⟩
  simp only [settleDeregister, settle, hanswered, if_true] at hsettle
  obtain ⟨rfl, rfl⟩ := Prod.mk.inj hsettle
  refine ⟨hok, ?_⟩
  rcases ControlPlane.complete_cases site.plane .deregister identity site.now
    (ControlPlane.deregistering identity) with ⟨error, herror, -⟩ | ⟨_, nodes, heffect, -, hnodes⟩
  · exact nomatch hok.symm.trans herror
  · obtain rfl : site.plane.nodes.erase identity.name = nodes :=
      congrArg Prod.snd (Except.ok.inj (hderegistering.symm.trans heffect))
    exact hnodes

end Site

namespace Agent

/-! ## What was registered and deregistered -/

/-- The identities for which a deregistration was begun. -/
def departures (history : List Deed) : List Identity :=
  history.filterMap fun
    | .began .deregister identity => some identity
    | _ => none

/-- The identities that were deregistered. -/
def removals (history : List Deed) : List Identity :=
  history.filterMap fun
    | .ended .deregister identity none => some identity
    | _ => none

/-- What was registered and deregistered by the time that the task is in a stage, and whether the
control plane has a node of the name. -/
def Leaves (name : String) (plane : ControlPlane) (history : List Deed) : Stage → Prop
  | .waiting _ _ => False
  | .running loops =>
      registrations history = [loops.identity] ∧ departures history = [] ∧ removals history = []
  | .deregistering identity _ =>
      registrations history = [identity] ∧ departures history = [identity] ∧
        removals history = []
  | .finished =>
      departures history = registrations history ∧ removals history = registrations history ∧
        plane.nodes.find? name = none
  | .aborted => departures history = [] ∨ departures history = registrations history
  | _ =>
      registrations history = [] ∧ departures history = [] ∧ removals history = [] ∧
        plane.nodes.find? name = none

theorem Leaves.abort {name : String} {plane : ControlPlane} {history : List Deed} {stage : Stage}
    (h : Leaves name plane history stage) :
    departures history = [] ∨ departures history = registrations history := by
  cases stage with
  | waiting generation wake => exact h.elim
  | running loops => exact .inl h.2.1
  | deregistering identity call => exact .inr (h.2.1.trans h.1.symm)
  | finished => exact .inr h.1
  | aborted => exact h
  | _ => exact .inl h.2.1

/-- What happens to the control plane matters as long as the name is to be free. -/
theorem Leaves.happen {name : String} {plane later : ControlPlane} {history : List Deed}
    {stage : Stage} (h : Leaves name plane history stage)
    (hfree : plane.nodes.find? name = none → later.nodes.find? name = none) :
    Leaves name later history stage := by
  cases stage with
  | waiting generation wake => exact h.elim
  | running loops => exact h
  | deregistering identity call => exact h
  | aborted => exact h
  | finished => exact ⟨h.1, h.2.1, hfree h.2.2⟩
  | _ => exact ⟨h.1, h.2.1, h.2.2.1, hfree h.2.2.2⟩

theorem Leaves.finish {name : String} {plane : ControlPlane} {history : List Deed} {stage : Stage}
    (h : Leaves name plane history stage)
    (hperiod : stage.period = .created ∨ stage.period = .registering ∨ stage.period = .finished) :
    Leaves name plane history .finished := by
  cases stage with
  | waiting generation wake => exact h.elim
  | finished => exact h
  | running loops => simp [Stage.period] at hperiod
  | deregistering identity call => simp [Stage.period] at hperiod
  | aborted => simp [Stage.period] at hperiod
  | _ =>
      obtain ⟨hregistrations, hdepartures, hremovals, hfree⟩ := h
      exact ⟨hdepartures.trans hregistrations.symm, hremovals.trans hregistrations.symm, hfree⟩

theorem Leaves.departures_of_leaving {name : String} {plane : ControlPlane} {history : List Deed}
    {stage : Stage} (h : Leaves name plane history stage) (hperiod : stage.period = .leaving) :
    departures history = registrations history := by
  cases stage with
  | deregistering identity call => exact h.2.1.trans h.1.symm
  | _ => simp [Stage.period] at hperiod

variable {setup : AgentSetup} {a : Agent} {site : Site} {history : List Deed}

theorem Leaves.departures_of_stays {name : String} {plane : ControlPlane}
    (h : Leaves name plane history a.stage) (hstays : a.Stays) : departures history = [] := by
  unfold Stays at hstays
  cases hstage : a.stage with
  | waiting generation wake => exact (hstage ▸ h : Leaves name plane history (.waiting _ _)).elim
  | deregistering identity call => simp [hstage] at hstays
  | finished => simp [hstage] at hstays
  | aborted => simp [hstage] at hstays
  | _ =>
      rw [hstage] at h
      exact h.2.1

/-- The task comes to its end from an early stage, or by settling its deregistration. -/
theorem period_of_finished {actor : Actor} (hdeed : a.deed? actor site = none)
    (hafter : (a.act actor site).1.stage = .finished) :
    a.stage.period = .created ∨ a.stage.period = .registering ∨ a.stage.period = .finished := by
  have hstep := a.act_step site actor
  generalize a.act actor site = later at hstep hafter
  cases hstep with
  | declined hstage => exact .inl (congrArg Stage.period hstage)
  | quitWaiting hstage | quitRegistering hstage | quitRetrying hstage =>
      exact .inr (.inl (congrArg Stage.period hstage))
  | @settled attempt call =>
      cases hresult : (site.settleRegister call attempt.identity a.setup.profile).1 <;>
        rw [hresult] at hafter <;> exact nomatch hafter
  | left hstage => exact nomatch (deed?_of_deregistering hstage).symm.trans hdeed
  | taskIdle | heartbeatIdle | statusSyncIdle | released =>
      exact .inr (.inr (congrArg Stage.period hafter))
  | _ => exact nomatch hafter

/-- Nobody but the task takes part in a deregistration. -/
theorem task_of_departure {actor : Actor} {identity : Identity} {call : Call}
    (hstage : a.stage = .deregistering identity call) (hdeed : a.deed? actor site ≠ none) :
    actor = .task := by
  cases actor with
  | task => rfl
  | heartbeat =>
      refine absurd (deed?_of_idle ?_ ?_) hdeed
      · simp only [act, actHeartbeat, hstage]
      · simp only [request?, hstage]
  | statusSync =>
      refine absurd (deed?_of_idle ?_ ?_) hdeed
      · simp only [act, actStatusSync, hstage]
      · simp only [request?, hstage]
  | stopper => exact absurd (a.deed?_stopper site) hdeed

/-- A step carries what was registered and deregistered from stage to stage, if a deregistration
that ends is answered and meets no fault. -/
theorem Leaves.step {deed? : Option Deed} {after : View}
    (h : Leaves a.name site.plane history a.stage) (hsecure : Secure (a.view site) history)
    (hturn : Turn a site deed? after)
    (hends : deed? = none → after.stage = .finished →
      a.stage.period = .created ∨ a.stage.period = .registering ∨ a.stage.period = .finished)
    (hdeparts : ∀ identity call, deed? ≠ none → a.stage = .deregistering identity call →
      call.isAnswered = true ∧ (ControlPlane.takeFault .deregister site.plane.faults).1 = none) :
    Leaves a.name after.plane (deed?.toList ++ history) after.stage := by
  have hkept : Kept (a.view site) (attempts history) a.stage := hsecure.kept
  cases hturn with
  | rested => exact h
  | @ended stage hstage =>
      rcases hstage with rfl | rfl
      · exact h.finish (hends rfl rfl)
      · exact h.abort
  | attempted hstage hidentity =>
      rcases hstage with ⟨hstage, -⟩ | ⟨wake, hstage⟩ <;> rw [hstage] at h
      · exact h
      · exact h.elim
  | repeated hstage =>
      rw [hstage] at h
      exact h
  | @granted attempt call version settled renewedAt anchor hstage hsettle =>
      rw [hstage] at h
      obtain ⟨hregistrations, hdepartures, hremovals, -⟩ := h
      exact ⟨congrArg (attempt.identity :: ·) hregistrations, hdepartures, hremovals⟩
  | @refused attempt call error settled wake hstage hsettle =>
      rw [hstage] at h
      obtain ⟨hregistrations, hdepartures, hremovals, hfree⟩ := h
      refine ⟨hregistrations, hdepartures, hremovals, ?_⟩
      exact (congrArg (Table.find? a.name) (Site.settleRegister_nodes hsettle)).trans hfree
  | @joined loops hstage =>
      rw [hstage] at h
      have hidentity : loops.join.identity = loops.identity := by rw [loops.join_eq]
      change _ = [loops.join.identity] ∧ _
      rw [hidentity]
      exact h
  | lost hstage hlost =>
      rw [hstage] at hkept
      obtain ⟨node, hleased⟩ := hkept
      simp [hleased.join_lost] at hlost
  | @leaving loops call hstage =>
      rw [hstage] at h
      exact ⟨h.1, congrArg (loops.identity :: ·) h.2.1, h.2.2⟩
  | @left identity call result settled hstage hsettle =>
      -- The agent still holds the node, so an answered call without a fault removes it.
      obtain ⟨hanswered, hfault⟩ := hdeparts identity call nofun hstage
      rw [hstage] at h hkept
      obtain ⟨hregistrations, hdepartures, hremovals⟩ := h
      obtain ⟨node, hholds⟩ := hkept
      obtain ⟨rfl, hnodes⟩ :=
        Site.settleDeregister_ok hanswered hfault hholds.find?_eq hholds.uid_eq hsettle
      refine ⟨hdepartures.trans hregistrations.symm, ?_, ?_⟩
      · exact (congrArg (identity :: ·) hremovals).trans hregistrations.symm
      · have hidentity : identity.name = a.name := hholds.name_eq
        change settled.plane.nodes.find? a.name = none
        rw [hnodes, Table.find?_erase, if_pos hidentity]
  | heartbeatHalted hstage =>
      rw [hstage] at h
      exact h
  | renewing hstage hslot =>
      rw [hstage] at h
      exact h
  | renewed hstage hslot hsettle =>
      rw [hstage] at h
      exact h
  | statusSyncHalted hstage =>
      rw [hstage] at h
      exact h
  | @ticked loops loop next hstage hslot hidentity =>
      rw [hstage] at h
      cases next.flight <;> exact h
  | published hstage hslot hsettle =>
      rw [hstage] at h
      exact h

/-! ## Runs -/

namespace Attended

/-- Whether a move leaves an agent its identity and its name, and lets it deregister. -/
structure IsSparedBy (x : Attended) (move : Move) : Prop where
  /-- The identity is not lost. -/
  undisturbed : x.toRecorded.IsUndisturbedBy move
  /-- Nobody else registers the name. -/
  free : ∀ caller profile now wall, move = .plane (.register caller profile now wall) →
    caller.name ≠ x.agent.name
  /-- A deregistration is answered in time and meets no fault. -/
  departs : ∀ identity call, move = .act .task → x.agent.stage = .deregistering identity call →
    call.isAnswered = true ∧ (ControlPlane.takeFault .deregister x.site.plane.faults).1 = none

/-- Whether all moves of a run spare the agent. -/
def IsSpared (setup : AgentSetup) (site : Site) (events : List Event) : Prop :=
  ∀ earlier move hother later, events = earlier ++ .other move hother :: later →
    (attend setup site earlier).IsSparedBy move

theorem IsSpared.of_concat {setup : AgentSetup} {site : Site} {events : List Event} {event : Event}
    (h : IsSpared setup site (events ++ [event])) :
    IsSpared setup site events ∧
      ∀ move hother, event = .other move hother → (attend setup site events).IsSparedBy move := by
  refine ⟨fun earlier move hother later heq => ?_, ?_⟩
  · exact h earlier move hother (later ++ [event]) (by simp [heq])
  · rintro move hother rfl
    exact h events move hother [] rfl

/-- What a call knows of the agent by the time that it has come to a phase. -/
def Knows (a : Agent) : StopPhase → Prop
  | .called => True
  | .told => True
  | .cancelled => a.isCancelled = true
  | .waiting _ => a.isCancelled = true
  | .returned _ _ outcome => a.isCancelled = true ∧ (outcome.clean = true → a.stage = .finished)

theorem Knows.mono {a b : Agent} {phase : StopPhase} (h : Knows a phase)
    (hcancelled : a.isCancelled = true → b.isCancelled = true)
    (hfinished : a.stage = .finished → b.stage = .finished) : Knows b phase := by
  cases phase with
  | returned since time outcome => exact ⟨hcancelled h.1, fun hclean => hfinished (h.2 hclean)⟩
  | called => trivial
  | told => trivial
  | _ => exact hcancelled h

/-- What is known of an agent that is spared. -/
structure Departing (setup : AgentSetup) (x : Attended) : Prop where
  coherent : Coherent setup (x.agent.view x.site) x.history
  secure : Secure (x.agent.view x.site) x.history
  leaves : Leaves x.agent.name x.site.plane x.history x.agent.stage
  stays : x.agent.isCancelled = false → x.agent.Stays
  knows : ∀ phase ∈ x.calls, Knows x.agent phase

variable {setup : AgentSetup} {x : Attended}

/-- A step of a call is silent, and touches no more than the stage. -/
theorem proceed_turn (x : Attended) (caller : Nat) :
    Turn x.agent x.site none ((x.proceed caller).agent.view (x.proceed caller).site) ∧
      (x.proceed caller).history = x.history := by
  generalize hy : x.proceed caller = y
  have hstep : x.CallStep caller y := hy ▸ x.proceed_step caller
  cases hstep with
  | told hcall =>
      refine ⟨?_, rfl⟩
      have hview : (x.tell caller).agent.view (x.tell caller).site = x.agent.view x.site :=
        x.agent.view_move x.site .terminating
      rw [hview]
      exact .rested
  | gaveUp hcall hhandle hlate hstage => exact ⟨.ended (.inr rfl), rfl⟩
  | _ => exact ⟨.rested, rfl⟩

/-- What a step does that leaves the calls alone. -/
theorem Departing.act (h : Departing setup x) {actor : Actor} (hactor : actor ≠ .stopper)
    (hspared : x.IsSparedBy (.act actor))
    (hother : Move.isStop (.act actor) = false) :
    Departing setup (x.happen (.other (.act actor) hother)) := by
  let y := x.happen (.other (.act actor) hother)
  obtain ⟨tracker, stage, reregistration, hact⟩ := x.agent.act_eq x.site actor hactor
  have hsecure : Secure (y.agent.view y.site) y.history :=
    h.secure.move h.coherent hspared.undisturbed
  have hname : y.agent.name = x.agent.name := by
    change (x.agent.act actor x.site).1.name = x.agent.name
    rw [hact]
    rfl
  have hcancelled : y.agent.isCancelled = x.agent.isCancelled := by
    change (x.agent.act actor x.site).1.isCancelled = x.agent.isCancelled
    rw [hact]
  refine ⟨h.coherent.move (.act actor), hsecure, ?_, ?_, fun phase hmem => ?_⟩
  · change Leaves y.agent.name _ _ _
    rw [hname]
    refine h.leaves.step h.secure (x.agent.act_turn x.site actor) (fun hdeed hafter =>
      period_of_finished hdeed hafter) fun identity call hdeed hstage => ?_
    obtain rfl : actor = .task := task_of_departure hstage hdeed
    exact hspared.departs identity call rfl hstage
  · intro hkept
    -- The identity is not lost, so neither loop has a loss to report before or after the step.
    have hbefore : x.agent.isCancelled = false := hcancelled.symm.trans hkept
    refine (h.stays hbefore).act hbefore (fun loops hstage => ?_) hactor fun loops hstage => ?_
    · have hleased : Agent.Kept (x.agent.view x.site) (attempts x.history) x.agent.stage :=
        h.secure.kept
      rw [hstage] at hleased
      exact hleased.choose_spec.lost_eq
    · have hleased : Agent.Kept (y.agent.view y.site) (attempts y.history) y.agent.stage :=
        hsecure.kept
      have hstage' : y.agent.stage = .running loops := hstage
      rw [hstage'] at hleased
      exact ⟨hleased.choose_spec.heartbeat_loss, hleased.choose_spec.statusSync_loss⟩
  · exact (h.knows phase hmem).mono hcancelled.trans (act_finished hactor)

/-- Moves that are no steps of an actor leave the agent's task where it is. -/
theorem Departing.move (h : Departing setup x) {move : Move} (hother : move.isStop = false)
    (hspared : x.IsSparedBy move) : Departing setup (x.happen (.other move hother)) := by
  have hcoherent := h.coherent.move move
  have hsecure := h.secure.move h.coherent hspared.undisturbed
  cases move with
  | act actor =>
      have hactor := Move.ne_stopper hother
      exact h.act hactor hspared hother
  | stop => exact absurd hother (by decide)
  | submit workload request =>
      exact ⟨hcoherent, hsecure, h.leaves, h.stays, h.knows⟩
  | release workload =>
      have hplane : (x.agent.release workload x.site).2.2.plane = x.site.plane :=
        congrArg View.plane (x.agent.view_release x.site workload)
      refine ⟨hcoherent, hsecure, ?_, h.stays, h.knows⟩
      change Leaves x.agent.name (x.agent.release workload x.site).2.2.plane x.history x.agent.stage
      rw [hplane]
      exact h.leaves
  | wait instant => exact ⟨hcoherent, hsecure, h.leaves, h.stays, h.knows⟩
  | plane event =>
      refine ⟨hcoherent, hsecure, ?_, h.stays, h.knows⟩
      refine h.leaves.happen fun hfree => ControlPlane.happen_find?_none hfree ?_
      rintro caller profile now wall rfl
      exact hspared.free caller profile now wall rfl
  | control plane => exact hspared.undisturbed.elim
  | draw count => exact ⟨hcoherent, hsecure, h.leaves, h.stays, h.knows⟩

/-- A call that goes on knows what it has come to, and the others know what they knew. -/
theorem Departing.knows_set (h : Departing setup x) {agent : Agent} {caller : Nat}
    {after : StopPhase} (hcancelled : x.agent.isCancelled = true → agent.isCancelled = true)
    (hfinished : x.agent.stage = .finished → agent.stage = .finished)
    (hafter : Knows agent after) : ∀ phase ∈ x.calls.set caller after, Knows agent phase := by
  intro phase hmem
  rcases List.mem_or_eq_of_mem_set hmem with hbefore | rfl
  · exact (h.knows phase hbefore).mono hcancelled hfinished
  · exact hafter

theorem Departing.knows_at (h : Departing setup x) {caller : Nat} {phase : StopPhase}
    (hcall : x.calls[caller]? = some phase) : Knows x.agent phase :=
  h.knows phase (List.mem_of_getElem? hcall)

theorem Departing.proceed (h : Departing setup x) (hfitting : x.IsFitting) (caller : Nat) :
    Departing setup (x.happen (.proceed caller)) := by
  obtain ⟨hturn, hhistory⟩ := x.proceed_turn caller
  have hcoherent := h.coherent.step hturn
  have hsecure := h.secure.step h.coherent hturn
  rw [Option.toList_none, List.nil_append, ← hhistory] at hcoherent hsecure
  have hstep := x.proceed_step caller
  change Departing setup (x.proceed caller)
  generalize x.proceed caller = y at hcoherent hsecure hstep
  cases hstep with
  | rested => exact h
  | told hcall => exact ⟨hcoherent, hsecure, h.leaves, h.stays, h.knows_set id id trivial⟩
  | cancelled hcall =>
      exact ⟨hcoherent, hsecure, h.leaves, fun hkept => absurd hkept.symm Bool.false_ne_true,
        h.knows_set (fun _ => rfl) id rfl⟩
  | took hcall hhandle =>
      have hcancelled : x.agent.isCancelled = true := h.knows_at hcall
      exact ⟨hcoherent, hsecure, h.leaves, h.stays, h.knows_set id id hcancelled⟩
  | refused hcall hhandle =>
      have hcancelled : x.agent.isCancelled = true := h.knows_at hcall
      refine ⟨hcoherent, hsecure, h.leaves, h.stays, h.knows_set id id ⟨hcancelled, ?_⟩⟩
      -- The call is answered by what it sees, and only an agent that has ended is stopped.
      intro hclean
      have hstopped : x.agent.state = .stopped := of_decide_eq_true hclean
      rw [IsFitting, hstopped] at hfitting
      exact Stage.period_eq_finished.1 (Period.eq_finished_of_stopped hfitting)
  | saw hcall hhandle hstage =>
      have hcancelled : x.agent.isCancelled = true := h.knows_at hcall
      exact ⟨hcoherent, hsecure, h.leaves, h.stays,
        h.knows_set id id ⟨hcancelled, fun _ => hstage⟩⟩
  | gaveUp hcall hhandle hlate hstage =>
      have hcancelled : x.agent.isCancelled = true := h.knows_at hcall
      refine ⟨hcoherent, hsecure, h.leaves.abort, fun hkept => ?_,
        h.knows_set id (absurd · hstage) ⟨hcancelled, (absurd · Bool.false_ne_true)⟩⟩
      exact absurd (hcancelled.symm.trans hkept) (by decide)

theorem attend_departing {setup : AgentSetup} {site : Site} {events : List Event}
    (hplane : site.plane.IsHarmless) (hfree : site.plane.nodes.find? setup.name = none)
    (hspared : IsSpared setup site events) : Departing setup (attend setup site events) := by
  induction events using List.reverseRecOn with
  | nil =>
      exact ⟨create_coherent setup site, ⟨hplane, nofun, trivial⟩, ⟨rfl, rfl, rfl, hfree⟩,
        fun _ => trivial, nofun⟩
  | append_singleton events event ih =>
      -- What spares the agent is asked of every prefix of the run, so the last event is spared too.
      obtain ⟨hbefore, hlast⟩ := hspared.of_concat
      have hdeparting := ih hbefore
      rw [attend_concat]
      cases event with
      | other move hother => exact hdeparting.move hother (hlast move hother rfl)
      | proceed caller => exact hdeparting.proceed (attend_isFitting setup site events) caller
      | call =>
          refine ⟨hdeparting.coherent, hdeparting.secure, hdeparting.leaves, hdeparting.stays, ?_⟩
          intro phase hmem
          rcases List.mem_append.1 hmem with hcall | hnew
          · exact hdeparting.knows phase hcall
          · rw [List.mem_singleton.1 hnew]
            trivial

end Attended

/-- Whether no part of the agent has anything to do before or at an instant. -/
def IsIdle (a : Agent) (now : Instant) : Prop :=
  ∀ actor, actor ≠ .stopper → ∀ due, a.due? actor = some due → now < due

/-- An agent that was told to end is not idle before it deregisters. -/
theorem IsIdle.period {now : Instant} (h : a.IsIdle now) (hcancelled : a.isCancelled = true) :
    a.stage.period = .leaving ∨ a.stage.period = .finished ∨ a.stage.period = .aborted := by
  have hdue (actor : Actor) (hactor : actor ≠ .stopper) : a.due? actor ≠ some 0 :=
    fun hzero => Nat.not_lt_zero now (h actor hactor 0 hzero)
  have htask : a.taskDue? ≠ some 0 := hdue .task (by decide)
  cases hstage : a.stage with
  | created => simp [taskDue?, hstage] at htask
  | waiting generation wake => simp [taskDue?, hstage, unlessCancelled, hcancelled] at htask
  | registering attempt call => simp [taskDue?, hstage, unlessCancelled, hcancelled] at htask
  | retrying attempt wake => simp [taskDue?, hstage, unlessCancelled, hcancelled] at htask
  | running loops =>
      obtain ⟨identity, anchor, heartbeat, statusSync, lost⟩ := loops
      -- A loop that runs is due, and so is the task if none does.
      have hheartbeat := hdue .heartbeat (by decide)
      have hstatus := hdue .statusSync (by decide)
      rcases heartbeat with loop | exit | _
      · simp [due?, hstage, hcancelled] at hheartbeat
      · simp [taskDue?, hstage, LoopSlot.isReturned] at htask
      · rcases statusSync with loop | exit | _
        · simp [due?, hstage, hcancelled] at hstatus
        · simp [taskDue?, hstage, LoopSlot.isReturned] at htask
        · simp [taskDue?, hstage, LoopSlot.isReturned, LoopSlot.isJoined] at htask
  | deregistering identity call => exact .inl rfl
  | finished => exact .inr (.inl rfl)
  | aborted => exact .inr (.inr rfl)

/-- A clean stop leaves nothing behind.  Take any run of an agent that is not disturbed, that has
its name for itself and whose deregistration is answered and meets no fault, with any number of
stop calls at any time.  When a call has returned clean, the control plane has no node of the agent, and
the agent has deregistered what it had registered, which is one identity at most.  From the moment
at which the agent is told to end, all that it does and all that reaches the control plane is this
deregistration; it is made once, and only if a registration had succeeded. -/
theorem clean_stop_leaves_nothing (setup : AgentSetup) (site : Site)
    (events : List Attended.Event) (hplane : site.plane.IsHarmless)
    (hfree : site.plane.nodes.find? setup.name = none)
    (hspared : Attended.IsSpared setup site events) :
    let x := attend setup site events
    (∀ since time outcome, .returned since time outcome ∈ x.calls → outcome.clean = true →
      x.site.plane.nodes.find? setup.name = none ∧
        departures x.history = registrations x.history ∧
        removals x.history = registrations x.history) ∧
      (registrations x.history).length ≤ 1 ∧
      (departures x.history = [] ∨ departures x.history = registrations x.history) ∧
      (x.agent.isCancelled = false → departures x.history = []) ∧
      (x.agent.isCancelled = true →
        (x.agent.IsIdle x.site.now → x.agent.stage ≠ .aborted →
          departures x.history = registrations x.history) ∧
        (∀ later : List Attended.Event, ∃ deeds,
          (later.foldl Attended.happen x).history = deeds ++ x.history ∧
            ∀ deed ∈ deeds, deed.IsDeparture) ∧
        ∀ actor, (x.agent.act actor x.site).2.plane ≠ x.site.plane →
          ∃ identity failure,
            x.agent.deed? actor x.site = some (.ended .deregister identity failure)) := by
  intro x
  have h : Attended.Departing setup x := Attended.attend_departing hplane hfree hspared
  have hname : x.agent.name = setup.name := congrArg AgentSetup.name h.coherent.setup_eq
  obtain ⟨identity, honly⟩ := h.coherent.disciplined.exists_onlyIdentity h.secure.harmless
  refine ⟨?_, honly.registrations_le, h.leaves.abort, ?_, fun hcancelled => ⟨?_, ?_, ?_⟩⟩
  · intro since time outcome hmem hclean
    have hfinished : x.agent.stage = .finished := (h.knows _ hmem).2 hclean
    have hleaves := h.leaves
    rw [hfinished, hname] at hleaves
    obtain ⟨hdepartures, hremovals, hnone⟩ := hleaves
    exact ⟨hnone, hdepartures, hremovals⟩
  · intro hkept
    exact h.leaves.departures_of_stays (h.stays hkept)
  · intro hidle hstage
    rcases hidle.period hcancelled with hleaving | hfinished | haborted
    · exact h.leaves.departures_of_leaving hleaving
    · exact (h.leaves.finish (.inr (.inr hfinished))).1
    · exact absurd (Stage.period_eq_aborted.1 haborted) hstage
  · exact fun later => Attended.history_of_isCancelled hcancelled later
  · intro actor hchanged
    by_contra hnone
    refine hchanged (plane_of_forall_ne_ended fun operation identity failure hdeed => hnone ?_)
    obtain rfl : operation = .deregister := deed?_of_isCancelled hcancelled hdeed
    exact ⟨identity, failure, hdeed⟩

/-- Whether a deregistration that is in flight is answered in time and meets no fault. -/
def Attended.isLetThrough (x : Attended) : Bool :=
  match x.agent.stage with
  | .deregistering _ call =>
      call.isAnswered && (ControlPlane.takeFault .deregister x.site.plane.faults).1.isNone
  | _ => true

/-- A stop call that comes while a publication is in flight: the publication is dropped. -/
theorem clean_stop_during_publication :
    let profile : Profile := ⟨1000, 1000, 0, 0, 10, ⟨0, 24⟩⟩
    let setup : AgentSetup := ⟨"node", profile, 10, ⟨10, 60, 1⟩, ⟨3, 1, 8, 5⟩, 30⟩
    let site : Site := .create (.empty 0) ⟨0, 0⟩
    let events : List Attended.Event :=
      [.other (.act .task) rfl, .other (.act .task) rfl, .other (.act .statusSync) rfl,
        .call, .proceed 0, .proceed 0, .proceed 0, .other (.act .heartbeat) rfl,
        .other (.act .statusSync) rfl, .other (.act .task) rfl, .other (.act .task) rfl, .proceed 0]
    let identity : Identity := ⟨"node", Site.uid 0, 0⟩
    let x := attend setup site events
    site.plane.IsHarmless ∧ site.plane.nodes.find? setup.name = none ∧
      Attended.IsSpared setup site events ∧
      x.calls = [.returned (some 0) 0 ⟨"node", true, .stopped⟩] ∧
      registrations x.history = [identity] ∧ departures x.history = [identity] ∧
      removals x.history = [identity] ∧ x.site.plane.nodes.find? "node" = none := by
  intro profile setup site events identity
  have hplane : site.plane.IsHarmless := fun _ hfault => absurd hfault List.not_mem_nil
  have hfree : site.plane.nodes.find? setup.name = none := rfl
  have hthrough : ∀ earlier ∈ events.inits,
      (attend setup site earlier).isLetThrough = true := by
    decide +kernel
  have hspared : Attended.IsSpared setup site events := by
    intro earlier move hother later heq
    have hmem : Attended.Event.other move hother ∈ events := by simp [heq]
    obtain ⟨actor, rfl⟩ : ∃ actor, move = .act actor := by
      simp only [events, List.mem_cons, reduceCtorEq, List.not_mem_nil, or_false, false_or] at hmem
      rcases hmem with h | h | h | h | h | h | h <;> cases h <;> exact ⟨_, rfl⟩
    refine ⟨trivial, by simp, fun held call hmove hstage => ?_⟩
    have hlet := hthrough earlier ((List.mem_inits _ _).2 ⟨_, heq.symm⟩)
    simp only [Attended.isLetThrough, hstage, Bool.and_eq_true, Option.isNone_iff_eq_none] at hlet
    exact hlet
  have hcalls : (attend setup site events).calls =
      [.returned (some 0) 0 ⟨"node", true, .stopped⟩] := by
    decide +kernel
  have hregistered : registrations (attend setup site events).history = [identity] := by
    decide +kernel
  obtain ⟨hclean, -⟩ := clean_stop_leaves_nothing setup site events hplane hfree hspared
  obtain ⟨hnone, hdepartures, hremovals⟩ :=
    hclean (some 0) 0 ⟨"node", true, .stopped⟩ (by rw [hcalls]; exact List.mem_singleton_self _) rfl
  exact ⟨hplane, hfree, hspared, hcalls, hregistered, hdepartures.trans hregistered,
    hremovals.trans hregistered, hnone⟩

end Agent

end NodeFleet
