import Mathlib.Logic.Function.Basic
import NodeFleet.Proofs.Agent.Lifecycle
import NodeFleet.Proofs.Fleet.Launch

/-!
# What can happen to a fleet

What can happen to a fleet may happen at any time and in any order: it is started, its launcher
and its agents do what is due, time passes, the control plane changes, workloads come and go.
These are the moves of a fleet.  Stop calls and shutdowns are not among them: they take many steps,
and other things come in between.

`Fleet.Step` has all that one move, or one step of a shutdown or a stop call, can do to the fleet;
in most of them one agent does something or has something done to it, and these are the cases of
`Agent.Effect`.  The invariants of a run go by those cases, as `Step.launches` does.
-/

namespace NodeFleet

open Agent (StopPhase)

/-! ## What happens to one agent -/

/-- The call that an admission was to the ledger. -/
def AdmissionDecision.call? (decision : AdmissionDecision) (workload : String)
    (request : ResourceRequest) (now : Timestamp) : Option Ledger.Call :=
  if decision.isAdmitted then some (.submit workload request now) else none

/-- What happens to an agent at a site, but for the control plane and the clock, with the call that
it was to its ledger. -/
inductive Agent.Effect (a : Agent) (site : Site) : Option Ledger.Call → Agent → Site → Prop where
  | acted {actor : Actor} (hactor : actor ≠ .stopper) :
      Effect a site none (a.act actor site).1 (a.act actor site).2
  | submitted (workload : String) (request : ResourceRequest) :
      Effect a site ((a.submit workload request site).1.call? workload request site.wall)
        (a.submit workload request site).2.1 (a.submit workload request site).2.2
  | released (workload : String) :
      Effect a site (some (.release workload)) (a.release workload site).2.1
        (a.release workload site).2.2
  /-- One of its stop calls takes a step. -/
  | proceeded (calls : List StopPhase) (caller : Nat) :
      Effect a site none (Attended.proceed ⟨⟨a, site, []⟩, calls⟩ caller).agent
        (Attended.proceed ⟨⟨a, site, []⟩, calls⟩ caller).site

section Effects

variable {a b : Agent} {site later : Site} {call : Option Ledger.Call}

theorem Agent.Effect.setup_eq (h : a.Effect site call b later) : b.setup = a.setup := by
  cases h with
  | acted hactor => exact (a.act_keeps site _).1
  | submitted workload request => rfl
  | released workload => rfl
  | proceeded calls caller =>
      have hstep := Attended.proceed_step ⟨⟨a, site, []⟩, calls⟩ caller
      generalize Attended.proceed ⟨⟨a, site, []⟩, calls⟩ caller = y at hstep
      cases hstep <;> rfl

theorem Agent.Effect.name_eq (h : a.Effect site call b later) : b.name = a.name :=
  congrArg AgentSetup.name h.setup_eq

/-- A submission that is not admitted leaves the ledger as it was, as if it had not been made. -/
theorem Agent.submit_ledger (a : Agent) (workload : String) (request : ResourceRequest)
    (site : Site) :
    (a.submit workload request site).2.1.ledger =
      ((a.submit workload request site).1.call? workload request site.wall).elim a.ledger
        fun call => (a.ledger.answer call).2 := by
  simp only [submit]
  split_ifs
  · rcases a.ledger.tryAdmit_cases workload request site.wall with
      ⟨record, -, heq⟩ | ⟨d, -, -, heq⟩ | ⟨-, -, heq⟩ <;>
      simp [heq, AdmissionDecision.call?, AdmissionDecision.isAdmitted, Ledger.answer]
  · rfl

theorem Agent.Effect.ledger_eq (h : a.Effect site call b later) :
    b.ledger = call.elim a.ledger fun call => (a.ledger.answer call).2 := by
  cases h with
  | acted hactor => exact (a.act_keeps site _).2.1
  | submitted workload request => exact a.submit_ledger workload request site
  | released workload => rfl
  | proceeded calls caller => exact Attended.proceed_ledger ⟨⟨a, site, []⟩, calls⟩ caller

/-- Nothing that happens to an agent takes time, or declares the fleet ready. -/
theorem Agent.Effect.frame_eq (h : a.Effect site call b later) : later.frame = site.frame := by
  cases h with
  | acted hactor => exact a.frame_act site _
  | submitted workload request => exact a.frame_submit site workload request
  | released workload => exact a.frame_release site workload
  | proceeded calls caller =>
      have hstep := Attended.proceed_step ⟨⟨a, site, []⟩, calls⟩ caller
      generalize Attended.proceed ⟨⟨a, site, []⟩, calls⟩ caller = y at hstep
      cases hstep with
      | told hcall => exact a.frame_move site .terminating
      | _ => rfl

end Effects

namespace Fleet

/-! ## Moves -/

/-- Something that happens to a fleet. -/
inductive Move where
  /-- It is started, with the extra delays that are drawn. -/
  | start (draw : Nat → Duration)
  | launch
  | act (position : Nat) (actor : Actor)
  | wait (instant : Instant)
  /-- The control plane becomes another. -/
  | control (plane : ControlPlane)
  | submit (name workload : String) (request : ResourceRequest)
  | release (name workload : String)

/-- Whether an event is due by now. -/
def isDue (f : Fleet) (event : Cohort.Event) : Bool :=
  (f.cohort.due? event).any (· ≤ f.site.now)

/-- Lets a move happen, if it can. -/
def move (f : Fleet) : Move → Fleet
  | .start draw =>
      match f.offsets? draw, f.start draw with
      | some _, .ok later => later
      | _, _ => f
  | .launch => if f.isDue .launch then { f with cohort := f.cohort.perform .launch } else f
  | .act position actor =>
      if actor ≠ .stopper ∧ f.isDue (.agent position actor) then
        { f with cohort := f.cohort.perform (.agent position actor) }
      else f
  | .wait instant => { f with cohort := f.cohort.advanceTo instant }
  | .control plane =>
      { f with cohort := { f.cohort with site := { f.cohort.site with plane } } }
  | .submit name workload request =>
      match f.submit name workload request with
      | .ok (_, later) => later
      | .error _ => f
  | .release name workload =>
      match f.release name workload with
      | .ok (_, later) => later
      | .error _ => f

/-- The call to a ledger that a submission is, if it is admitted. -/
def admission? (f : Fleet) (name workload : String) (request : ResourceRequest) :
    Option (String × Ledger.Call) :=
  match f.submit name workload request with
  | .ok (decision, _) =>
      (decision.call? workload request f.site.wall).map fun call => (name, call)
  | .error _ => none

/-- The call to a ledger that a release is, if the agent is known. -/
def removal? (f : Fleet) (name workload : String) : Option (String × Ledger.Call) :=
  match f.release name workload with
  | .ok _ => some (name, .release workload)
  | .error _ => none

/-- The call that a move is to the ledger of an agent, with the agent's name. -/
def call? (f : Fleet) : Move → Option (String × Ledger.Call)
  | .submit name workload request => f.admission? name workload request
  | .release name workload => f.removal? name workload
  | _ => none

theorem exists_member_of_agent {f : Fleet} {name : String} {position : Nat} {agent : Agent}
    (h : f.agent name = .ok (position, agent)) :
    ∃ member, f.cohort.members[position]? = some member ∧ member.agent = agent ∧
      agent.name = name := by
  unfold Fleet.agent at h
  split at h
  · rename_i found hfind
    obtain rfl := Except.ok.inj h
    obtain ⟨⟨member, place⟩, hfirst, heq⟩ := Option.map_eq_some_iff.1 hfind
    obtain ⟨rfl, rfl⟩ := Prod.mk.inj heq
    exact ⟨member, List.mem_zipIdx_iff_getElem?.1 (List.mem_of_find?_eq_some hfirst), rfl,
      by simpa using List.find?_some hfirst⟩
  · exact nomatch h

/-! ## What one step does to the fleet -/

/-- What one step can do to a fleet: whether it takes back readiness, and which call it is to the
ledger of an agent. -/
inductive Step (f : Fleet) : Bool → Option (String × Ledger.Call) → Fleet → Prop where
  | rested : Step f false none f
  | started {draw : Nat → Duration} {offsets : List Duration} {later : Fleet}
      (hoffsets : f.offsets? draw = some offsets) (hstart : f.start draw = .ok later) :
      Step f false none later
  | launched {due : Instant} (hdue : f.cohort.launchDue? = some due) (hready : due ≤ f.site.now) :
      Step f false none { f with cohort := f.cohort.perform .launch }
  /-- The clock moves on, the control plane becomes another, or the journal is written. -/
  | shifted {site : Site} (hhealth : site.telemetry.health = f.site.telemetry.health)
      (hnow : f.site.now ≤ site.now) :
      Step f false none { f with cohort := { f.cohort with site } }
  | changed {position : Nat} {member : Member} {call : Option Ledger.Call} {agent : Agent}
      {site : Site} (hmember : f.cohort.members[position]? = some member)
      (heffect : member.agent.Effect f.site call agent site) :
      Step f false (call.map fun call => (member.agent.name, call))
        (f.setAgent position agent site)
  | cancelled : Step f false none { f with cohort := { f.cohort with launchCancelled := true } }
  | released (hcancelled : f.cohort.launchCancelled = true)
      (hfree : (f.holdsLauncher && f.cohort.isLaunching) = false) :
      Step f false none { f with holdsLauncher := false }
  | cleared (hcancelled : f.cohort.launchCancelled = true) :
      Step f true none { f with cohort := { f.cohort with
        site := { f.site with telemetry := f.site.telemetry.setReady false } } }

section Steps

variable {f later : Fleet} {clears : Bool} {call : Option (String × Ledger.Call)}

theorem Step.launches (h : f.Launches) (hstep : Step f clears call later) : later.Launches := by
  cases hstep with
  | rested => exact h
  | started hoffsets hstart => exact (h.start hoffsets hstart).1
  | launched hdue => exact h.launch hdue
  | shifted hhealth => exact h.withSite _
  | changed hmember heffect => exact h.setAgent hmember heffect.name_eq _
  | cancelled => exact h.cancel
  | released hcancelled hfree =>
      refine ⟨h.size_ne, h.profiles_ne, h.named, h.distinct, h.planned, ?_, ?_⟩
      · intro hopen
        exact absurd (hopen.symm.trans hcancelled) Bool.false_ne_true
      · intro _
        cases hholds : f.holdsLauncher with
        | false => exact h.released hholds
        | true => rwa [hholds, Bool.true_and] at hfree
  | cleared hcancelled => exact h.withSite _

theorem Step.config_eq (hstep : Step f clears call later) : later.config = f.config := by
  cases hstep with
  | started hoffsets hstart =>
      unfold Fleet.start at hstart
      split_ifs at hstart
      obtain rfl := Except.ok.inj hstart
      rfl
  | _ => rfl

theorem Step.now_le (hlaunches : f.Launches) (hstep : Step f clears call later) :
    f.site.now ≤ later.site.now := by
  cases hstep with
  | started hoffsets hstart =>
      exact (congrArg Prod.fst (hlaunches.start hoffsets hstart).2.2.2.1).ge
  | launched hdue =>
      have hstep := hlaunches.perform_launch hdue
      generalize f.cohort.perform .launch = c at hstep
      cases hstep with
      | _ => exact Nat.le_refl _
  | shifted hhealth hnow => exact hnow
  | changed hmember heffect => exact (congrArg Prod.fst heffect.frame_eq).ge
  | _ => exact Nat.le_refl _

/-- Once launching is cancelled it stays so. -/
theorem Step.launchCancelled (hstep : Step f clears call later) (hlaunches : f.Launches)
    (h : f.cohort.launchCancelled = true) : later.cohort.launchCancelled = true := by
  cases hstep with
  | started hoffsets hstart =>
      exact (hlaunches.start hoffsets hstart).2.2.1.trans h
  | launched hdue =>
      have hstep := hlaunches.perform_launch hdue
      generalize f.cohort.perform .launch = c at hstep
      cases hstep with
      | _ => exact h
  | cancelled => rfl
  | _ => exact h

/-- A fleet that a shutdown has closed stays closed. -/
theorem Step.closed (hstep : Step f clears call later) (hlaunches : f.Launches) (h : f.Closed) :
    later.Closed := by
  refine ⟨hstep.launchCancelled hlaunches h.cancelled, ?_⟩
  cases hstep with
  | started hoffsets hstart =>
      exact (congrArg Prod.snd (hlaunches.start hoffsets hstart).2.2.2.1).trans h.unready
  | launched hdue =>
      have hnot : f.cohort.launchCancelled ≠ false := by simp [h.cancelled]
      have hstep := hlaunches.perform_launch hdue
      generalize f.cohort.perform .launch = c at hstep
      cases hstep with
      | ended => exact h.unready
      | launched hlauncher hbusy hopen | completed hlauncher hbusy hopen => exact absurd hopen hnot
  | shifted hhealth => exact (congrArg HealthRegistry.declaredReady hhealth).trans h.unready
  | changed hmember heffect => exact (congrArg Prod.snd heffect.frame_eq).trans h.unready
  | cleared => rfl
  | _ => exact h.unready

/-- What a step does to the agents: nothing, or one is launched, or something happens to one.  Only
in the last case the components of the health change. -/
inductive MemberStep (f later : Fleet) : Option (String × Ledger.Call) → Prop where
  | kept (hmembers : later.cohort.members = f.cohort.members)
      (hcomponents : later.site.telemetry.health.components =
        f.site.telemetry.health.components) : MemberStep f later none
  | enlisted {index : Nat} {setup : AgentSetup}
      (hmembers : later.cohort.members = f.cohort.members ++ [{ index, agent := .create setup }])
      (hcomponents : later.site.telemetry.health.components =
        f.site.telemetry.health.components) : MemberStep f later none
  | changed {position : Nat} {member : Member} {call : Option Ledger.Call} {agent : Agent}
      (hmember : f.cohort.members[position]? = some member)
      (heffect : member.agent.Effect f.site call agent later.site)
      (hmembers : later.cohort.members = f.cohort.members.set position { member with agent }) :
      MemberStep f later (call.map fun call => (member.agent.name, call))

theorem Step.memberStep (hlaunches : f.Launches) (hstep : Step f clears call later) :
    MemberStep f later call := by
  cases hstep with
  | rested => exact .kept rfl rfl
  | started hoffsets hstart =>
      unfold Fleet.start at hstart
      split_ifs at hstart
      obtain rfl := Except.ok.inj hstart
      exact .kept rfl rfl
  | launched hdue =>
      have hstep := hlaunches.perform_launch hdue
      generalize f.cohort.perform .launch = c at hstep
      cases hstep with
      | ended hlauncher hbusy hcancelled => exact .kept rfl rfl
      | launched hlauncher hbusy hopen hplan hmore => exact .enlisted rfl rfl
      | completed hlauncher hbusy hopen hplan => exact .enlisted rfl rfl
  | shifted hhealth => exact .kept rfl (congrArg HealthRegistry.components hhealth)
  | @changed position member call agent site hmember heffect =>
      refine .changed hmember heffect ?_
      show (f.cohort.setAgent position agent site).members = _
      rw [Cohort.setAgent_eq hmember]
  | cancelled => exact .kept rfl rfl
  | released hcancelled hfree => exact .kept rfl rfl
  | cleared hcancelled => exact .kept rfl rfl

/-- Where one agent changes and keeps its name, the others are those of other names. -/
theorem eq_or_name_ne_of_mem_set {members : List Member} {position : Nat} {member other : Member}
    {agent : Agent} (hnodup : (members.map fun member => member.agent.name).Nodup)
    (hmember : members[position]? = some member) (hname : agent.name = member.agent.name)
    (hother : other ∈ members.set position { member with agent }) :
    other = { member with agent } ∨ other ∈ members ∧ other.agent.name ≠ member.agent.name := by
  by_cases hown : other.agent.name = member.agent.name
  · have hplace : { member with agent } ∈ members.set position { member with agent } :=
      List.mem_of_getElem? (List.getElem?_set_self (List.getElem?_eq_some_iff.1 hmember).1)
    have hnames : (members.set position { member with agent }).map
        (fun member => member.agent.name) = members.map fun member => member.agent.name :=
      Cohort.map_set_of_eq hmember hname
    exact .inl (List.inj_on_of_nodup_map (hnames ▸ hnodup) hother hplace (hown.trans hname.symm))
  · rcases List.mem_or_eq_of_mem_set hother with hkept | rfl
    · exact .inr ⟨hkept, hown⟩
    · exact absurd hname hown

theorem move_step (f : Fleet) (m : Move) : Step f false (f.call? m) (f.move m) := by
  cases m with
  | start draw =>
      simp only [move]
      split
      · exact .started ‹_› ‹_›
      · exact .rested
  | launch =>
      simp only [move]
      split_ifs with hready
      · obtain ⟨due, hdue, hnow⟩ := (Option.any_eq_true _ _).1 hready
        exact .launched hdue (of_decide_eq_true hnow)
      · exact .rested
  | act position actor =>
      simp only [move]
      split_ifs with hready
      · simp only [Cohort.perform]
        cases hmember : f.cohort.members[position]? with
        | none => exact .rested
        | some member => exact .changed hmember (.acted hready.1)
      · exact .rested
  | wait instant => exact .shifted rfl (Nat.le_max_left _ _)
  | control plane => exact .shifted rfl (Nat.le_refl _)
  | submit name workload request =>
      cases hfound : f.agent name with
      | error error =>
          simp only [move, call?, admission?, Fleet.submit, hfound]
          exact .rested
      | ok found =>
          obtain ⟨position, agent⟩ := found
          obtain ⟨member, hmember, rfl, rfl⟩ := exists_member_of_agent hfound
          simp only [move, call?, admission?, Fleet.submit, hfound]
          exact .changed hmember (.submitted workload request)
  | release name workload =>
      cases hfound : f.agent name with
      | error error =>
          simp only [move, call?, removal?, Fleet.release, hfound]
          exact .rested
      | ok found =>
          obtain ⟨position, agent⟩ := found
          obtain ⟨member, hmember, rfl, rfl⟩ := exists_member_of_agent hfound
          simp only [move, call?, removal?, Fleet.release, hfound]
          exact .changed hmember (.released workload)

end Steps

end Fleet

end NodeFleet
