import NodeFleet.Proofs.Agent.Health
import NodeFleet.Proofs.Fleet.Calls
import NodeFleet.Proofs.Fleet.Offsets
import NodeFleet.Proofs.Health.Overall

/-!
# The readiness of a fleet

Two things make a fleet ready.  One is a flag, set by the launcher and taken back by shutdowns:
`Flagged` says what the flag tells of the launch.  The launcher sets it as it launches the last
agent, and when it may not launch any more it does not set it; so a shutdown that takes it
back, having cancelled the launch and waited for the launcher, does so for good.

The other is the health.  Each component is one of a launched agent, and mirrors the state of
that agent: `Mirrored`.  An agent without a component has not taken its first step yet.
-/

namespace NodeFleet

open Tracker (Discloses)

theorem Agent.Effect.discloses {a b : Agent} {site later : Site} {call : Option Ledger.Call}
    (h : a.Effect site call b later) :
    Discloses (Agent.shownAt (a, site)) (Agent.shownAt (b, later)) := by
  cases h with
  | acted hactor => exact a.act_discloses site _
  | submitted workload request => exact a.submit_discloses site workload request
  | released workload => exact a.release_discloses site workload
  | proceeded calls caller => exact Attended.proceed_discloses ⟨⟨a, site, []⟩, calls⟩ caller

namespace Fleet

variable {config : FleetConfig} {f later : Fleet}

/-! ## The whole plan -/

/-- The plan is the schedule, with the setup of each agent. -/
theorem map_launchPlan {offsets : List Duration} (hlength : offsets.length = f.profiles.length) :
    (f.launchPlan offsets).map (fun entry => (entry.1, entry.2.1)) = launchSchedule offsets := by
  have hprofile : ∀ entry ∈ launchSchedule offsets, (((f.profiles[entry.2]?).map fun profile =>
      (entry.1, entry.2, f.config.setupFor entry.2 profile)).map fun entry =>
        (entry.1, entry.2.1)) = some entry := by
    rintro ⟨offset, index⟩ hentry
    have hoffset := getElem?_of_mem_launchSchedule hentry
    have hlt : index < f.profiles.length := hlength ▸ (List.getElem?_eq_some_iff.1 hoffset).1
    simp [hlt]
  show ((launchSchedule offsets).filterMap fun entry => (f.profiles[entry.2]?).map fun profile =>
    (entry.1, entry.2, f.config.setupFor entry.2 profile)).map _ = _
  rw [List.map_filterMap, List.filterMap_congr hprofile, List.filterMap_some]

/-- With a profile for each of them, the plan has every agent of the offsets once. -/
theorem launchPlan_perm {offsets : List Duration} (hlength : offsets.length = f.profiles.length) :
    ((f.launchPlan offsets).map fun entry => entry.2.1).Perm (List.range offsets.length) := by
  have hperm : (launchSchedule offsets).Perm offsets.zipIdx := List.mergeSort_perm _ _
  have hnumbers : (f.launchPlan offsets).map (fun entry => entry.2.1) =
      (launchSchedule offsets).map Prod.snd := by
    rw [← map_launchPlan hlength, List.map_map]
    rfl
  rw [hnumbers, List.range_eq_range', ← List.zipIdx_map_snd 0 offsets]
  exact hperm.map _

/-! ## The flag -/

/-- Whether the fleet was declared ready, and that was not taken back. -/
def isDeclared (f : Fleet) : Bool := f.site.telemetry.health.declaredReady

/-- Every agent of the configuration is launched, each once. -/
def IsLaunched (f : Fleet) : Prop := f.numbers.Perm (List.range f.config.fleetSize)

/-- What the flag tells of the launch, by whether a shutdown has taken back readiness. -/
structure Flagged (f : Fleet) (isCleared : Bool) : Prop where
  profiles : f.profiles.length = f.config.fleetSize
  /-- Before launching is cancelled, what is planned and what is launched make up the fleet. -/
  planned : f.cohort.launchCancelled = false →
    match f.cohort.launcher with
    | none => f.isDeclared = false
    | some launcher =>
        (f.numbers ++ launcher.pending.map fun entry => entry.2.1).Perm
            (List.range f.config.fleetSize) ∧
          (f.isDeclared = true ↔ launcher.pending = [])
  cleared : isCleared = true → f.cohort.launchCancelled = true ∧ f.isDeclared = false
  uncleared : isCleared = false → (f.isDeclared = true ↔ f.IsLaunched)

variable {isCleared clears : Bool} {call : Option (String × Ledger.Call)}

/-- The part of a fleet that the flag is about. -/
structure SameLaunch (f later : Fleet) : Prop where
  config_eq : later.config = f.config
  profiles_eq : later.profiles = f.profiles
  numbers_eq : later.numbers = f.numbers
  launcher_eq : later.cohort.launcher = f.cohort.launcher
  declared_eq : later.isDeclared = f.isDeclared

theorem SameLaunch.isLaunched_iff (h : SameLaunch f later) : later.IsLaunched ↔ f.IsLaunched := by
  rw [IsLaunched, h.numbers_eq, h.config_eq, IsLaunched]

/-- The launch does not change, and is cancelled at most. -/
theorem Flagged.keep (h : f.Flagged isCleared) (hsame : SameLaunch f later)
    (hcancelled : f.cohort.launchCancelled = true → later.cohort.launchCancelled = true) :
    later.Flagged isCleared := by
  refine ⟨?_, fun hopen => ?_, fun hcleared => ?_, fun huncleared => ?_⟩
  · rw [hsame.profiles_eq, h.profiles, hsame.config_eq]
  · have hbefore : f.cohort.launchCancelled = false := by
      cases hwas : f.cohort.launchCancelled with
      | false => rfl
      | true => rw [hcancelled hwas] at hopen; exact nomatch hopen
    rw [hsame.launcher_eq, hsame.numbers_eq, hsame.config_eq, hsame.declared_eq]
    exact h.planned hbefore
  · rw [hsame.declared_eq]
    exact (h.cleared hcleared).imp_left hcancelled
  · rw [hsame.declared_eq, hsame.isLaunched_iff]
    exact h.uncleared huncleared

/-- While the launcher goes on, the flag is set exactly if nothing is planned any more. -/
theorem Flagged.of_planned {launcher : Launcher}
    (hprofiles : f.profiles.length = f.config.fleetSize)
    (hlauncher : f.cohort.launcher = some launcher)
    (hperm : (f.numbers ++ launcher.pending.map fun entry => entry.2.1).Perm
      (List.range f.config.fleetSize))
    (hdeclared : f.isDeclared = true ↔ launcher.pending = []) : f.Flagged false := by
  refine ⟨hprofiles, fun _ => ?_, nofun, fun _ => hdeclared.trans ⟨fun hnil => ?_, fun hall => ?_⟩⟩
  · rw [hlauncher]
    exact ⟨hperm, hdeclared⟩
  · rw [hnil, List.map_nil, List.append_nil] at hperm
    exact hperm
  · have hcount := hperm.length_eq.trans hall.length_eq.symm
    rw [List.length_append, List.length_map] at hcount
    exact List.length_eq_zero_iff.1 (by omega)

/-- A launcher that is at work on a fleet whose readiness was not taken back. -/
theorem Flagged.uncleared_of_open (h : f.Flagged isCleared)
    (hopen : f.cohort.launchCancelled = false) : isCleared = false := by
  cases hcleared : isCleared with
  | false => rfl
  | true => rw [(h.cleared hcleared).1] at hopen; exact nomatch hopen

theorem Flagged.start (h : f.Flagged isCleared) (hlaunches : f.Launches) {draw : Nat → Duration}
    {offsets : List Duration} (hoffsets : f.offsets? draw = some offsets)
    (hstart : f.start draw = .ok later) : later.Flagged isCleared := by
  unfold Fleet.start at hstart
  split_ifs at hstart with hholds
  have hlater : f.beginLaunch offsets = later := by
    rw [offsets?] at hoffsets
    simp only [hoffsets, Option.getD_some] at hstart
    exact Except.ok.inj hstart
  subst hlater
  cases hcancelled : f.cohort.launchCancelled with
  | true =>
      refine ⟨h.profiles, fun hopen => ?_, h.cleared, h.uncleared⟩
      exact absurd (hopen.symm.trans hcancelled) Bool.false_ne_true
  | false =>
      -- No launcher is held, so there was none, and nothing is launched yet.
      have hpending := hlaunches.pending hcancelled
      have hplanned := h.planned hcancelled
      cases hlauncher : f.cohort.launcher with
      | some launcher =>
          simp only [hlauncher] at hpending
          exact absurd hpending.1 hholds
      | none =>
          simp only [hlauncher] at hpending hplanned
          obtain rfl := h.uncleared_of_open hcancelled
          have hlength : offsets.length = f.config.fleetSize := by
            have hall := congrArg List.length (mapM_eq_some_iff.1 hoffsets)
            simpa using hall.symm
          have hplan := f.launchPlan_perm (hlength.trans h.profiles.symm)
          refine .of_planned h.profiles rfl ?_ ?_
          · show (f.numbers ++ _).Perm _
            rw [numbers, hpending, List.map_nil, List.nil_append]
            rwa [hlength] at hplan
          · have hne := launchPlan_ne_nil hlaunches.profiles_ne
              (offsets_ne_nil hlaunches.size_ne hoffsets)
            constructor
            · intro hdeclared
              exact absurd (hdeclared.symm.trans hplanned) Bool.true_eq_false.mp
            · intro hnil
              exact absurd hnil hne

theorem Flagged.launch (h : f.Flagged isCleared) (hlaunches : f.Launches) {due : Instant}
    (hdue : f.cohort.launchDue? = some due) :
    Flagged { f with cohort := f.cohort.perform .launch } isCleared := by
  have hstep := hlaunches.perform_launch hdue
  generalize f.cohort.perform .launch = c at hstep
  -- The agent that is launched comes from the plan.
  have hmoved {launcher : Launcher} {offset : Duration} {index : Nat} {setup : AgentSetup}
      {pending : List (Duration × Nat × AgentSetup)}
      (hlauncher : f.cohort.launcher = some launcher)
      (hopen : f.cohort.launchCancelled = false)
      (hplan : launcher.pending = (offset, index, setup) :: pending) :
      ((f.cohort.members ++ [Member.mk index (.create setup)]).map Member.index ++
          pending.map fun entry => entry.2.1).Perm (List.range f.config.fleetSize) ∧
        f.isDeclared = false := by
    have hplanned := h.planned hopen
    simp only [hlauncher, hplan, List.map_cons] at hplanned
    obtain ⟨hperm, hdeclared⟩ := hplanned
    refine ⟨by rwa [List.map_append, List.append_assoc], ?_⟩
    cases hwas : f.isDeclared with
    | false => rfl
    | true => exact absurd (hdeclared.1 hwas) (List.cons_ne_nil _ _)
  cases hstep with
  | ended hlauncher hbusy hcancelled =>
      refine ⟨h.profiles, fun hopen => ?_, h.cleared, h.uncleared⟩
      exact absurd (hopen.symm.trans hcancelled) Bool.false_ne_true
  | launched hlauncher hbusy hopen hplan hmore =>
      obtain rfl := h.uncleared_of_open hopen
      obtain ⟨hperm, hundeclared⟩ := hmoved hlauncher hopen hplan
      refine .of_planned h.profiles rfl hperm ?_
      constructor
      · intro hdeclared
        exact absurd (hundeclared.symm.trans hdeclared) Bool.false_ne_true
      · intro hnil
        exact absurd hnil hmore
  | completed hlauncher hbusy hopen hplan =>
      obtain rfl := h.uncleared_of_open hopen
      obtain ⟨hperm, -⟩ := hmoved hlauncher hopen hplan
      exact .of_planned h.profiles rfl hperm (iff_of_true rfl rfl)

theorem setAgent_numbers {position : Nat} {member : Member}
    (hmember : f.cohort.members[position]? = some member) (agent : Agent) (site : Site) :
    (f.setAgent position agent site).numbers = f.numbers := by
  rw [numbers, setAgent, Cohort.setAgent_eq hmember]
  exact Cohort.map_set_of_eq hmember rfl

theorem Flagged.step (h : f.Flagged isCleared) (hlaunches : f.Launches)
    (hstep : Step f clears call later) : later.Flagged (isCleared || clears) := by
  have hsame {site : Site} (hhealth : site.telemetry.health.declaredReady = f.isDeclared) :
      SameLaunch f { f with cohort := { f.cohort with site } } := ⟨rfl, rfl, rfl, rfl, hhealth⟩
  cases hstep with
  | cleared hcancelled =>
      rw [Bool.or_true]
      refine ⟨h.profiles, fun hopen => ?_, fun _ => ⟨hcancelled, rfl⟩, nofun⟩
      exact absurd (hopen.symm.trans hcancelled) Bool.false_ne_true
  | rested => rwa [Bool.or_false]
  | started hoffsets hstart =>
      rw [Bool.or_false]
      exact h.start hlaunches hoffsets hstart
  | launched hdue =>
      rw [Bool.or_false]
      exact h.launch hlaunches hdue
  | shifted hhealth =>
      rw [Bool.or_false]
      exact h.keep (hsame (by rw [hhealth]; rfl)) id
  | @changed position member call agent site hmember heffect =>
      rw [Bool.or_false]
      have hdeclared : site.telemetry.health.declaredReady = f.isDeclared :=
        heffect.discloses.declared
      refine h.keep ⟨rfl, rfl, setAgent_numbers hmember agent site, rfl, hdeclared⟩ id
  | cancelled =>
      rw [Bool.or_false]
      exact h.keep ⟨rfl, rfl, rfl, rfl, rfl⟩ fun _ => rfl
  | released hcancelled hfree =>
      rw [Bool.or_false]
      exact h.keep ⟨rfl, rfl, rfl, rfl, rfl⟩ id

/-! ## The components -/

/-- What the health shows of the launched agents. -/
structure Mirrored (f : Fleet) : Prop where
  sorted : f.site.telemetry.health.components.Sorted
  tracked : ∀ member ∈ f.cohort.members, member.agent.tracker.name = member.agent.name
  /-- There are no components but those of launched agents. -/
  known : ∀ name health, f.site.telemetry.component? name = some health →
    name ∈ f.cohort.members.map fun member => member.agent.name
  mirrors : ∀ member ∈ f.cohort.members,
    f.site.telemetry.Mirrors member.agent.name member.agent.state ∨
      f.site.telemetry.component? member.agent.name = none ∧ member.agent.state = .unregistered

theorem component?_eq_of_components {shown before : Telemetry}
    (h : shown.health.components = before.health.components) (name : String) :
    shown.component? name = before.component? name := by
  rw [Telemetry.component?, h, Telemetry.component?]

/-- Neither the agents nor the components change. -/
theorem Mirrored.keep (h : f.Mirrored) (hmembers : later.cohort.members = f.cohort.members)
    (hcomponents : later.site.telemetry.health.components =
      f.site.telemetry.health.components) : later.Mirrored := by
  have hcomponent := component?_eq_of_components hcomponents
  refine ⟨by rw [hcomponents]; exact h.sorted, by rw [hmembers]; exact h.tracked, ?_, ?_⟩
  · intro name health hhealth
    rw [hmembers]
    exact h.known name health (hcomponent name ▸ hhealth)
  · rw [hmembers]
    intro member hmember
    simp only [Telemetry.Mirrors, hcomponent]
    exact h.mirrors member hmember

/-- An agent that is launched has no component yet. -/
theorem Mirrored.enlist (h : f.Mirrored) {index : Nat} {setup : AgentSetup}
    (hmembers : later.cohort.members = f.cohort.members ++ [{ index, agent := .create setup }])
    (hcomponents : later.site.telemetry.health.components =
      f.site.telemetry.health.components) (hlaunches : later.Launches) : later.Mirrored := by
  have hcomponent := component?_eq_of_components hcomponents
  have hnew : f.site.telemetry.component? setup.name = none := by
    cases hfound : f.site.telemetry.component? setup.name with
    | none => rfl
    | some health =>
        have hnodup := hlaunches.names_nodup
        rw [hmembers, List.map_append] at hnodup
        exact absurd rfl ((List.nodup_append.1 hnodup).2.2 _ (h.known _ _ hfound) _
          (List.mem_singleton_self _))
  refine ⟨by rw [hcomponents]; exact h.sorted, ?_, fun name health hhealth => ?_, ?_⟩
  · rw [hmembers]
    intro member hmember
    rcases List.mem_append.1 hmember with hold | hlast
    · exact h.tracked member hold
    · obtain rfl := List.mem_singleton.1 hlast
      rfl
  · rw [hmembers, List.map_append]
    exact List.mem_append_left _ (h.known name health (hcomponent name ▸ hhealth))
  · rw [hmembers]
    intro member hmember
    simp only [Telemetry.Mirrors, hcomponent]
    rcases List.mem_append.1 hmember with hold | hlast
    · exact h.mirrors member hold
    · obtain rfl := List.mem_singleton.1 hlast
      exact .inr ⟨hnew, rfl⟩

theorem Mirrored.change (h : f.Mirrored) (hlaunches : f.Launches) {position : Nat}
    {member : Member} (hmember : f.cohort.members[position]? = some member) {agent : Agent}
    {call : Option Ledger.Call} (heffect : member.agent.Effect f.site call agent later.site)
    (hmembers : later.cohort.members = f.cohort.members.set position { member with agent }) :
    later.Mirrored := by
  have hdiscloses := heffect.discloses
  have hname := heffect.name_eq
  have hmem := List.mem_of_getElem? hmember
  have htracker : member.agent.tracker.name = member.agent.name := h.tracked member hmem
  have hothers (name : String) (hother : name ≠ member.agent.name) :
      later.site.telemetry.component? name = f.site.telemetry.component? name :=
    hdiscloses.others name (htracker.symm ▸ hother)
  have hsplit (other : Member) (hother : other ∈ later.cohort.members) :=
    eq_or_name_ne_of_mem_set hlaunches.names_nodup hmember hname (hmembers ▸ hother)
  refine ⟨hdiscloses.sorted h.sorted, fun other hother => ?_, fun name health hhealth => ?_,
    fun other hother => ?_⟩
  · rcases hsplit other hother with rfl | ⟨hkept, -⟩
    · show agent.tracker.name = agent.name
      rw [hname, ← htracker]
      exact hdiscloses.name_eq
    · exact h.tracked other hkept
  · have hnames : (f.cohort.members.set position { member with agent }).map
        (fun member => member.agent.name) = f.cohort.members.map fun member => member.agent.name :=
      Cohort.map_set_of_eq hmember hname
    rw [hmembers, hnames]
    by_cases hown : name = member.agent.name
    · subst hown
      exact List.mem_map_of_mem hmem
    · exact h.known name health ((hothers name hown).symm.trans hhealth)
  · rcases hsplit other hother with rfl | ⟨hkept, hown⟩
    · have hdone := hdiscloses.own
      simp only [Agent.shownAt, htracker, ← hname] at hdone
      rcases hdone with ⟨hcomponent, hstate⟩ | hmirrors
      · have hbefore := h.mirrors member hmem
        simp only [Telemetry.Mirrors, ← hname, ← hcomponent, Agent.state, ← hstate] at hbefore
        exact hbefore
      · exact .inl hmirrors
    · simp only [Telemetry.Mirrors, hothers _ hown]
      exact h.mirrors other hkept

theorem Mirrored.step (h : f.Mirrored) (hlaunches : f.Launches)
    (hstep : Step f clears call later) : later.Mirrored := by
  cases hstep.memberStep hlaunches with
  | kept hmembers hcomponents => exact h.keep hmembers hcomponents
  | enlisted hmembers hcomponents =>
      exact h.enlist hmembers hcomponents (hstep.launches hlaunches)
  | changed hmember heffect hmembers => exact h.change hlaunches hmember heffect hmembers

/-! ## Runs -/

/-- What the flag and the components tell at any time. -/
theorem attend_tells {site : Site} (hcreate : create config site = .ok f)
    (hfresh : site.telemetry.health = .empty) (events : List Attended.Event) :
    (f.attend events).fleet.Flagged (f.attend events).isCleared ∧
      (f.attend events).fleet.Mirrored ∧ (f.attend events).fleet.config = config := by
  induction events using List.reverseRecOn with
  | nil =>
      obtain ⟨hlaunches, -⟩ := launches_create hcreate
      obtain ⟨-, profiles, hprofiles, rfl⟩ := exists_of_create hcreate
      have hundeclared : site.telemetry.health.declaredReady = false := by rw [hfresh]; rfl
      refine ⟨⟨hprofiles, fun _ => hundeclared,
        fun hcleared => absurd hcleared Bool.false_ne_true, fun _ => ?_⟩, ?_, rfl⟩
      · -- There is at least one agent to be launched.
        constructor
        · intro hdeclared
          exact absurd (hundeclared.symm.trans hdeclared) Bool.false_ne_true
        · intro hall
          have hcount := hall.length_eq
          rw [List.length_range] at hcount
          exact absurd hcount.symm hlaunches.size_ne
      · refine ⟨?_, ?_, ?_, ?_⟩
        · show site.telemetry.health.components.Sorted
          rw [hfresh]
          exact Table.sorted_nil
        · exact fun _ hmember => absurd hmember List.not_mem_nil
        · intro name health hhealth
          have hnone : site.telemetry.component? name = none := by
            rw [Telemetry.component?, hfresh]
            rfl
          cases hnone.symm.trans hhealth
        · exact fun _ hmember => absurd hmember List.not_mem_nil
  | append_singleton events event ih =>
      obtain ⟨hflagged, hmirrored, hconfig⟩ := ih
      have hinOrder := attend_inOrder hcreate events
      have hstep := hinOrder.happen_step event
      rw [attend_concat]
      refine ⟨?_, hmirrored.step hinOrder.launches hstep, hstep.config_eq.trans hconfig⟩
      rw [Attended.isCleared_happen]
      exact hflagged.step hinOrder.launches hstep

theorem ofState_unhealthy_iff {state : AgentState} :
    HealthStatus.ofState state = .unhealthy ↔ state = .terminating ∨ state = .stopped := by
  cases state <;> simp [HealthStatus.ofState]

/-- A component is unhealthy exactly if an agent was last seen to end or to have ended. -/
theorem Mirrored.overall_eq_unhealthy_iff (h : f.Mirrored) :
    HealthRegistry.overall f.site.telemetry.health.components = .unhealthy ↔
      ∃ member ∈ f.cohort.members, ∃ state, f.site.telemetry.Mirrors member.agent.name state ∧
        (state = .terminating ∨ state = .stopped) := by
  rw [HealthRegistry.overall_eq_unhealthy_iff h.sorted]
  constructor
  · rintro ⟨name, health, hfind, hunhealthy⟩
    obtain ⟨member, hmember, rfl⟩ := List.mem_map.1 (h.known name health hfind)
    rcases h.mirrors member hmember with ⟨now, hcomponent⟩ | ⟨hnone, -⟩
    · obtain rfl : ComponentHealth.ofState member.agent.state now = health :=
        Option.some.inj (hcomponent.symm.trans hfind)
      exact ⟨member, hmember, _, ⟨now, hcomponent⟩, ofState_unhealthy_iff.1 hunhealthy⟩
    · exact nomatch hnone.symm.trans hfind
  · rintro ⟨member, -, state, ⟨now, hcomponent⟩, hends⟩
    exact ⟨member.agent.name, _, hcomponent, ofState_unhealthy_iff.2 hends⟩

/-- What health and readiness tell.

* The overall status is the worst of what the updates of a registry say of each name last.  That
  alone decides it, and the components may be looked through in any order.
* A fleet that is called at any time is ready exactly if all its agents are launched, no shutdown
  has taken readiness back, and no agent was last seen to end or to have ended.
* An agent was last seen in the state that it is in, unless it was not seen yet. -/
theorem health_and_readiness {site : Site} (hcreate : create config site = .ok f)
    (hfresh : site.telemetry.health = .empty) (events : List Attended.Event)
    (updates : List (String × ComponentHealth)) :
    let h := HealthRegistry.ofUpdates updates
    let x := f.attend events
    let members := x.fleet.cohort.members
    let shown := x.fleet.site.telemetry
    (HealthRegistry.IsOverall (HealthRegistry.latest? updates) h.report.status ∧
        (∀ others, HealthRegistry.latest? others = HealthRegistry.latest? updates →
          (HealthRegistry.ofUpdates others).report.status = h.report.status) ∧
        ∀ order : List ComponentHealth, order.Perm h.components.values →
          HealthRegistry.scan false order = h.report.status) ∧
      (shown.health.readiness.ready = true ↔
        x.fleet.numbers.Perm (List.range config.fleetSize) ∧
          (∀ stage ∈ x.shutdowns, stage.hasCleared = false) ∧
          ∀ member ∈ members, ∀ state, shown.Mirrors member.agent.name state →
            state ≠ .terminating ∧ state ≠ .stopped) ∧
      ∀ member ∈ members, shown.Mirrors member.agent.name member.agent.state ∨
        shown.component? member.agent.name = none ∧ member.agent.state = .unregistered := by
  intro h x members shown
  have hoverall := HealthRegistry.isOverall_ofUpdates updates
  obtain ⟨hflagged, hmirrored, hconfig⟩ := attend_tells hcreate hfresh events
  have hclear : (∀ stage ∈ x.shutdowns, stage.hasCleared = false) ↔ x.isCleared = false := by
    simp [Attended.isCleared]
  refine ⟨⟨hoverall, fun others hsame => ?_, fun order horder => ?_⟩, ?_, hmirrored.mirrors⟩
  · have hother := HealthRegistry.isOverall_ofUpdates others
    rw [hsame] at hother
    exact hother.unique hoverall
  · exact HealthRegistry.scan_eq_overall horder
  · rw [HealthRegistry.ready_iff, Ne, hmirrored.overall_eq_unhealthy_iff, hclear, ← hconfig]
    constructor
    · rintro ⟨hdeclared, hnone⟩
      -- While the flag is set, no shutdown has taken it back.
      have huncleared : x.isCleared = false := by
        cases hcleared : x.isCleared with
        | false => rfl
        | true =>
            exact absurd (hdeclared.symm.trans (hflagged.cleared hcleared).2) Bool.true_eq_false.mp
      refine ⟨(hflagged.uncleared huncleared).1 hdeclared, huncleared, ?_⟩
      intro member hmember state hmirrors
      exact not_or.1 fun hends => hnone ⟨member, hmember, state, hmirrors, hends⟩
    · rintro ⟨hall, huncleared, hnone⟩
      refine ⟨(hflagged.uncleared huncleared).2 hall, ?_⟩
      rintro ⟨member, hmember, state, hmirrors, hends⟩
      exact not_or.2 (hnone member hmember state hmirrors) hends

/-- A fleet of one agent is ready once that is launched, until the agent is stopped or a shutdown
takes readiness back. -/
theorem health_and_readiness_of_one_agent :
    let config : FleetConfig := { fleetSize := 1 }
    let launch : List Attended.Event := [.other (.start fun _ => 0), .other .launch]
    let shutdown : List Attended.Event := [.shutdown, .advance 0, .advance 0, .advance 0]
    ∃ f, create config (.create (.empty 0) ⟨0, 0⟩) = .ok f ∧
      (f.attend launch).fleet.site.telemetry.health.readiness.ready = true ∧
      (f.attend (launch ++ [.stop 0, .proceed 0 0])).fleet.site.telemetry.health.readiness.ready =
        false ∧
      (f.attend (launch ++ shutdown)).fleet.site.telemetry.health.readiness.ready = false := by
  intro config launch shutdown
  have hchecked : (create config (.create (.empty 0) ⟨0, 0⟩)).toOption.any (fun f =>
      let x := f.attend launch
      let y := f.attend (launch ++ [.stop 0, .proceed 0 0])
      decide (x.fleet.numbers = [0]) && x.shutdowns.isEmpty &&
        decide (x.fleet.site.telemetry.health.components = []) &&
        decide (y.fleet.cohort.members.map (fun member => member.agent.state) = [.terminating]) &&
        (f.attend (launch ++ shutdown)).isCleared) = true := by decide +kernel
  obtain ⟨f, hcreate, hfleet⟩ := exists_create_of_any hchecked
  simp only [Bool.and_eq_true, decide_eq_true_eq, List.isEmpty_iff] at hfleet
  obtain ⟨⟨⟨⟨hnumbers, hcalm⟩, hunseen⟩, hstates⟩, hcleared⟩ := hfleet
  have htells (events : List Attended.Event) := health_and_readiness hcreate rfl events []
  refine ⟨f, hcreate, (htells launch).2.1.2 ⟨?_, ?_, ?_⟩, ?_, ?_⟩
  · rw [hnumbers]
    exact .refl _
  · rw [hcalm]
    exact fun stage hstage => absurd hstage List.not_mem_nil
  · rintro member - state ⟨now, hcomponent⟩
    rw [Telemetry.component?, hunseen] at hcomponent
    cases hcomponent
  · obtain ⟨-, hready, hmirrors⟩ := htells (launch ++ [.stop 0, .proceed 0 0])
    have hmem : AgentState.terminating ∈ (f.attend (launch ++ [.stop 0, .proceed 0 0])
        ).fleet.cohort.members.map fun member => member.agent.state := by
      rw [hstates]
      exact List.mem_singleton_self _
    obtain ⟨member, hmember, hstate⟩ := List.mem_map.1 hmem
    refine Bool.eq_false_iff.2 fun hholds => ?_
    rcases hmirrors member hmember with hseen | ⟨-, hunregistered⟩
    · exact absurd hstate ((hready.1 hholds).2.2 member hmember _ hseen).1
    · cases hunregistered.symm.trans hstate
  · obtain ⟨-, hready, -⟩ := htells (launch ++ shutdown)
    obtain ⟨stage, hstage, hhas⟩ := List.any_eq_true.1 hcleared
    refine Bool.eq_false_iff.2 fun hholds => ?_
    exact Bool.false_ne_true (((hready.1 hholds).2.1 stage hstage).symm.trans hhas)

end Fleet

end NodeFleet
