import Mathlib.Data.List.Nodup
import NodeFleet.Proofs.Agent.Frame
import NodeFleet.Proofs.Cohort.Run
import NodeFleet.Proofs.Config.Profiles

/-!
# The launch of a fleet

The launcher is given every number once, so no two agents have one name.  Its plan is never
empty when it begins, and when the plan has run out the launcher has ended.  So a launcher
that begins after launching was cancelled launches nothing, and it does not come to declare
the fleet ready either.

`Launches` is what holds of a fleet at any time, and `Closed` what holds once a shutdown has
waited for the launcher.
-/

namespace NodeFleet

/-! ## A step of the launcher -/

namespace Cohort

/-- What a step of the launcher can do. -/
inductive LaunchStep (c : Cohort) : Cohort → Prop where
  | ended {launcher : Launcher} (hlauncher : c.launcher = some launcher)
      (hbusy : launcher.isDone = false) (hcancelled : c.launchCancelled = true) :
      LaunchStep c { c with launcher := some { launcher with isDone := true } }
  | launched {launcher : Launcher} {offset : Duration} {index : Nat} {setup : AgentSetup}
      {pending : List (Duration × Nat × AgentSetup)} (hlauncher : c.launcher = some launcher)
      (hbusy : launcher.isDone = false) (hopen : c.launchCancelled = false)
      (hplan : launcher.pending = (offset, index, setup) :: pending) (hmore : pending ≠ []) :
      LaunchStep c { c.enlist index setup with launcher := some { launcher with pending } }
  /-- The last agent is launched. -/
  | completed {launcher : Launcher} {offset : Duration} {index : Nat} {setup : AgentSetup}
      (hlauncher : c.launcher = some launcher) (hbusy : launcher.isDone = false)
      (hopen : c.launchCancelled = false) (hplan : launcher.pending = [(offset, index, setup)]) :
      LaunchStep c
        { c.enlist index setup with
          launcher := some { launcher with pending := [], isDone := true } }.declareReady

/-- A launcher with nothing planned is no longer at work. -/
theorem perform_launch {c : Cohort} {due : Instant} (hdue : c.launchDue? = some due)
    (hplanned : ∀ launcher, c.launcher = some launcher →
      launcher.isDone = true ∨ launcher.pending ≠ []) : c.LaunchStep (c.perform .launch) := by
  unfold launchDue? at hdue
  cases hlauncher : c.launcher with
  | none =>
      simp only [hlauncher] at hdue
      exact nomatch hdue
  | some launcher =>
      have hbusy : launcher.isDone = false := by
        cases hdone : launcher.isDone with
        | false => rfl
        | true => simp [hlauncher, hdone] at hdue
      cases hplan : launcher.pending with
      | nil => exact absurd hplan ((hplanned launcher hlauncher).resolve_left (by simp [hbusy]))
      | cons first pending =>
          obtain ⟨offset, index, setup⟩ := first
          cases hcancelled : c.launchCancelled with
          | true =>
              have hended : c.perform .launch =
                  { c with launcher := some { launcher with isDone := true } } := by
                simp only [perform, hlauncher, actLauncher, hplan, hcancelled, if_true]
              rw [hended]
              exact .ended hlauncher hbusy hcancelled
          | false =>
              cases pending with
              | nil =>
                  have hcompleted : c.perform .launch = { c.enlist index setup with
                      launcher := some { launcher with pending := [], isDone := true }
                    }.declareReady := by
                    simp only [perform, hlauncher, actLauncher, hplan, hcancelled, if_true,
                      Bool.false_eq_true, if_false]
                  rw [hcompleted]
                  exact .completed hlauncher hbusy hcancelled hplan
              | cons next rest =>
                  have hlaunched : c.perform .launch = { c.enlist index setup with
                      launcher := some { launcher with pending := next :: rest } } := by
                    simp only [perform, hlauncher, actLauncher, hplan, hcancelled,
                      Bool.false_eq_true, if_false, reduceCtorEq]
                  rw [hlaunched]
                  exact .launched hlauncher hbusy hcancelled hplan (List.cons_ne_nil next rest)

end Cohort

namespace Fleet

variable {f : Fleet} {c : FleetConfig} {offsets : List Duration}

/-! ## What is to be launched -/

theorem mem_launchPlan {entry : Duration × Nat × AgentSetup}
    (h : entry ∈ f.launchPlan offsets) : entry.2.2.name = f.config.agentName entry.2.1 := by
  obtain ⟨⟨offset, index⟩, -, hentry⟩ := List.mem_filterMap.1 h
  obtain ⟨profile, -, rfl⟩ := Option.map_eq_some_iff.1 hentry
  rfl

theorem nodup_launchPlan (f : Fleet) (offsets : List Duration) :
    ((f.launchPlan offsets).map fun entry => entry.2.1).Nodup := by
  have hschedule : ((launchSchedule offsets).map Prod.snd).Nodup := by
    have hperm : (launchSchedule offsets).Perm offsets.zipIdx := List.mergeSort_perm _ _
    rw [(hperm.map Prod.snd).nodup_iff, List.zipIdx_map_snd]
    exact List.nodup_range' 1
  refine List.pairwise_map.2 ((List.pairwise_map.1 hschedule).filterMap _ ?_)
  rintro ⟨offset, index⟩ ⟨late, other⟩ hne entry hentry next hnext
  obtain ⟨profile, -, rfl⟩ := Option.map_eq_some_iff.1 hentry
  obtain ⟨profile, -, rfl⟩ := Option.map_eq_some_iff.1 hnext
  exact hne

theorem launchPlan_ne_nil (hprofiles : f.profiles ≠ []) (hoffsets : offsets ≠ []) :
    f.launchPlan offsets ≠ [] := by
  obtain ⟨offset, rest, rfl⟩ := List.exists_cons_of_ne_nil hoffsets
  obtain ⟨profile, others, hfirst⟩ := List.exists_cons_of_ne_nil hprofiles
  have hmem : (offset, 0) ∈ launchSchedule (offset :: rest) :=
    (List.mergeSort_perm _ _).mem_iff.2 List.mem_cons_self
  intro hnil
  have hnone := List.filterMap_eq_nil_iff.1 hnil _ hmem
  simp [hfirst] at hnone

/-- The offsets with which the fleet is started. -/
def offsets? (f : Fleet) (draw : Nat → Duration) : Option (List Duration) :=
  launchOffsets? f.config.fleetSize f.config.startStagger f.config.startJitter draw

theorem offsets_ne_nil {draw : Nat → Duration} (hsize : f.config.fleetSize ≠ 0)
    (h : f.offsets? draw = some offsets) : offsets ≠ [] := by
  obtain ⟨count, hcount⟩ := Nat.exists_eq_succ_of_ne_zero hsize
  rw [offsets?, launchOffsets?, hcount, List.range_succ_eq_map, List.mapM_cons] at h
  obtain ⟨first, -, h⟩ := Option.bind_eq_some_iff.1 h
  obtain ⟨rest, -, h⟩ := Option.bind_eq_some_iff.1 h
  obtain rfl : first :: rest = offsets := Option.some.inj h
  exact List.cons_ne_nil first rest

/-! ## The launch as it goes on -/

/-- What holds of the launch at any time. -/
structure Launches (f : Fleet) : Prop where
  size_ne : f.config.fleetSize ≠ 0
  profiles_ne : f.profiles ≠ []
  named : ∀ member ∈ f.cohort.members, member.agent.name = f.config.agentName member.index
  distinct : (f.cohort.members.map Member.index).Nodup
  planned : ∀ launcher, f.cohort.launcher = some launcher →
    (launcher.isDone = true ∨ launcher.pending ≠ []) ∧
      ∀ entry ∈ launcher.pending, entry.2.2.name = f.config.agentName entry.2.1
  /-- Before launching is cancelled there is one launcher at most, and it has no number twice. -/
  pending : f.cohort.launchCancelled = false →
    match f.cohort.launcher with
    | none => f.cohort.members = []
    | some launcher => f.holdsLauncher = true ∧
        (f.cohort.members.map Member.index ++ launcher.pending.map fun entry => entry.2.1).Nodup
  released : f.holdsLauncher = false → f.cohort.isLaunching = false

/-- No agent is launched any more, and the fleet is not ready. -/
structure Closed (f : Fleet) : Prop where
  cancelled : f.cohort.launchCancelled = true
  unready : f.cohort.site.telemetry.health.declaredReady = false

theorem Launches.cancel (h : f.Launches) :
    Launches { f with cohort := { f.cohort with launchCancelled := true } } :=
  ⟨h.size_ne, h.profiles_ne, h.named, h.distinct, h.planned, nofun, h.released⟩

theorem Launches.perform_launch (h : f.Launches) {due : Instant}
    (hdue : f.cohort.launchDue? = some due) : f.cohort.LaunchStep (f.cohort.perform .launch) :=
  Cohort.perform_launch hdue fun launcher hlauncher => (h.planned launcher hlauncher).1

/-- What happens at the site plays no part. -/
theorem Launches.withSite (h : f.Launches) (site : Site) :
    Launches { f with cohort := { f.cohort with site } } :=
  ⟨h.size_ne, h.profiles_ne, h.named, h.distinct, h.planned, h.pending, h.released⟩

theorem Launches.names_nodup (h : f.Launches) :
    (f.cohort.members.map fun member => member.agent.name).Nodup := by
  have hnames : (f.cohort.members.map fun member => member.agent.name) =
      (f.cohort.members.map Member.index).map f.config.agentName := by
    rw [List.map_map]
    exact List.map_congr_left h.named
  rw [hnames]
  exact List.Nodup.map f.config.agentName_injective h.distinct

theorem Closed.not_ready (h : f.Closed) :
    f.cohort.site.telemetry.health.readiness.ready = false := by
  simp [HealthRegistry.readiness, h.unready]

/-- A fleet that passes a check is created. -/
theorem exists_create_of_any {site : Site} {check : Fleet → Bool}
    (h : (create c site).toOption.any check = true) :
    ∃ f, create c site = .ok f ∧ check f = true := by
  cases hcreate : create c site with
  | error error =>
      rw [hcreate] at h
      exact absurd h Bool.false_ne_true
  | ok f =>
      rw [hcreate] at h
      exact ⟨f, rfl, h⟩

/-- A fleet is only created from a valid configuration, and has a profile for each agent. -/
theorem exists_of_create {site : Site} (h : create c site = .ok f) :
    c.validate = .ok () ∧ ∃ profiles, profiles.length = c.fleetSize ∧
      f = { config := c, profiles, cohort := .create site, holdsLauncher := false } := by
  cases hvalid : c.validate with
  | error error =>
      simp only [create, hvalid] at h
      cases h
  | ok done =>
      obtain ⟨base, hbase, hblock, hprofiles⟩ := FleetConfig.exists_profileFor hvalid
      have hall : ∀ index ∈ List.range c.fleetSize, ∃ profile,
          c.profileFor index = .ok profile := by
        intro index hmem
        obtain ⟨range, -, hprofile⟩ := hprofiles index (List.mem_range.1 hmem)
        exact ⟨_, hprofile⟩
      obtain ⟨profiles, hresult, hmap⟩ := mapM_eq_ok hall
      have hcreate : create c site = .ok ⟨c, profiles, .create site, false⟩ := by
        simp only [create, hvalid, hresult]
        rfl
      have hlength := congrArg List.length hmap
      rw [List.length_map, List.length_map, List.length_range] at hlength
      exact ⟨rfl, profiles, hlength, Except.ok.inj (h.symm.trans hcreate)⟩

theorem launches_create {site : Site} (h : create c site = .ok f) :
    f.Launches ∧ f.cohort.launchCancelled = false ∧ f.cohort.members = [] := by
  obtain ⟨hvalid, profiles, hlength, rfl⟩ := exists_of_create h
  have hsize : c.fleetSize ≠ 0 := by
    intro hzero
    rw [FleetConfig.validate, if_pos hzero] at hvalid
    exact nomatch hvalid
  have hne : profiles ≠ [] := by
    rintro rfl
    exact hsize hlength.symm
  refine ⟨⟨hsize, hne, fun member hmember => ?_, List.nodup_nil, nofun, fun _ => rfl,
    fun _ => rfl⟩, rfl, rfl⟩
  exact absurd hmember List.not_mem_nil

/-- A start gives the launcher its plan. -/
theorem Launches.start (h : f.Launches) {draw : Nat → Duration} {later : Fleet}
    (hoffsets : f.offsets? draw = some offsets) (hstart : f.start draw = .ok later) :
    later.Launches ∧ later.cohort.members = f.cohort.members ∧
      later.cohort.launchCancelled = f.cohort.launchCancelled ∧
      later.cohort.site.frame = f.cohort.site.frame ∧
      later.cohort.site.plane = f.cohort.site.plane := by
  unfold Fleet.start at hstart
  split_ifs at hstart with hholds
  have hlater : f.beginLaunch offsets = later := by
    rw [offsets?] at hoffsets
    simp only [hoffsets, Option.getD_some] at hstart
    exact Except.ok.inj hstart
  subst hlater
  refine ⟨⟨h.size_ne, h.profiles_ne, h.named, h.distinct, ?_, ?_, nofun⟩, rfl, rfl, rfl, rfl⟩
  · intro launcher hlauncher
    obtain rfl := Option.some.inj hlauncher
    exact ⟨.inr (launchPlan_ne_nil h.profiles_ne (offsets_ne_nil h.size_ne hoffsets)),
      fun entry => mem_launchPlan⟩
  · intro hopen
    -- Nothing was launched before, or the launcher would still be held.
    have hmembers : f.cohort.members = [] := by
      have hpending := h.pending hopen
      cases hlauncher : f.cohort.launcher with
      | none => simpa only [hlauncher] using hpending
      | some launcher =>
          simp only [hlauncher] at hpending
          exact absurd hpending.1 hholds
    refine ⟨rfl, ?_⟩
    show (f.cohort.members.map Member.index ++ _).Nodup
    rw [hmembers]
    exact f.nodup_launchPlan offsets

/-- A step of the launcher keeps the launch in order. -/
theorem Launches.launch (h : f.Launches) {due : Instant} (hdue : f.cohort.launchDue? = some due) :
    Launches { f with cohort := f.cohort.perform .launch } := by
  have hstep := h.perform_launch hdue
  -- The next agent comes from the plan, and with it the plan gets shorter.
  have hnext {launcher done : Launcher} {offset : Duration} {index : Nat} {setup : AgentSetup}
      {site : Site} (hlauncher : f.cohort.launcher = some launcher)
      (hopen : f.cohort.launchCancelled = false)
      (hplan : launcher.pending = (offset, index, setup) :: done.pending)
      (hdone : done.isDone = true ∨ done.pending ≠ []) :
      Launches { f with cohort :=
        { f.cohort with
          site
          members := f.cohort.members ++ [Member.mk index (.create setup)]
          launcher := some done } } := by
    obtain ⟨-, hnamed⟩ := h.planned launcher hlauncher
    have hpending := h.pending hopen
    simp only [hlauncher, hplan] at hpending
    obtain ⟨hheld, hnodup⟩ := hpending
    have hmoved : ((f.cohort.members ++ [Member.mk index (.create setup)]).map Member.index ++
        done.pending.map fun entry => entry.2.1).Nodup := by
      rw [List.map_append, List.append_assoc]
      exact hnodup
    refine ⟨h.size_ne, h.profiles_ne, ?_, (List.nodup_append.1 hmoved).1, ?_, fun _ => ?_, ?_⟩
    · intro member hmember
      rcases List.mem_append.1 hmember with hold | hnew
      · exact h.named member hold
      · obtain rfl := List.mem_singleton.1 hnew
        exact hnamed (offset, index, setup) (hplan ▸ List.mem_cons_self)
    · intro other hother
      obtain rfl := Option.some.inj hother
      exact ⟨hdone, fun entry hentry => hnamed entry (hplan ▸ List.mem_cons_of_mem _ hentry)⟩
    · exact ⟨hheld, hmoved⟩
    · intro hreleased
      exact absurd (hheld.symm.trans hreleased) (by decide)
  generalize f.cohort.perform .launch = later at hstep
  cases hstep with
  | @ended launcher hlauncher hbusy hcancelled =>
      refine ⟨h.size_ne, h.profiles_ne, h.named, h.distinct, ?_, fun hopen => ?_, fun _ => rfl⟩
      · intro other hother
        obtain rfl := Option.some.inj hother
        exact ⟨.inl rfl, (h.planned launcher hlauncher).2⟩
      · exact absurd (hopen.symm.trans hcancelled) (by decide)
  | launched hlauncher hbusy hopen hplan hmore => exact hnext hlauncher hopen hplan (.inr hmore)
  | completed hlauncher hbusy hopen hplan => exact hnext hlauncher hopen hplan (.inl rfl)

/-- An agent may change, as long as it keeps its name. -/
theorem Launches.setAgent (h : f.Launches) {position : Nat} {member : Member}
    (hmember : f.cohort.members[position]? = some member) {agent : Agent}
    (hname : agent.name = member.agent.name) (site : Site) :
    (f.setAgent position agent site).Launches := by
  have hindex : (f.cohort.members.set position { member with agent }).map Member.index =
      f.cohort.members.map Member.index := Cohort.map_set_of_eq hmember rfl
  rw [Fleet.setAgent, Cohort.setAgent_eq hmember]
  refine ⟨h.size_ne, h.profiles_ne, ?_, ?_, h.planned, fun hopen => ?_, h.released⟩
  · intro other hother
    rcases List.mem_or_eq_of_mem_set hother with hkept | rfl
    · exact h.named other hkept
    · exact hname.trans (h.named member (List.mem_of_getElem? hmember))
  · show ((f.cohort.members.set position { member with agent }).map Member.index).Nodup
    rw [hindex]
    exact h.distinct
  · have hpending := h.pending hopen
    cases hlauncher : f.cohort.launcher with
    | none =>
        simp only [hlauncher] at hpending ⊢
        rw [hpending]
        rfl
    | some launcher =>
        simp only [hlauncher, hindex] at hpending ⊢
        exact hpending

end Fleet

end NodeFleet
