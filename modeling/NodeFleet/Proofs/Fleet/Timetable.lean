import NodeFleet.Proofs.Fleet.Readiness

/-!
# The timetable of a launch

A launch that nobody cancels follows its plan: the agents in the order of their offsets, each with
the setup of its number.  However its steps fall between those of the agents and of the callers,
what is launched is the first part of the plan, each entry when its offset has passed, and what
is pending is the rest (`Launching`).

A step of the fleet leaves both parts as they are, or takes the launcher from one entry to the
next (`Launching.step`).  The clock does not go back, so an offset that has passed has passed for
good, and every turn of the launcher after all offsets launches an agent until there are none left
(`Launching.run`).
-/

namespace NodeFleet

namespace Fleet

variable {f later : Fleet} {clears : Bool} {call : Option (String × Ledger.Call)}

/-! ## The profiles -/

theorem Step.profiles_eq (hstep : Step f clears call later) : later.profiles = f.profiles := by
  cases hstep with
  | started hoffsets hstart =>
      unfold Fleet.start at hstart
      split_ifs at hstart
      obtain rfl := Except.ok.inj hstart
      rfl
  | _ => rfl

/-! ## The plan -/

variable {offsets : List Duration}

/-- What is planned for an agent: its offset, and the setup of its number. -/
theorem planned_of_mem {entry : Duration × Nat × AgentSetup}
    (h : entry ∈ f.launchPlan offsets) :
    offsets[entry.2.1]? = some entry.1 ∧ ∃ profile, f.profiles[entry.2.1]? = some profile ∧
      entry.2.2 = f.config.setupFor entry.2.1 profile := by
  obtain ⟨⟨offset, index⟩, hmem, hentry⟩ := List.mem_filterMap.1 h
  obtain ⟨profile, hprofile, rfl⟩ := Option.map_eq_some_iff.1 hentry
  exact ⟨getElem?_of_mem_launchSchedule hmem, profile, hprofile, rfl⟩

/-! ## The launch as it follows the plan -/

/-- The launch of a fleet that nobody has cancelled, between what is done of its plan and what is
pending. -/
structure Launching (f : Fleet) (began : Instant)
    (done pending : List (Duration × Nat × AgentSetup)) : Prop where
  opened : f.cohort.launchCancelled = false
  launcher_eq : ∃ isDone, f.cohort.launcher = some { began, pending, isDone } ∧
    (isDone = true ↔ pending = [])
  members_eq : f.cohort.members.map (fun member => (member.index, member.agent.setup)) =
    done.map Prod.snd
  /-- Nobody is launched before its offset. -/
  passed : ∀ entry ∈ done, began + entry.1 ≤ f.site.now

variable {began : Instant} {done pending : List (Duration × Nat × AgentSetup)}
  {entry : Duration × Nat × AgentSetup}

/-- The launch does not change, and time may pass. -/
theorem Launching.keep (h : f.Launching began done pending)
    (hopen : later.cohort.launchCancelled = false)
    (hlauncher : later.cohort.launcher = f.cohort.launcher)
    (hmembers : later.cohort.members.map (fun member => (member.index, member.agent.setup)) =
      f.cohort.members.map fun member => (member.index, member.agent.setup))
    (hnow : f.site.now ≤ later.site.now) : later.Launching began done pending :=
  { opened := hopen
    launcher_eq := hlauncher ▸ h.launcher_eq
    members_eq := hmembers.trans h.members_eq
    passed := fun entry hentry => (h.passed entry hentry).trans hnow }

/-- The launcher is due when the offset of the next agent has passed. -/
theorem Launching.launchDue?_eq (h : f.Launching began done pending) :
    f.cohort.launchDue? = pending.head?.map fun entry => began + entry.1 := by
  obtain ⟨isDone, hlauncher, hdone⟩ := h.launcher_eq
  rw [Cohort.launchDue?, hlauncher]
  cases pending with
  | nil =>
      obtain rfl : isDone = true := hdone.2 rfl
      rfl
  | cons entry rest =>
      obtain ⟨offset, index, setup⟩ := entry
      have hbusy : isDone = false := by
        cases isDone with
        | false => rfl
        | true => exact absurd (hdone.1 rfl) (List.cons_ne_nil _ _)
      simp only [hbusy, h.opened, Bool.false_eq_true, if_false]
      rfl

/-- The launcher launches the next agent of the plan. -/
theorem Launching.launch (h : f.Launching began done (entry :: pending))
    (hready : began + entry.1 ≤ f.site.now) :
    Launching { f with cohort := f.cohort.perform .launch } began (done ++ [entry]) pending := by
  obtain ⟨isDone, hlauncher, hdone⟩ := h.launcher_eq
  obtain ⟨offset, index, setup⟩ := entry
  have hmembers : (f.cohort.members ++ [Member.mk index (.create setup)]).map
      (fun member => (member.index, member.agent.setup)) =
        (done ++ [(offset, index, setup)]).map Prod.snd := by
    rw [List.map_append, List.map_append, h.members_eq]
    rfl
  have hpassed : ∀ entry ∈ done ++ [(offset, index, setup)], began + entry.1 ≤ f.site.now := by
    intro entry hentry
    rcases List.mem_append.1 hentry with hold | hnew
    · exact h.passed entry hold
    · obtain rfl := List.mem_singleton.1 hnew
      exact hready
  cases pending with
  | nil =>
      have hperform : f.cohort.perform .launch = { f.cohort.enlist index setup with
          launcher := some { began, pending := [], isDone := true } }.declareReady := by
        simp only [Cohort.perform, hlauncher, Cohort.actLauncher, h.opened, if_true,
          Bool.false_eq_true, if_false]
      rw [hperform]
      exact ⟨h.opened, ⟨true, rfl, by simp⟩, hmembers, hpassed⟩
  | cons next rest =>
      have hbusy : isDone = false := by
        cases isDone with
        | false => rfl
        | true => exact absurd (hdone.1 rfl) (List.cons_ne_nil _ _)
      have hperform : f.cohort.perform .launch = { f.cohort.enlist index setup with
          launcher := some { began, pending := next :: rest, isDone } } := by
        simp only [Cohort.perform, hlauncher, Cohort.actLauncher, h.opened,
          Bool.false_eq_true, if_false, reduceCtorEq]
      rw [hperform]
      exact ⟨h.opened, ⟨isDone, rfl, by simp [hbusy]⟩, hmembers, hpassed⟩

/-- One step: the launch goes on as it is, or by one agent of the plan. -/
theorem Launching.step (h : f.Launching began done pending) (hlaunches : f.Launches)
    (hstep : Step f clears call later) (hopen : later.cohort.launchCancelled = false) :
    later.Launching began done pending ∨
      ∃ entry rest, pending = entry :: rest ∧ later.Launching began (done ++ [entry]) rest := by
  have hnow := hstep.now_le hlaunches
  cases hstep with
  | rested => exact .inl h
  | started hoffsets hstart =>
      -- The launcher is held, so no other start is answered.
      obtain ⟨isDone, hlauncher, -⟩ := h.launcher_eq
      have hpending := hlaunches.pending h.opened
      simp only [hlauncher] at hpending
      exact absurd ((start_eq_ok hstart).1.symm.trans hpending.1) Bool.false_ne_true
  | launched hdue hready =>
      rw [h.launchDue?_eq] at hdue
      cases pending with
      | nil => exact nomatch hdue
      | cons entry rest =>
          obtain rfl : began + entry.1 = _ := Option.some.inj hdue
          exact .inr ⟨entry, rest, rfl, h.launch hready⟩
  | shifted hhealth hlater => exact .inl (h.keep hopen rfl rfl hnow)
  | changed hmember heffect =>
      refine .inl (h.keep hopen rfl ?_ hnow)
      rw [setAgent, Cohort.setAgent_eq hmember]
      exact Cohort.map_set_of_eq hmember (congrArg (Prod.mk _) heffect.setup_eq)
  | cancelled => exact absurd hopen Bool.true_eq_false.mp
  | released hcancelled hfree => exact absurd (hopen.symm.trans hcancelled) Bool.false_ne_true
  | cleared hcancelled => exact absurd (hopen.symm.trans hcancelled) Bool.false_ne_true

/-! ## Runs -/

/-- Whether an event is a turn of the launcher. -/
def Attended.Event.isTurn : Attended.Event → Bool
  | .other .launch => true
  | _ => false

variable {x : Attended}

/-- A turn of the launcher launches the next agent, unless its offset has not passed. -/
theorem Launching.happen (h : x.fleet.Launching began done pending) (hx : x.InOrder)
    {event : Attended.Event} (hopen : (x.happen event).fleet.cohort.launchCancelled = false) :
    ((x.happen event).fleet.Launching began done pending ∧ (event.isTurn = true →
        ∀ entry ∈ pending.head?, x.fleet.site.now < began + entry.1)) ∨
      ∃ entry rest, pending = entry :: rest ∧
        (x.happen event).fleet.Launching began (done ++ [entry]) rest := by
  have hstep := h.step hx.launches (hx.happen_step event) hopen
  by_cases hearly : event.isTurn = true → ∀ entry ∈ pending.head?,
      x.fleet.site.now < began + entry.1
  · exact hstep.imp_left fun hsame => ⟨hsame, hearly⟩
  · -- It is the launcher's turn, and the next offset has passed.
    push Not at hearly
    obtain ⟨hturn, entry, hhead, hready⟩ := hearly
    obtain ⟨rest, rfl⟩ := List.head?_eq_some_iff.1 hhead
    have hdue : (x.fleet.cohort.launchDue?).any (· ≤ x.fleet.site.now) = true := by
      rw [h.launchDue?_eq]
      exact decide_eq_true hready
    have hlaunch : (x.happen event).fleet =
        { x.fleet with cohort := x.fleet.cohort.perform .launch } := by
      unfold Attended.Event.isTurn at hturn
      split at hturn
      · simp only [Attended.happen, move, isDue, Cohort.due?, hdue, if_true]
      · exact absurd hturn Bool.false_ne_true
    rw [hlaunch]
    exact .inr ⟨entry, rest, rfl, h.launch hready⟩

theorem Attended.InOrder.launchCancelled (hx : x.InOrder) (event : Attended.Event)
    (hopen : (x.happen event).fleet.cohort.launchCancelled = false) :
    x.fleet.cohort.launchCancelled = false := by
  cases hcancelled : x.fleet.cohort.launchCancelled with
  | false => rfl
  | true =>
      have hstill := (hx.happen_step event).launchCancelled hx.launches hcancelled
      exact absurd (hopen.symm.trans hstill) Bool.false_ne_true

/-- What goes on in a run: the clock does not go back, the options and the profiles stay, and what
is open in the end was open before. -/
structure Attended.Continues (x later : Attended) : Prop where
  inOrder : later.InOrder
  now_le : x.fleet.site.now ≤ later.fleet.site.now
  config_eq : later.fleet.config = x.fleet.config
  profiles_eq : later.fleet.profiles = x.fleet.profiles
  opened : later.fleet.cohort.launchCancelled = false → x.fleet.cohort.launchCancelled = false

theorem Attended.InOrder.continues (hx : x.InOrder) (more : List Attended.Event) :
    x.Continues (more.foldl Attended.happen x) := by
  induction more generalizing x with
  | nil => exact ⟨hx, Nat.le_refl _, rfl, rfl, id⟩
  | cons event more ih =>
      have hstep := hx.happen_step event
      have hlater := ih (hx.happen event)
      exact
        { inOrder := hlater.inOrder
          now_le := (hstep.now_le hx.launches).trans hlater.now_le
          config_eq := hlater.config_eq.trans hstep.config_eq
          profiles_eq := hlater.profiles_eq.trans hstep.profiles_eq
          opened := fun hopen => hx.launchCancelled event (hlater.opened hopen) }

/-- What is launched is the first part of the plan.  Once all offsets have passed, every turn of the
launcher launches one agent more, until there are none left. -/
theorem Launching.run (h : x.fleet.Launching began done pending) (hx : x.InOrder)
    (more : List Attended.Event)
    (hopen : (more.foldl Attended.happen x).fleet.cohort.launchCancelled = false) :
    ∃ launched rest, pending = launched ++ rest ∧
      (more.foldl Attended.happen x).fleet.Launching began (done ++ launched) rest ∧
      ((∀ entry ∈ pending, began + entry.1 ≤ x.fleet.site.now) →
        rest = [] ∨ more.countP Attended.Event.isTurn ≤ launched.length) := by
  -- The induction is on the last event: whether that launches an agent depends on what is pending
  -- right before it.
  induction more using List.reverseRecOn with
  | nil => exact ⟨[], pending, rfl, by rwa [List.append_nil], fun _ => .inr (Nat.le_refl 0)⟩
  | append_singleton more event ih =>
      rw [List.foldl_append, List.foldl_cons, List.foldl_nil] at hopen ⊢
      have hmore := hx.continues more
      generalize more.foldl Attended.happen x = y at ih hopen hmore ⊢
      have hbefore := hmore.inOrder.launchCancelled event hopen
      obtain ⟨launched, rest, rfl, hlaunching, hcount⟩ := ih hbefore
      rw [List.countP_append, List.countP_singleton]
      rcases hlaunching.happen hmore.inOrder hopen with ⟨hsame, hearly⟩ | ⟨entry, rest, rfl, hnext⟩
      · refine ⟨launched, rest, rfl, hsame, fun hready => ?_⟩
        rcases hcount hready with hnone | hless
        · exact .inl hnone
        · cases hturn : event.isTurn with
          | false => exact .inr (by simpa [hturn] using hless)
          | true =>
              -- A turn for which nothing was ready, after all offsets: nothing was pending.
              refine .inl (List.head?_eq_none_iff.1 (Option.eq_none_iff_forall_not_mem.2 ?_))
              intro entry hentry
              have hpassed := hready entry (List.mem_append_right _ (List.mem_of_head? hentry))
              exact absurd (hearly hturn entry hentry) (Nat.not_lt.2 (hpassed.trans hmore.now_le))
      · refine ⟨launched ++ [entry], rest, by simp, by rwa [← List.append_assoc], fun hready => ?_⟩
        rcases hcount hready with hnone | hless
        · exact absurd hnone (List.cons_ne_nil _ _)
        · rw [List.length_append, List.length_singleton]
          split_ifs
          · exact .inr (Nat.succ_le_succ hless)
          · exact .inr (hless.trans (Nat.le_succ _))

/-! ## The timetable -/

/-- What a launch that began at an instant, and that nobody has cancelled, has come to. -/
structure KeepsTimetable (f : Fleet) (offsets : List Duration) (began : Instant) : Prop where
  /-- Every agent has the name and the profile of its number, and its offset has passed. -/
  launched : ∀ member ∈ f.cohort.members, ∃ offset profile,
    offsets[member.index]? = some offset ∧ began + offset ≤ f.site.now ∧
      member.agent.name = f.config.agentName member.index ∧
      f.config.profileFor member.index = .ok profile ∧
      member.agent.setup = f.config.setupFor member.index profile
  /-- Nobody is launched twice. -/
  nodup : f.numbers.Nodup
  /-- Those who were launched later have no smaller offsets. -/
  ordered : (f.numbers.map fun index => offsets.getD index 0).Pairwise (· ≤ ·)
  /-- The launch ends when all are launched. -/
  ended_iff : f.cohort.isLaunching = false ↔ f.IsLaunched
  /-- Until then the launcher is due at the offset of an agent that is not launched. -/
  due : f.cohort.isLaunching = true → ∃ index offset, index ∉ f.numbers ∧
    offsets[index]? = some offset ∧ f.cohort.launchDue? = some (began + offset)

/-- A fleet whose profiles are those of its configuration, one for each agent. -/
structure IsEquipped (f : Fleet) : Prop where
  length_eq : f.profiles.length = f.config.fleetSize
  profileFor_eq : ∀ index profile, f.profiles[index]? = some profile →
    f.config.profileFor index = .ok profile

theorem IsEquipped.congr (h : f.IsEquipped) (hconfig : later.config = f.config)
    (hprofiles : later.profiles = f.profiles) : later.IsEquipped := by
  constructor
  · rw [hprofiles, hconfig]
    exact h.length_eq
  · rw [hprofiles, hconfig]
    exact h.profileFor_eq

theorem launchPlan_congr (hconfig : later.config = f.config)
    (hprofiles : later.profiles = f.profiles) (offsets : List Duration) :
    later.launchPlan offsets = f.launchPlan offsets := by
  simp only [launchPlan, hconfig, hprofiles]

theorem Launching.numbers_eq (h : f.Launching began done pending) :
    f.numbers = done.map fun entry => entry.2.1 := by
  have hnumbers := congrArg (List.map Prod.fst) h.members_eq
  rwa [List.map_map, List.map_map] at hnumbers

theorem Launching.isLaunching_eq_false_iff (h : f.Launching began done pending) :
    f.cohort.isLaunching = false ↔ pending = [] := by
  obtain ⟨isDone, hlauncher, hdone⟩ := h.launcher_eq
  rw [Cohort.isLaunching, hlauncher, ← hdone]
  show (!isDone) = false ↔ isDone = true
  rw [Bool.not_eq_false']

theorem Launching.launched_eq (h : f.Launching began done pending) :
    f.launched = done.length := by
  have hmembers := congrArg List.length h.members_eq
  rwa [List.length_map, List.length_map] at hmembers

/-- The plan is of every agent once. -/
theorem perm_of_launchPlan_eq (hf : f.IsEquipped) (hplan : f.launchPlan offsets = done ++ pending)
    (hlength : offsets.length = f.config.fleetSize) :
    (done.map (fun entry => entry.2.1) ++ pending.map fun entry => entry.2.1).Perm
      (List.range f.config.fleetSize) := by
  have hperm := launchPlan_perm (hlength.trans hf.length_eq.symm)
  rwa [hplan, List.map_append, hlength] at hperm

/-- All agents of the plan are launched if and only if nothing is pending. -/
theorem Launching.isLaunched_iff (h : f.Launching began done pending) (hf : f.IsEquipped)
    (hplan : f.launchPlan offsets = done ++ pending)
    (hlength : offsets.length = f.config.fleetSize) :
    f.IsLaunched ↔ pending = [] := by
  have hperm := perm_of_launchPlan_eq hf hplan hlength
  rw [← h.numbers_eq] at hperm
  constructor
  · intro hall
    have hcount := hperm.length_eq.trans hall.length_eq.symm
    rw [List.length_append, List.length_map] at hcount
    exact List.length_eq_zero_iff.1 (by omega)
  · rintro rfl
    rwa [List.map_nil, List.append_nil] at hperm

/-- As many turns of the launcher as there are agents left launch all of them. -/
theorem Launching.all_launched (h : x.fleet.Launching began done pending)
    (hx : x.InOrder) (hf : x.fleet.IsEquipped)
    (hplan : x.fleet.launchPlan offsets = done ++ pending)
    (hlength : offsets.length = x.fleet.config.fleetSize)
    (hready : ∀ offset ∈ offsets, began + offset ≤ x.fleet.site.now)
    {more : List Attended.Event}
    (hopen : (more.foldl Attended.happen x).fleet.cohort.launchCancelled = false)
    (hturns : x.fleet.config.fleetSize ≤
      x.fleet.launched + more.countP Attended.Event.isTurn) :
    (more.foldl Attended.happen x).fleet.IsLaunched := by
  obtain ⟨launched, rest, rfl, hlater, hcount⟩ := h.run hx more hopen
  have hmore := hx.continues more
  have hparts : (more.foldl Attended.happen x).fleet.launchPlan offsets =
      done ++ launched ++ rest := by
    rw [launchPlan_congr hmore.config_eq hmore.profiles_eq, hplan, List.append_assoc]
  apply (hlater.isLaunched_iff (hf.congr hmore.config_eq hmore.profiles_eq) hparts
    (hlength.trans (congrArg _ hmore.config_eq.symm))).2
  have hpassed : ∀ entry ∈ launched ++ rest, began + entry.1 ≤ x.fleet.site.now := by
    intro entry hentry
    have hmem : entry ∈ x.fleet.launchPlan offsets := hplan ▸ List.mem_append_right _ hentry
    exact hready entry.1 (List.mem_of_getElem? (planned_of_mem hmem).1)
  rcases hcount hpassed with hnone | hless
  · exact hnone
  · -- There were turns for all that was left.
    have hsize := (perm_of_launchPlan_eq hf hplan hlength).length_eq
    rw [List.length_append, List.length_map, List.length_map, List.length_append,
      List.length_range] at hsize
    rw [h.launched_eq] at hturns
    exact List.length_eq_zero_iff.1 (by omega)

theorem Launching.keepsTimetable (h : f.Launching began done pending) (hf : f.IsEquipped)
    (hplan : f.launchPlan offsets = done ++ pending)
    (hlength : offsets.length = f.config.fleetSize) : f.KeepsTimetable offsets began := by
  have hplanned {entry : Duration × Nat × AgentSetup} (hentry : entry ∈ done ++ pending) :
      entry ∈ f.launchPlan offsets := hplan ▸ hentry
  have hnumbers := h.numbers_eq
  have hnodup := f.nodup_launchPlan offsets
  rw [hplan, List.map_append, ← hnumbers] at hnodup
  have hended := h.isLaunching_eq_false_iff
  refine
    { launched := ?_
      nodup := (List.nodup_append.1 hnodup).1
      ordered := ?_
      ended_iff := hended.trans (h.isLaunched_iff hf hplan hlength).symm
      due := ?_ }
  · intro member hmember
    have hentry : (member.index, member.agent.setup) ∈ done.map Prod.snd :=
      h.members_eq ▸ List.mem_map_of_mem hmember
    obtain ⟨⟨offset, index, setup⟩, hdone, heq⟩ := List.mem_map.1 hentry
    obtain ⟨rfl, rfl⟩ := Prod.mk.inj heq
    obtain ⟨hoffset, profile, hprofile, hsetup⟩ :=
      planned_of_mem (hplanned (List.mem_append_left _ hdone))
    exact ⟨offset, profile, hoffset, h.passed _ hdone, congrArg AgentSetup.name hsetup,
      hf.profileFor_eq _ _ hprofile, hsetup⟩
  · have hoffsets : f.numbers.map (fun index => offsets.getD index 0) =
        done.map Prod.fst := by
      rw [hnumbers, List.map_map]
      apply List.map_congr_left
      intro entry hentry
      obtain ⟨hoffset, -⟩ := planned_of_mem (hplanned (List.mem_append_left _ hentry))
      rw [Function.comp_apply, List.getD_eq_getElem?_getD, hoffset]
      rfl
    have hschedule := pairwise_launchSchedule offsets
    rw [← map_launchPlan (hlength.trans hf.length_eq.symm), hplan, List.pairwise_map] at hschedule
    rw [hoffsets, List.pairwise_map]
    refine (List.pairwise_append.1 hschedule).1.imp ?_
    rintro a b (hlt | ⟨heq, -⟩)
    · exact hlt.le
    · exact heq.le
  · intro hbusy
    cases pending with
    | nil => exact absurd ((hended.2 rfl).symm.trans hbusy) Bool.false_ne_true
    | cons entry rest =>
        obtain ⟨hoffset, -⟩ :=
          planned_of_mem (hplanned (List.mem_append_right _ List.mem_cons_self))
        refine ⟨entry.2.1, entry.1, ?_, hoffset, h.launchDue?_eq⟩
        intro hmem
        exact (List.nodup_append.1 hnodup).2.2 _ hmem _ List.mem_cons_self rfl

/-! ## The start -/

theorem Attended.happen_start (hfree : x.fleet.holdsLauncher = false) {draw : Nat → Duration}
    (hoffsets : x.fleet.offsets? draw = some offsets) :
    x.happen (.other (.start draw)) = { x with fleet := x.fleet.beginLaunch offsets } := by
  have hstart : x.fleet.start draw = .ok (x.fleet.beginLaunch offsets) := by
    rw [offsets?] at hoffsets
    simp only [Fleet.start, hfree, Bool.false_eq_true, if_false, hoffsets, Option.getD_some]
  simp only [Attended.happen, move, hoffsets, hstart]

/-- The start of a fleet begins its launch, with the whole plan pending. -/
theorem Attended.InOrder.start (hx : x.InOrder) (hfree : x.fleet.holdsLauncher = false)
    (hopen : x.fleet.cohort.launchCancelled = false) {draw : Nat → Duration}
    (hoffsets : x.fleet.offsets? draw = some offsets) :
    (x.happen (.other (.start draw))).fleet.Launching x.fleet.site.now []
      (x.fleet.launchPlan offsets) := by
  have hne : x.fleet.launchPlan offsets ≠ [] :=
    launchPlan_ne_nil hx.launches.profiles_ne (offsets_ne_nil hx.launches.size_ne hoffsets)
  have hmembers : x.fleet.cohort.members = [] := by
    have hpending := hx.launches.pending hopen
    cases hlauncher : x.fleet.cohort.launcher with
    | none => simpa only [hlauncher] using hpending
    | some launcher =>
        simp only [hlauncher] at hpending
        exact absurd (hfree.symm.trans hpending.1) Bool.false_ne_true
  rw [Attended.happen_start hfree hoffsets]
  refine ⟨hopen, ⟨false, rfl, by simp [hne]⟩, ?_, nofun⟩
  show x.fleet.cohort.members.map _ = []
  rw [hmembers, List.map_nil]

/-- A valid configuration has a fleet that is equipped. -/
theorem exists_isEquipped {c : FleetConfig} (h : c.validate = .ok ()) (site : Site) :
    ∃ f, create c site = .ok f ∧ f.config = c ∧ f.IsEquipped := by
  obtain ⟨-, -, -, -, -, hcreates⟩ := FleetConfig.launches_of_validate c h
  obtain ⟨f, hcreate, hprofiles⟩ := hcreates site
  obtain ⟨-, profiles, hlength, rfl⟩ := exists_of_create hcreate
  refine ⟨_, hcreate, rfl, hlength, ?_⟩
  intro index profile hprofile
  have hlt : index < c.fleetSize := hlength ▸ (List.getElem?_eq_some_iff.1 hprofile).1
  have hget := congrArg (fun results => results[index]?) hprofiles
  simp only [List.getElem?_map, List.getElem?_range hlt, Option.map_some] at hget
  rw [show profiles[index]? = some profile from hprofile] at hget
  exact (Option.some.inj hget).symm

/-- The launch of a valid configuration.

* With extra delays below the jitter, every agent has an offset: none passes the bound of durations,
  no number is cut off, no product stops at the bound, and an offset is the number times the stagger
  and what is drawn.
* However the events fall after a start, until launching is cancelled every agent is launched once,
  with the name and the profile of its number, not before its offset, and in the order of offsets.
* Once all offsets have passed, as many turns of the launcher as there are agents left launch all
  of them. -/
theorem launch_keeps_timetable (c : FleetConfig) (hvalid : c.validate = .ok ())
    (draw : Nat → Duration) (hdraw : c.DrawsBelow draw) (site : Site) :
    ∃ f offsets, create c site = .ok f ∧
      launchOffsets? c.fleetSize c.startStagger c.startJitter draw = some offsets ∧
      c.IsStaggered offsets ∧
      ∀ before after : List Attended.Event, (f.attend before).fleet.holdsLauncher = false →
        let began := (f.attend before).fleet.site.now
        let x := f.attend (before ++ .other (.start draw) :: after)
        x.fleet.cohort.launchCancelled = false →
          x.fleet.config = c ∧ x.fleet.KeepsTimetable offsets began ∧
          ∀ more : List Attended.Event,
            let later := (f.attend (before ++ .other (.start draw) :: after ++ more)).fleet
            later.cohort.launchCancelled = false →
            (∀ offset ∈ offsets, began + offset ≤ x.fleet.site.now) →
            c.fleetSize ≤ x.fleet.launched + more.countP Attended.Event.isTurn →
              later.IsLaunched := by
  obtain ⟨f, hcreate, rfl, hequipped⟩ := exists_isEquipped hvalid site
  obtain ⟨offsets, hoffsets, hstaggered⟩ := FleetConfig.exists_isStaggered hvalid hdraw
  refine ⟨f, offsets, hcreate, hoffsets, hstaggered, ?_⟩
  intro before after hfree began x hopen
  have hfirst := attend_inOrder hcreate []
  have hbefore : (f.attend []).Continues (f.attend before) := hfirst.continues before
  have hwhole : (f.attend []).Continues x := hfirst.continues _
  -- The launch is followed from the start on, with the whole plan pending; nothing that happened
  -- before has changed the plan.
  let y := (f.attend before).happen (.other (.start draw))
  have hy : y.InOrder := hbefore.inOrder.happen _
  have hrun : x = after.foldl Attended.happen y := attend_append f before _
  have hstarted : y.fleet.cohort.launchCancelled = false :=
    (hy.continues after).opened (hrun ▸ hopen)
  have hlaunching : y.fleet.Launching began [] ((f.attend before).fleet.launchPlan offsets) := by
    apply hbefore.inOrder.start hfree (hbefore.inOrder.launchCancelled _ hstarted)
    rw [offsets?, hbefore.config_eq]
    exact hoffsets
  obtain ⟨done, pending, hparts, hlater, -⟩ := hlaunching.run hy after (hrun ▸ hopen)
  rw [← hrun, List.nil_append] at hlater
  have hplan : x.fleet.launchPlan offsets = done ++ pending := by
    rw [launchPlan_congr hwhole.config_eq hwhole.profiles_eq, ← hparts]
    exact (launchPlan_congr hbefore.config_eq hbefore.profiles_eq offsets).symm
  have hconfig : x.fleet.config = f.config := hwhole.config_eq
  have hx : x.fleet.IsEquipped := hequipped.congr hconfig hwhole.profiles_eq
  have hlength : offsets.length = x.fleet.config.fleetSize := hconfig ▸ hstaggered.length_eq
  refine ⟨hconfig, hlater.keepsTimetable hx hplan hlength, ?_⟩
  intro more later hlast hready hturns
  have hmore : later = (more.foldl Attended.happen x).fleet :=
    congrArg Attended.fleet (attend_append f _ more)
  rw [hmore]
  exact hlater.all_launched hwhole.inOrder hx hplan hlength hready (hmore ▸ hlast)
    (hconfig ▸ hturns)

/-- Two agents, of which the first is delayed beyond the second: the second is launched first, and
the next turn of the launcher, when both offsets have passed, launches the first. -/
theorem launches_second_agent_first :
    let c : FleetConfig := { fleetSize := 2, startJitterMillis := 50 }
    let draw : Nat → Duration := fun index => if index = 0 then .ofMillis 45 else 0
    let offsets : List Duration := [.ofMillis 45, .ofMillis 20]
    let turn : Attended.Event := .other .launch
    let waits (instant : Instant) : Attended.Event := .other (.wait instant)
    let after : List Attended.Event :=
      [turn, waits (Duration.ofMillis 20), turn, turn, waits (Duration.ofMillis 45)]
    let events : List Attended.Event := .other (.start draw) :: after
    c.validate = .ok () ∧ c.DrawsBelow draw ∧
      ∃ f, create c (.create (.empty 0) ⟨0, 0⟩) = .ok f ∧ c.IsStaggered offsets ∧
        (f.attend events).fleet.numbers = [1] ∧
        (f.attend events).fleet.KeepsTimetable offsets 0 ∧
        (f.attend (events ++ [turn])).fleet.IsLaunched := by
  intro c draw offsets turn waits after events
  have hvalid : c.validate = .ok () := FleetConfig.validate_eq_ok (by decide +kernel)
  have hdraw : c.DrawsBelow draw := by
    intro index hspan
    have hfirst : Duration.ofMillis 45 < jitterSpan c.startJitter := by decide
    show (if index = 0 then Duration.ofMillis 45 else 0) < _
    split_ifs
    · exact hfirst
    · exact Nat.pos_of_ne_zero hspan
  have hoffsets : launchOffsets? c.fleetSize c.startStagger c.startJitter draw = some offsets := by
    decide +kernel
  -- The schedule is sorted here: its sort is by a recursion that does not compute below.
  have hschedule : launchSchedule offsets =
      [(Duration.ofMillis 20, 1), (Duration.ofMillis 45, 0)] := by
    simp [launchSchedule, launchesBefore, offsets, List.mergeSort, Duration.ofMillis,
      Duration.millisecond]
  let started (f : Fleet) : Attended :=
    let pending := [(Duration.ofMillis 20, 1), (Duration.ofMillis 45, 0)].filterMap
      fun entry => (f.profiles[entry.2]?).map fun profile =>
        (entry.1, entry.2, f.config.setupFor entry.2 profile)
    let site := f.cohort.site.note (.fleetStarted version f.config.fleetSize)
    let launcher : Launcher := { began := site.now, pending, isDone := false }
    { fleet := { f with holdsLauncher := true, cohort := { f.cohort with site, launcher } }
      calls := fun _ => []
      shutdowns := [] }
  have hchecked : (create c (.create (.empty 0) ⟨0, 0⟩)).toOption.any (fun f =>
      let x := (after.foldl Attended.happen (started f)).fleet
      let later := ((after ++ [turn]).foldl Attended.happen (started f)).fleet
      decide (f.holdsLauncher = false) && decide (f.site.now = 0) &&
        decide (f.offsets? draw = some offsets) &&
        decide (x.cohort.launchCancelled = false) && decide (x.numbers = [1]) &&
        decide (x.site.now = Duration.ofMillis 45) && decide (x.launched = 1) &&
        decide (later.cohort.launchCancelled = false)) = true := by
    decide +kernel
  obtain ⟨f, hcreate, hfleet⟩ := exists_create_of_any hchecked
  simp only [Bool.and_eq_true, decide_eq_true_eq] at hfleet
  obtain ⟨⟨⟨⟨⟨⟨⟨hfree, hbegan⟩, hdrawn⟩, hopen⟩, hnumbers⟩, hnow⟩, hlaunched⟩, hlast⟩ := hfleet
  have hrun (more : List Attended.Event) :
      f.attend (.other (.start draw) :: more) = more.foldl Attended.happen (started f) := by
    show more.foldl _ ((f.attend []).happen _) = _
    rw [Attended.happen_start (x := f.attend []) hfree hdrawn, beginLaunch, launchPlan, hschedule]
    rfl
  obtain ⟨g, offsets', hcreate', hoffsets', hstaggered, hruns⟩ :=
    launch_keeps_timetable c hvalid draw hdraw (.create (.empty 0) ⟨0, 0⟩)
  obtain rfl := Except.ok.inj (hcreate.symm.trans hcreate')
  obtain rfl := Option.some.inj (hoffsets.symm.trans hoffsets')
  rw [← hrun] at hopen hnumbers hnow hlaunched hlast
  obtain ⟨-, hkeeps, hmore⟩ := hruns [] after hfree hopen
  have hpassed : ∀ offset ∈ offsets, f.site.now + offset ≤ (f.attend events).fleet.site.now := by
    rw [hbegan, hnow]
    decide
  have hturns : c.fleetSize ≤
      (f.attend events).fleet.launched + [turn].countP Attended.Event.isTurn := by
    rw [hlaunched]
    decide
  exact ⟨hvalid, hdraw, f, hcreate, hstaggered, hnumbers, hbegan ▸ hkeeps,
    hmore [turn] hlast hpassed hturns⟩

end Fleet

end NodeFleet
