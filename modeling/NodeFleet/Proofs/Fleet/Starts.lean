import NodeFleet.Proofs.Fleet.Calls

/-!
# Starts of a fleet

A start is refused exactly while the launcher of an earlier one is held.  A shutdown lets go
of the launcher once it has ended, and from then on a start is answered as the first one was.
But launching stays cancelled, so the launcher that it begins launches nothing: the answer
says that the fleet was started, and no agent is.

A `Chronicle` is a fleet that is called at any time, with the marks that starts and shutdowns
leave.  What one event does to the launcher, to the cancellation and to the numbers of the
launched agents is `Passes`; the rest is a matter of marks.  A start that has to wait while a
shutdown is looking at the launcher counts as made when the shutdown lets it.
-/

namespace NodeFleet

/-! ## The offsets of a valid configuration -/

namespace FleetConfig

variable {c : FleetConfig}

theorem startStagger_le (h : c.validate = .ok ()) : c.startStagger ≤ maxInterval :=
  boundedOptions_of_validate h ("start_stagger_millis", c.startStagger) (by
    simp [boundedOptions, startStagger])

theorem startJitter_le (h : c.validate = .ok ()) : c.startJitter ≤ maxInterval :=
  boundedOptions_of_validate h ("start_jitter_millis", c.startJitter) (by
    simp [boundedOptions, startJitter])

/-- An agent's offset does not pass the bound of durations. -/
theorem exists_launchOffset (h : c.validate = .ok ()) (index : Nat) {extra : Duration}
    (hextra : extra ≤ c.startJitter) :
    ∃ offset, launchOffset? c.startStagger index extra = some offset := by
  have hstagger : c.startStagger * min index (2 ^ 32 - 1) ≤ maxInterval * (2 ^ 32 - 1) :=
    Nat.mul_le_mul (startStagger_le h) (Nat.min_le_right _ _)
  have hsum : Duration.scaleSaturating c.startStagger (min index (2 ^ 32 - 1)) + extra ≤
      Duration.max := calc
    _ ≤ maxInterval * (2 ^ 32 - 1) + maxInterval :=
      Nat.add_le_add ((Nat.min_le_left _ _).trans hstagger) (hextra.trans (startJitter_le h))
    _ ≤ Duration.max := by decide
  exact ⟨_, if_pos hsum⟩

theorem exists_launchOffsets (h : c.validate = .ok ()) {draw : Nat → Duration}
    (hdraw : ∀ index, draw index ≤ c.startJitter) :
    ∃ offsets, launchOffsets? c.fleetSize c.startStagger c.startJitter draw = some offsets := by
  unfold launchOffsets?
  induction List.range c.fleetSize with
  | nil => exact ⟨[], rfl⟩
  | cons index rest ih =>
      obtain ⟨offsets, hoffsets⟩ := ih
      have hextra : (if jitterSpan c.startJitter = 0 then 0 else draw index) ≤ c.startJitter := by
        split_ifs
        · exact Nat.zero_le _
        · exact hdraw index
      obtain ⟨offset, hoffset⟩ := exists_launchOffset h index hextra
      refine ⟨offset :: offsets, ?_⟩
      rw [List.mapM_cons, hoffset, hoffsets]
      rfl

end FleetConfig

namespace Fleet

theorem create_eq_ok {config : FleetConfig} {site : Site} {f : Fleet}
    (h : create config site = .ok f) :
    config.validate = .ok () ∧ f.config = config ∧ f.holdsLauncher = false := by
  obtain ⟨hvalid, profiles, -, rfl⟩ := exists_of_create h
  exact ⟨hvalid, rfl, rfl⟩

/-! ## Marks -/

/-- What a start or a shutdown leaves. -/
inductive Mark where
  /-- A start was answered that the fleet is started. -/
  | started
  | refused (error : FleetError)
  /-- A shutdown has cancelled the launch. -/
  | cancelled
  /-- A shutdown has waited for the launcher and let go of it. -/
  | released

deriving instance DecidableEq for ConfigError, FleetError, Mark

namespace Mark

def isStarted : Mark → Bool
  | .started => true
  | _ => false

def isReleased : Mark → Bool
  | .released => true
  | _ => false

/-- Whether a launcher is held after a mark, if it is known whether one was held before. -/
def leaves (held : Bool) : Mark → Bool
  | .started => true
  | .released => false
  | _ => held

end Mark

/-- Whether the fleet was started since a shutdown last let go of the launcher; the last mark
comes first. -/
def isHeld : List Mark → Bool
  | [] => false
  | mark :: earlier => mark.leaves (isHeld earlier)

/-- The mark that an event leaves. -/
def Attended.mark? (x : Attended) : Attended.Event → Option Mark
  | .other (.start draw) =>
      match x.fleet.offsets? draw, x.fleet.start draw with
      | some _, .ok _ => some .started
      | some _, .error error => some (.refused error)
      | none, _ => none
  | .advance caller =>
      match x.shutdowns[caller]? with
      | some .called => some .cancelled
      | some .cancelled =>
          if x.fleet.holdsLauncher && x.fleet.cohort.isLaunching then none else some .released
      | _ => none
  | _ => none

/-! ## What an event does to the launch -/

/-- The numbers of the launched agents, in the order of their launch. -/
def numbers (f : Fleet) : List Nat := f.cohort.members.map Member.index

/-- What an event that leaves a mark, or none, does to the launch of a fleet. -/
structure Passes (f later : Fleet) (mark : Option Mark) : Prop where
  config_eq : later.config = f.config
  held : later.holdsLauncher = mark.elim f.holdsLauncher (Mark.leaves f.holdsLauncher)
  cancelled : later.cohort.launchCancelled = true ↔
    f.cohort.launchCancelled = true ∨ mark = some .cancelled
  /-- Agents are launched only while launching is not cancelled. -/
  enlisted : ∃ added, later.numbers = f.numbers ++ added ∧
    (f.cohort.launchCancelled = true → added = [])

section Passes

variable {f later : Fleet}

theorem Passes.of_eq (hconfig : later.config = f.config)
    (hheld : later.holdsLauncher = f.holdsLauncher)
    (hcancelled : later.cohort.launchCancelled = f.cohort.launchCancelled)
    (hnumbers : later.numbers = f.numbers) : Passes f later none :=
  { config_eq := hconfig
    held := hheld
    cancelled := by simp [hcancelled]
    enlisted := ⟨[], by rw [hnumbers, List.append_nil], fun _ => rfl⟩ }

theorem Passes.refl (f : Fleet) : Passes f f none := .of_eq rfl rfl rfl rfl

/-- A refusal changes nothing. -/
theorem Passes.refuse (f : Fleet) (error : FleetError) : Passes f f (some (.refused error)) :=
  { config_eq := rfl
    held := rfl
    cancelled := by simp
    enlisted := ⟨[], (List.append_nil _).symm, fun _ => rfl⟩ }

theorem Passes.setAgent (f : Fleet) (position : Nat) (agent : Agent) (site : Site) :
    Passes f (f.setAgent position agent site) none := by
  refine .of_eq rfl rfl rfl ?_
  cases hmember : f.cohort.members[position]? with
  | none =>
      have hbeyond : f.cohort.members.length ≤ position := List.getElem?_eq_none_iff.1 hmember
      simp only [numbers, Fleet.setAgent, Cohort.setAgent, List.modify_eq_self hbeyond]
  | some member =>
      rw [numbers, Fleet.setAgent, Cohort.setAgent_eq hmember]
      exact Cohort.map_set_of_eq hmember rfl

theorem start_eq_ok {draw : Nat → Duration} (h : f.start draw = .ok later) :
    f.holdsLauncher = false ∧ Passes f later (some .started) := by
  unfold start at h
  split_ifs at h with hheld
  obtain rfl := Except.ok.inj h
  refine ⟨Bool.eq_false_iff.2 hheld, rfl, rfl, ?_, [], (List.append_nil _).symm, fun _ => rfl⟩
  simp [beginLaunch]

theorem start_eq_error {draw : Nat → Duration} {error : FleetError}
    (h : f.start draw = .error error) : f.holdsLauncher = true ∧ error = .alreadyStarted := by
  unfold start at h
  split_ifs at h with hheld
  exact ⟨hheld, (Except.error.inj h).symm⟩

theorem Launches.passes_launch (h : f.Launches) {due : Instant}
    (hdue : f.cohort.launchDue? = some due) :
    Passes f { f with cohort := f.cohort.perform .launch } none := by
  have hstep := h.perform_launch hdue
  -- While an agent is launched, launching is not cancelled.
  have henlist {index : Nat} {setup : AgentSetup} {cohort : Cohort}
      (hopen : f.cohort.launchCancelled = false)
      (hcancelled : cohort.launchCancelled = f.cohort.launchCancelled)
      (hmembers : cohort.members = f.cohort.members ++ [⟨index, .create setup⟩]) :
      Passes f { f with cohort } none := by
    refine ⟨rfl, rfl, by simp [hcancelled], [index], ?_, fun hclosed => ?_⟩
    · simp only [numbers, hmembers, List.map_append, List.map_cons, List.map_nil]
    · exact absurd (hopen.symm.trans hclosed) (by decide)
  generalize f.cohort.perform .launch = cohort at hstep
  cases hstep with
  | ended hlauncher hbusy hcancelled => exact .of_eq rfl rfl rfl rfl
  | launched hlauncher hbusy hopen hplan hmore => exact henlist hopen rfl rfl
  | completed hlauncher hbusy hopen hplan => exact henlist hopen rfl rfl

theorem Attended.InOrder.passes_other {x : Attended} (h : x.InOrder) (m : Move) :
    Passes x.fleet (x.fleet.move m) (x.mark? (.other m)) := by
  cases m with
  | start draw =>
      cases hoffsets : x.fleet.offsets? draw with
      | none =>
          simp only [move, mark?, hoffsets]
          exact .refl x.fleet
      | some offsets =>
          cases hstart : x.fleet.start draw with
          | error error =>
              simp only [move, mark?, hoffsets, hstart]
              exact .refuse x.fleet error
          | ok later =>
              simp only [move, mark?, hoffsets, hstart]
              exact (start_eq_ok hstart).2
  | launch =>
      simp only [move, mark?]
      split_ifs with hready
      · obtain ⟨due, hdue, -⟩ := (Option.any_eq_true _ _).1 hready
        exact h.launches.passes_launch hdue
      · exact .refl x.fleet
  | act position actor =>
      simp only [move, mark?]
      split_ifs with hready
      · cases hmember : x.fleet.cohort.members[position]? with
        | none =>
            simp only [Cohort.perform, hmember]
            exact .refl x.fleet
        | some member =>
            simp only [Cohort.perform, hmember]
            exact .setAgent x.fleet position _ _
      · exact .refl x.fleet
  | wait instant => exact .of_eq rfl rfl rfl rfl
  | control plane => exact .of_eq rfl rfl rfl rfl
  | submit name workload request =>
      simp only [move, mark?, Fleet.submit]
      cases x.fleet.agent name with
      | error error => exact .refl x.fleet
      | ok found => exact .setAgent x.fleet _ _ _
  | release name workload =>
      simp only [move, mark?, Fleet.release]
      cases x.fleet.agent name with
      | error error => exact .refl x.fleet
      | ok found => exact .setAgent x.fleet _ _ _

theorem Attended.passes_advance (x : Attended) (caller : Nat) :
    Passes x.fleet (x.advance caller).fleet (x.mark? (.advance caller)) := by
  cases hstage : x.shutdowns[caller]? with
  | none =>
      simp only [advance, mark?, hstage]
      exact .refl x.fleet
  | some stage =>
      cases stage with
      | called =>
          simp only [advance, mark?, hstage]
          exact ⟨rfl, rfl, by simp, [], (List.append_nil _).symm, fun _ => rfl⟩
      | cancelled =>
          simp only [advance, mark?, hstage]
          split_ifs
          · exact .refl x.fleet
          · exact ⟨rfl, rfl, by simp, [], (List.append_nil _).symm, fun _ => rfl⟩
      | stopping own =>
          simp only [advance, mark?, hstage]
          split
          · exact .of_eq rfl rfl rfl rfl
          · exact .refl x.fleet
      | _ =>
          simp only [advance, mark?, hstage]
          exact .of_eq rfl rfl rfl rfl

theorem Attended.InOrder.passes {x : Attended} (h : x.InOrder) (event : Attended.Event) :
    Passes x.fleet (x.happen event).fleet (x.mark? event) := by
  cases event with
  | other m => exact h.passes_other m
  | stop position =>
      simp only [Attended.happen, mark?]
      split_ifs <;> exact .refl x.fleet
  | proceed position caller =>
      simp only [Attended.happen, mark?]
      split
      · exact .setAgent x.fleet _ _ _
      · exact .refl x.fleet
  | shutdown => exact .refl x.fleet
  | advance caller => exact x.passes_advance caller

end Passes

/-! ## Chronicles -/

/-- Which marks can be left, by whether a launcher is held and launching is cancelled. -/
def Mark.Fits (held cancelled : Bool) : Mark → Prop
  | .started => held = false
  | .refused error => held = true ∧ error = .alreadyStarted
  | .cancelled => True
  | .released => cancelled = true

/-- What the marks say of the launch, and of one another. -/
structure Consistent (held cancelled : Bool) (marks : List Mark) : Prop where
  held_eq : held = isHeld marks
  cancelled_iff : cancelled = true ↔ .cancelled ∈ marks
  refused : ∀ error, .refused error ∈ marks → error = .alreadyStarted
  /-- Every start of the fleet but the last has a release of its own. -/
  paced : marks.countP Mark.isStarted ≤ marks.countP Mark.isReleased + held.toNat
  released : 0 < marks.countP Mark.isReleased → cancelled = true

theorem Consistent.nil : Consistent false false [] :=
  ⟨rfl, by simp, nofun, Nat.le_refl 0, fun h => absurd h (Nat.lt_irrefl 0)⟩

theorem Consistent.cons {held cancelled later : Bool} {marks : List Mark} {mark : Mark}
    (h : Consistent held cancelled marks) (hfits : mark.Fits held cancelled)
    (hlater : later = true ↔ cancelled = true ∨ mark = .cancelled) :
    Consistent (mark.leaves held) later (mark :: marks) := by
  have hheld : mark.leaves held = isHeld (mark :: marks) := by rw [isHeld, h.held_eq]
  have hmem : later = true ↔ .cancelled ∈ mark :: marks := by
    rw [hlater, h.cancelled_iff, List.mem_cons, or_comm, eq_comm]
  have hpaced := h.paced
  have hkept : 0 < marks.countP Mark.isReleased → later = true :=
    fun hsome => hlater.2 (.inl (h.released hsome))
  cases mark with
  | started =>
      -- No launcher is held, so every earlier start has had its release.
      obtain rfl : held = false := hfits
      refine ⟨hheld, hmem, by simpa using h.refused, ?_, by simpa [Mark.isReleased] using hkept⟩
      simpa [List.countP_cons, Mark.isStarted, Mark.isReleased, Mark.leaves] using hpaced
  | refused error =>
      obtain ⟨-, rfl⟩ := hfits
      refine ⟨hheld, hmem, fun error herror => ?_, ?_, by simpa [Mark.isReleased] using hkept⟩
      · rcases List.mem_cons.1 herror with heq | hearlier
        · exact Mark.refused.inj heq
        · exact h.refused error hearlier
      · simpa [Mark.isStarted, Mark.isReleased, Mark.leaves] using hpaced
  | cancelled =>
      refine ⟨hheld, hmem, by simpa using h.refused, ?_, fun _ => hlater.2 (.inr rfl)⟩
      simpa [Mark.isStarted, Mark.isReleased, Mark.leaves] using hpaced
  | released =>
      obtain rfl : cancelled = true := hfits
      refine ⟨hheld, hmem, by simpa using h.refused, ?_, fun _ => hlater.2 (.inl rfl)⟩
      have hone : held.toNat ≤ 1 := Bool.toNat_le held
      simp only [List.countP_cons, Mark.isStarted, Mark.isReleased, Mark.leaves, Bool.toNat_false,
        Bool.false_eq_true, if_false, if_true]
      omega

/-- Only marks that fit are left. -/
theorem Attended.InOrder.mark?_fits {x : Attended} (h : x.InOrder) {event : Attended.Event}
    {mark : Mark} (hmark : x.mark? event = some mark) :
    mark.Fits x.fleet.holdsLauncher x.fleet.cohort.launchCancelled := by
  unfold mark? at hmark
  split at hmark
  · split at hmark
    · obtain rfl := Option.some.inj hmark
      exact (start_eq_ok ‹_›).1
    · obtain rfl := Option.some.inj hmark
      exact start_eq_error ‹_›
    · cases hmark
  · split at hmark
    · obtain rfl := Option.some.inj hmark
      trivial
    · rename_i hstage
      split_ifs at hmark
      obtain rfl := Option.some.inj hmark
      exact h.cancelled_at hstage nofun
    · cases hmark
  · cases hmark

/-- A fleet that is called at any time, with the marks that were left, the last first. -/
structure Chronicle where
  attended : Attended
  marks : List Mark

namespace Chronicle

/-- Lets something happen. -/
def happen (c : Chronicle) (event : Attended.Event) : Chronicle :=
  { attended := c.attended.happen event, marks := (c.attended.mark? event).toList ++ c.marks }

/-- What holds of a chronicle at any time. -/
structure Sound (config : FleetConfig) (c : Chronicle) : Prop where
  inOrder : c.attended.InOrder
  config_eq : c.attended.fleet.config = config
  consistent : Consistent c.attended.fleet.holdsLauncher
    c.attended.fleet.cohort.launchCancelled c.marks

theorem Sound.happen {config : FleetConfig} {c : Chronicle} (h : c.Sound config)
    (event : Attended.Event) : (c.happen event).Sound config := by
  have hpasses := h.inOrder.passes event
  refine ⟨h.inOrder.happen event, hpasses.config_eq.trans h.config_eq, ?_⟩
  show Consistent (c.attended.happen event).fleet.holdsLauncher
    (c.attended.happen event).fleet.cohort.launchCancelled
    ((c.attended.mark? event).toList ++ c.marks)
  rw [hpasses.held]
  have hcancelled := hpasses.cancelled
  cases hmark : c.attended.mark? event with
  | none =>
      have hsame : (c.attended.happen event).fleet.cohort.launchCancelled =
          c.attended.fleet.cohort.launchCancelled := by
        rw [Bool.eq_iff_iff, hcancelled, hmark]
        simp
      rw [hsame]
      exact h.consistent
  | some mark =>
      rw [hmark, Option.some.injEq] at hcancelled
      exact h.consistent.cons (h.inOrder.mark?_fits hmark) hcancelled

end Chronicle

/-- Lets things happen to a fleet, one after the other. -/
def chronicle (f : Fleet) (events : List Attended.Event) : Chronicle :=
  events.foldl Chronicle.happen { attended := f.attend [], marks := [] }

theorem chronicle_append (f : Fleet) (events later : List Attended.Event) :
    f.chronicle (events ++ later) = later.foldl Chronicle.happen (f.chronicle events) :=
  List.foldl_append

namespace Chronicle

variable {config : FleetConfig} {c : Chronicle}

/-- As things happen, agents are only added, and none is once launching is cancelled. -/
theorem Sound.run (h : c.Sound config) (events : List Attended.Event) :
    (events.foldl Chronicle.happen c).Sound config ∧
      ∃ added, (events.foldl Chronicle.happen c).attended.fleet.numbers =
        c.attended.fleet.numbers ++ added ∧ (.cancelled ∈ c.marks → added = []) := by
  induction events generalizing c with
  | nil => exact ⟨h, [], (List.append_nil _).symm, fun _ => rfl⟩
  | cons event events ih =>
      obtain ⟨first, hfirst, hclosed⟩ := (h.inOrder.passes event).enlisted
      obtain ⟨hsound, rest, hrest, hlater⟩ := ih (h.happen event)
      refine ⟨hsound, first ++ rest, ?_, fun hmem => ?_⟩
      · calc _ = (c.attended.happen event).fleet.numbers ++ rest := hrest
          _ = c.attended.fleet.numbers ++ (first ++ rest) := by rw [hfirst, List.append_assoc]
      · have hstill : .cancelled ∈ (c.happen event).marks := List.mem_append_right _ hmem
        rw [hclosed (h.consistent.cancelled_iff.2 hmem), hlater hstill, List.append_nil]

/-- The fleet can be started exactly while no launcher is held. -/
theorem Sound.mark?_start (h : c.Sound config) (hvalid : config.validate = .ok ())
    {draw : Nat → Duration} (hdraw : ∀ index, draw index ≤ config.startJitter) :
    c.attended.mark? (.other (.start draw)) =
      some (if isHeld c.marks then .refused .alreadyStarted else .started) := by
  obtain ⟨offsets, hoffsets⟩ : ∃ offsets, c.attended.fleet.offsets? draw = some offsets := by
    rw [offsets?, h.config_eq]
    exact FleetConfig.exists_launchOffsets hvalid hdraw
  rw [← h.consistent.held_eq, Attended.mark?, hoffsets]
  cases hstart : c.attended.fleet.start draw with
  | error error =>
      obtain ⟨hheld, rfl⟩ := start_eq_error hstart
      rw [if_pos hheld]
  | ok fleet =>
      have hfree : ¬ c.attended.fleet.holdsLauncher = true := by simp [(start_eq_ok hstart).1]
      rw [if_neg hfree]

end Chronicle

theorem chronicle_sound {config : FleetConfig} {site : Site} {f : Fleet}
    (hcreate : create config site = .ok f) (events : List Attended.Event) :
    (f.chronicle events).Sound config := by
  obtain ⟨-, hconfig, hfree⟩ := create_eq_ok hcreate
  obtain ⟨-, hopen, -⟩ := launches_create hcreate
  have hfirst : (f.chronicle []).Sound config := by
    refine ⟨attend_inOrder hcreate [], hconfig, ?_⟩
    show Consistent f.holdsLauncher f.cohort.launchCancelled []
    rw [hfree, hopen]
    exact .nil
  exact (hfirst.run events).1

/-- When a fleet is started, and what that is worth.

* A start is answered by the marks: it is refused as already started exactly if the fleet was
  started since a shutdown last let go of the launcher, and a refused start changes nothing.
* So between two starts of the fleet a shutdown lets go of the launcher, and until there is a
  shutdown the fleet is started once at most.
* No number is launched twice, however often the fleet is started, and none is once a shutdown
  has cancelled the launch. -/
theorem starts_answered {config : FleetConfig} {site : Site} {f : Fleet}
    (hcreate : create config site = .ok f) (events : List Attended.Event) :
    let c := f.chronicle events
    (∀ draw, (∀ index, draw index ≤ config.startJitter) →
        c.attended.mark? (.other (.start draw)) =
          some (if isHeld c.marks then .refused .alreadyStarted else .started)) ∧
      (∀ draw, isHeld c.marks = true → c.attended.happen (.other (.start draw)) = c.attended) ∧
      (∀ error, .refused error ∈ c.marks → error = .alreadyStarted) ∧
      c.marks.countP Mark.isStarted ≤ c.marks.countP Mark.isReleased + 1 ∧
      (.cancelled ∉ c.marks → c.marks.countP Mark.isStarted ≤ 1) ∧
      c.attended.fleet.numbers.Nodup ∧
      ∀ later, ∃ added, (f.chronicle (events ++ later)).attended.fleet.numbers =
        c.attended.fleet.numbers ++ added ∧ (.cancelled ∈ c.marks → added = []) := by
  intro c
  obtain ⟨hvalid, -, -⟩ := create_eq_ok hcreate
  have h : c.Sound config := chronicle_sound hcreate events
  have hpaced := h.consistent.paced
  have hone : c.attended.fleet.holdsLauncher.toNat ≤ 1 := Bool.toNat_le _
  refine ⟨fun draw hdraw => h.mark?_start hvalid hdraw, fun draw hheld => ?_,
    h.consistent.refused, by omega, fun hopen => ?_, h.inOrder.launches.distinct, fun later => ?_⟩
  · rw [← h.consistent.held_eq] at hheld
    have hrefused : c.attended.fleet.start draw = .error .alreadyStarted := if_pos hheld
    simp only [Attended.happen, move, hrefused]
    cases c.attended.fleet.offsets? draw <;> rfl
  · have hnone : c.marks.countP Mark.isReleased = 0 := by
      by_contra hsome
      exact hopen (h.consistent.cancelled_iff.1 (h.consistent.released (by omega)))
    omega
  · rw [chronicle_append]
    exact (h.run later).2

/-- A fleet that is started and shut down answers the next start as it answered the first one, and
refuses the one after that; no agent is launched. -/
theorem starts_answered_after_shutdown :
    let config : FleetConfig := { fleetSize := 1 }
    let start : Attended.Event := .other (.start fun _ => 0)
    let launch : Attended.Event := .other .launch
    let events : List Attended.Event :=
      [start, .shutdown, .advance 0, launch, .advance 0, .advance 0, .advance 0, .advance 0]
    ∃ f, create config (.create (.empty 0) ⟨0, 0⟩) = .ok f ∧
      (f.chronicle events).attended.mark? start = some .started ∧
      (f.chronicle (events ++ [start])).attended.mark? start =
        some (.refused .alreadyStarted) ∧
      (f.chronicle (events ++ [start, launch])).attended.fleet.numbers =
        (f.chronicle events).attended.fleet.numbers := by
  intro config start launch events
  have hchecked : (create config (.create (.empty 0) ⟨0, 0⟩)).toOption.any (fun f =>
      decide ((f.chronicle events).marks = [.released, .cancelled, .started]) &&
        isHeld (f.chronicle (events ++ [start])).marks) = true := by decide +kernel
  obtain ⟨f, hcreate, hrun⟩ := exists_create_of_any hchecked
  obtain ⟨hmarked, hheld⟩ := Bool.and_eq_true_iff.1 hrun
  have hmarks : (f.chronicle events).marks = [.released, .cancelled, .started] :=
    of_decide_eq_true hmarked
  have hdraw : ∀ index : Nat, (fun _ => 0 : Nat → Duration) index ≤ config.startJitter :=
    fun _ => Nat.zero_le _
  have hmem : .cancelled ∈ (f.chronicle events).marks := by
    rw [hmarks]
    exact List.mem_cons_of_mem _ List.mem_cons_self
  obtain ⟨hstart, -, -, -, -, -, hlater⟩ := starts_answered hcreate events
  obtain ⟨hagain, -⟩ := starts_answered hcreate (events ++ [start])
  obtain ⟨added, hnumbers, hnone⟩ := hlater [start, launch]
  refine ⟨f, hcreate, ?_, ?_, ?_⟩
  · rw [hstart _ hdraw, hmarks]
    rfl
  · rw [hagain _ hdraw, if_pos hheld]
  · rw [hnumbers, hnone hmem, List.append_nil]

/-- A fleet that is started, shut down and started again is started twice, the second time after
the shutdown, and launches no agent. -/
theorem started_twice :
    let config : FleetConfig := { fleetSize := 1 }
    let start : Attended.Event := .other (.start fun _ => 0)
    let launch : Attended.Event := .other .launch
    let events : List Attended.Event :=
      [start, .shutdown, .advance 0, launch, .advance 0, .advance 0, .advance 0, .advance 0, start,
        launch]
    ∃ f, create config (.create (.empty 0) ⟨0, 0⟩) = .ok f ∧
      (f.chronicle events).marks = [.started, .released, .cancelled, .started] ∧
      (f.chronicle events).attended.fleet.numbers = [] := by
  intro config start launch events
  have hchecked : (create config (.create (.empty 0) ⟨0, 0⟩)).toOption.any (fun f =>
      decide ((f.chronicle events).marks = [.started, .released, .cancelled, .started]) &&
        decide ((f.chronicle events).attended.fleet.numbers = [])) = true := by decide +kernel
  obtain ⟨f, hcreate, hrun⟩ := exists_create_of_any hchecked
  obtain ⟨hmarks, hnumbers⟩ := Bool.and_eq_true_iff.1 hrun
  exact ⟨f, hcreate, of_decide_eq_true hmarks, of_decide_eq_true hnumbers⟩

end Fleet

end NodeFleet
