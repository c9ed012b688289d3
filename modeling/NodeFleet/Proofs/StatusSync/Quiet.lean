import NodeFleet.Proofs.Agent.Metering
import NodeFleet.Proofs.Condition.Statuses
import NodeFleet.Proofs.StatusSync.Run

/-!
# The beat of a quiet agent

While no status changes and every publication is accepted at once, the status of a node is
published once in every maximal interval and not more often: at `anchor`, one maximal interval
later, and so on.  The ticks of the loop lie on another grid, with the minimal interval as its
step, and the two grids need not meet again.

A resting loop wakes at the next tick or at the next beat, whichever is earlier
(`Resting.due_eq`).  What it last published has the statuses that it finds, so it publishes
exactly if its last success is stale, and that is the case at the beat and not before.
-/

namespace NodeFleet.StatusSync

/-! ## Quiet surroundings -/

/-- What a step finds while nothing happens: the statuses are as they always are, and a call is
accepted at once. -/
structure IsQuiet (identity : Identity) (policy : StatusPolicy)
    (status : ConditionType → ConditionStatus) (around : Surroundings) : Prop where
  status_eq : ∀ type,
    (evaluate (around.ledger.snapshot.isPressed policy.pressureThreshold) type).status = status type
  latency_eq : around.site.plane.latency = 0
  accepted : ∀ snapshot now, (around.site.plane.publish identity snapshot now).1 = .ok ()

/-- A report that was built from the given statuses. -/
def Reports (status : ConditionType → ConditionStatus) (conditions : List NodeCondition) : Prop :=
  ∃ previous pressed now, conditions = buildConditions previous pressed now ∧
    ∀ type, (evaluate pressed type).status = status type

/-- When the publications of a history began, the last first. -/
def publications : List Deed → List Instant :=
  List.filterMap fun deed =>
    match deed with
    | .began now => some now
    | _ => none

/-- How much a step adds to what a series has come to. -/
def Recorded.counts (r : Recorded) (around : Surroundings) (series : Series) : Int :=
  let site := { around.site with now := r.due }
  (r.loop.act around.profile around.ledger around.tracker site).2.2.count series -
    site.count series

variable {identity : Identity} {policy : StatusPolicy}
  {status : ConditionType → ConditionStatus} {around : Surroundings} {r : Recorded}

theorem conditionsDiffer_of_reports {current previous : List NodeCondition}
    (hcurrent : Reports status current) (hprevious : Reports status previous) :
    conditionsDiffer current previous = false := by
  obtain ⟨previous', pressed, now, rfl, hpressed⟩ := hcurrent
  obtain ⟨earlier, before, past, rfl, hbefore⟩ := hprevious
  apply conditionsDiffer_buildConditions
  intro type
  exact (hpressed type).trans (hbefore type).symm

theorem IsQuiet.reports (hquiet : IsQuiet identity policy status around)
    (hpolicy : r.loop.policy = policy) : Reports status (r.snapshot around).conditions :=
  ⟨_, _, _, rfl, hpolicy ▸ hquiet.status_eq⟩

theorem IsQuiet.answer_eq {flight : Publication} (hquiet : IsQuiet identity policy status around)
    (hidentity : r.loop.identity = identity) (hanswered : flight.call.isAnswered = true) :
    r.answer around flight = .ok () := by
  unfold Recorded.answer Site.settlePublish Site.settle
  rw [if_pos hanswered, hidentity]
  exact hquiet.accepted flight.snapshot r.due

theorem Recorded.counts_of_unwanted (hidle : r.loop.flight = none)
    (hunwanted : r.loop.shouldPublish (r.snapshot around).conditions r.due = false) :
    r.counts around (.statusPublishes .skipped) = 1 := by
  let site := { around.site with now := r.due }
  have hsite : (r.loop.act around.profile around.ledger around.tracker site).2.2 =
      site.increment (.statusPublishes .skipped) := by
    simp only [act, hidle]
    unfold tick
    exact congrArg Prod.snd (if_neg (Bool.eq_false_iff.1 hunwanted))
  calc r.counts around (.statusPublishes .skipped)
      = (site.increment (.statusPublishes .skipped)).count (.statusPublishes .skipped) -
          site.count (.statusPublishes .skipped) := by rw [← hsite]; rfl
    _ = 1 := by
      rw [Site.count_increment, if_pos rfl]
      omega

/-! ## The beat -/

/-- What a loop remembers after a number of publications at the beat: when the last one began, and
that it had the statuses that do not change. -/
def Remembers (policy : StatusPolicy) (status : ConditionType → ConditionStatus)
    (anchor : Instant) (s : StatusSync) : Nat → Prop
  | 0 => s.lastSuccess = none
  | last + 1 =>
      s.lastSuccess = some (anchor + last * policy.maxInterval) ∧
        ∃ previous, s.lastPublished = some previous ∧ Reports status previous

/-- A loop has published at each of the first beats and at no other time, and its ticks lie on
their grid. -/
structure OnBeat (identity : Identity) (policy : StatusPolicy) (anchor : Instant) (count : Nat)
    (r : Recorded) : Prop where
  identity_eq : r.loop.identity = identity
  policy_eq : r.loop.policy = policy
  tick_eq : ∃ j, r.loop.nextTick = anchor + j * policy.minInterval
  publications_eq : (publications r.history).reverse =
    (List.range count).map fun k => anchor + k * policy.maxInterval

/-- A loop that sleeps wakes at the next beat or at the next tick, whichever is earlier. -/
structure Resting (identity : Identity) (policy : StatusPolicy)
    (status : ConditionType → ConditionStatus) (anchor : Instant) (count : Nat) (r : Recorded) :
    Prop extends OnBeat identity policy anchor count r where
  idle : r.loop.flight = none
  due_eq : r.due = min (anchor + count * policy.maxInterval) r.loop.nextTick
  remembers : Remembers policy status anchor r.loop count

/-- A publication that began at the last beat is in flight, and its answer is due. -/
structure Publishing (identity : Identity) (policy : StatusPolicy)
    (status : ConditionType → ConditionStatus) (anchor : Instant) (last : Nat)
    (flight : Publication) (r : Recorded) :
    Prop extends OnBeat identity policy anchor (last + 1) r where
  flight_eq : r.loop.flight = some flight
  now_eq : r.now = anchor + last * policy.maxInterval
  begun_eq : flight.call.begun = r.now
  latency_eq : flight.call.latency = 0
  reports : Reports status flight.snapshot.conditions
  now_lt_tick : r.now < r.loop.nextTick

variable {retry : RetryPolicy} {anchor : Instant} {count : Nat}

theorem start_resting {now : Instant} (hnow : now ≤ anchor) :
    Resting identity policy status anchor 0 (.start identity policy retry anchor now) where
  identity_eq := rfl
  policy_eq := rfl
  tick_eq := ⟨0, by rw [Nat.zero_mul, Nat.add_zero]; rfl⟩
  publications_eq := rfl
  idle := rfl
  due_eq := by
    rw [Nat.zero_mul, Nat.add_zero]
    exact (max_eq_right hnow).trans (min_self anchor).symm
  remembers := rfl

/-- Catching up keeps the ticks on their grid. -/
theorem OnBeat.catchUp_eq (h : OnBeat identity policy anchor count r) (now : Instant) :
    ∃ j, catchUp r.loop.policy.minInterval r.loop.nextTick now =
      anchor + j * policy.minInterval := by
  obtain ⟨j, hj⟩ := h.tick_eq
  obtain ⟨passed, hpassed⟩ := exists_catchUp_eq r.loop.policy.minInterval r.loop.nextTick now
  refine ⟨j + passed, ?_⟩
  rw [hpassed, hj, h.policy_eq, Nat.add_mul, Nat.add_assoc]

theorem Resting.anchor_le_due (h : Resting identity policy status anchor count r) :
    anchor ≤ r.due := by
  obtain ⟨j, hj⟩ := h.tick_eq
  rw [h.due_eq, hj]
  exact le_min (Nat.le_add_right _ _) (Nat.le_add_right _ _)

/-- If a resting loop wakes before the beat, it wakes at a tick. -/
theorem Resting.due_mem_ticks (h : Resting identity policy status anchor count r)
    (hearly : r.due < anchor + count * policy.maxInterval) :
    ∃ j, r.due = anchor + j * policy.minInterval := by
  obtain ⟨j, hj⟩ := h.tick_eq
  refine ⟨j, ?_⟩
  have hdue := h.due_eq
  rcases le_total (anchor + count * policy.maxInterval) r.loop.nextTick with hle | hle
  · rw [min_eq_left hle] at hdue
    exact absurd hdue hearly.ne
  · rw [min_eq_right hle, hj] at hdue
    exact hdue

/-- A resting loop that finds no other statuses publishes at the beat and at no earlier time. -/
theorem Resting.shouldPublish_iff (h : Resting identity policy status anchor count r)
    (hquiet : IsQuiet identity policy status around) (hmax : 0 < policy.maxInterval) :
    r.loop.shouldPublish (r.snapshot around).conditions r.due = true ↔
      r.due = anchor + count * policy.maxInterval := by
  have hle : r.due ≤ anchor + count * policy.maxInterval := h.due_eq ▸ min_le_left _ _
  have hremembers := h.remembers
  cases count with
  | zero =>
      have hdue : r.due = anchor := by
        refine le_antisymm ?_ h.anchor_le_due
        simpa using hle
      have hfirst : r.loop.lastSuccess = none := hremembers
      simp [shouldPublish, hfirst, hdue]
  | succ last =>
      obtain ⟨hsuccess, previous, hprevious, hreports⟩ := hremembers
      have hsame : conditionsDiffer (r.snapshot around).conditions previous = false :=
        conditionsDiffer_of_reports (hquiet.reports h.policy_eq) hreports
      simp only [shouldPublish, hsuccess, hprevious, hsame, Bool.false_or, decide_eq_true_eq,
        h.policy_eq]
      rw [Nat.succ_mul] at hle ⊢
      lia

/-! ## Steps -/

/-- At the beat a resting loop begins a publication. -/
theorem Resting.beginning (h : Resting identity policy status anchor count r)
    (hquiet : IsQuiet identity policy status around) (hmin : 0 < policy.minInterval)
    (hbeat : r.due = anchor + count * policy.maxInterval) :
    Publishing identity policy status anchor count (r.publication around)
      (r.beginning (r.publication around)) where
  identity_eq := h.identity_eq
  policy_eq := h.policy_eq
  tick_eq := h.catchUp_eq r.due
  publications_eq := by
    rw [List.range_succ, List.map_append, ← h.publications_eq, List.map_singleton, ← hbeat]
    exact List.reverse_cons
  flight_eq := rfl
  now_eq := hbeat
  begun_eq := rfl
  latency_eq := hquiet.latency_eq
  reports := hquiet.reports h.policy_eq
  now_lt_tick := by
    apply lt_catchUp
    rw [h.policy_eq]
    exact hmin

/-- A resting loop that skips a tick rests until the next beat or until the next tick. -/
theorem Resting.skipping (h : Resting identity policy status anchor count r)
    (hmin : 0 < policy.minInterval) (conditions : List NodeCondition)
    (hearly : r.due < anchor + count * policy.maxInterval) :
    Resting identity policy status anchor count (r.skipping conditions) ∧
      r.due < (r.skipping conditions).due := by
  let tick := catchUp r.loop.policy.minInterval r.loop.nextTick r.due
  have hlt : r.due < tick := by
    apply lt_catchUp
    rw [h.policy_eq]
    exact hmin
  have hwake : (r.skipping conditions).loop.wake =
      min (anchor + count * policy.maxInterval) tick := by
    have hremembers := h.remembers
    cases count with
    | zero => exact absurd h.anchor_le_due (by simpa using hearly)
    | succ last =>
        rw [Nat.succ_mul, ← Nat.add_assoc] at hearly ⊢
        have hnext : (r.skipping conditions).loop.wake =
            nextWake policy.maxInterval (some (anchor + last * policy.maxInterval)) tick r.due := by
          rw [← hremembers.1, ← h.policy_eq]
          rfl
        exact hnext.trans (nextWake_of_fresh hearly)
  have hlater : r.due < (r.skipping conditions).loop.wake := hwake ▸ lt_min hearly hlt
  have hdue : (r.skipping conditions).due = (r.skipping conditions).loop.wake :=
    max_eq_right hlater.le
  refine ⟨?_, hdue ▸ hlater⟩
  exact {
    identity_eq := h.identity_eq
    policy_eq := h.policy_eq
    tick_eq := h.catchUp_eq r.due
    publications_eq := h.publications_eq
    idle := rfl
    due_eq := hdue.trans hwake
    remembers := by
      have hremembers := h.remembers
      cases count <;> exact hremembers }

/-- A publication that is accepted at once leaves the loop resting until the next beat or the next
tick. -/
theorem Publishing.step {last : Nat} {flight : Publication}
    (h : Publishing identity policy status anchor last flight r)
    (hquiet : IsQuiet identity policy status around) (hmax : 0 < policy.maxInterval) :
    ∃ next, r.step around = .ok next ∧
      Resting identity policy status anchor (last + 1) next := by
  have hanswered : flight.call.isAnswered = true := by simp [Call.isAnswered, h.latency_eq]
  have hends : flight.call.endsAt = r.now := by
    rw [Call.endsAt_of_isAnswered hanswered, Call.answeredAt, h.latency_eq, h.begun_eq,
      Nat.add_zero]
  have hdue : r.due = r.now := by simp [Recorded.due, wakesAt, h.flight_eq, hends]
  have hstep := r.step_eq_of_flight h.flight_eq around
  rw [hquiet.answer_eq h.identity_eq hanswered, hdue] at hstep
  refine ⟨_, hstep, ?_⟩
  have hbeat : anchor + (last + 1) * policy.maxInterval = r.now + policy.maxInterval := by
    rw [h.now_eq, Nat.succ_mul, Nat.add_assoc]
  have hwake : nextWake r.loop.policy.maxInterval (some flight.call.begun) r.loop.nextTick r.now =
      min (anchor + (last + 1) * policy.maxInterval) r.loop.nextTick := by
    rw [hbeat, h.begun_eq, h.policy_eq]
    apply nextWake_of_fresh
    exact Nat.lt_add_of_pos_right hmax
  have hnow : r.now ≤ min (anchor + (last + 1) * policy.maxInterval) r.loop.nextTick := by
    rw [hbeat]
    exact le_min (Nat.le_add_right _ _) h.now_lt_tick.le
  exact {
    identity_eq := h.identity_eq
    policy_eq := h.policy_eq
    tick_eq := h.tick_eq
    publications_eq := h.publications_eq
    idle := rfl
    due_eq := by
      refine Eq.trans ?_ (max_eq_right hnow)
      exact congrArg (max r.now) hwake
    remembers := ⟨congrArg some (h.begun_eq.trans h.now_eq), _, rfl, h.reports⟩ }

/-- What a resting loop does next: at the beat it publishes, and at any earlier tick it skips. -/
theorem Resting.step (h : Resting identity policy status anchor count r)
    (hquiet : IsQuiet identity policy status around) (hmax : 0 < policy.maxInterval) :
    (r.due = anchor + count * policy.maxInterval ∧
      r.step around = .ok (r.beginning (r.publication around))) ∨
    (r.due < anchor + count * policy.maxInterval ∧
      (∃ j, r.due = anchor + j * policy.minInterval) ∧
      r.counts around (.statusPublishes .skipped) = 1 ∧
      r.step around = .ok (r.skipping (r.snapshot around).conditions)) := by
  have hiff := h.shouldPublish_iff hquiet hmax
  by_cases hbeat : r.due = anchor + count * policy.maxInterval
  · exact .inl ⟨hbeat, Recorded.step_of_wanted h.idle (hiff.2 hbeat)⟩
  · have hearly : r.due < anchor + count * policy.maxInterval := by
      refine lt_of_le_of_ne ?_ hbeat
      rw [h.due_eq]
      exact min_le_left _ _
    have hunwanted : r.loop.shouldPublish (r.snapshot around).conditions r.due = false := by
      rw [Bool.eq_false_iff]
      intro hwanted
      exact hbeat (hiff.1 hwanted)
    exact .inr ⟨hearly, h.due_mem_ticks hearly, Recorded.counts_of_unwanted h.idle hunwanted,
      Recorded.step_of_unwanted h.idle hunwanted⟩

/-! ## Runs -/

/-- A loop rests, or it publishes at a beat. -/
def KeepsTime (identity : Identity) (policy : StatusPolicy)
    (status : ConditionType → ConditionStatus) (anchor : Instant) (r : Recorded) : Prop :=
  (∃ count, Resting identity policy status anchor count r) ∨
    ∃ last flight, Publishing identity policy status anchor last flight r

theorem KeepsTime.step (h : KeepsTime identity policy status anchor r)
    (hquiet : IsQuiet identity policy status around) (hmin : 0 < policy.minInterval)
    (hmax : 0 < policy.maxInterval) :
    ∃ next, r.step around = .ok next ∧ KeepsTime identity policy status anchor next := by
  rcases h with ⟨count, h⟩ | ⟨last, flight, h⟩
  · rcases h.step hquiet hmax with ⟨hbeat, hstep⟩ | ⟨hearly, -, -, hstep⟩
    · exact ⟨_, hstep, .inr ⟨count, _, h.beginning hquiet hmin hbeat⟩⟩
    · exact ⟨_, hstep, .inl ⟨count, (h.skipping hmin _ hearly).1⟩⟩
  · obtain ⟨next, hstep, hresting⟩ := h.step hquiet hmax
    exact ⟨next, hstep, .inl ⟨last + 1, hresting⟩⟩

variable {first : Recorded} {surroundings : Nat → Surroundings}

theorem KeepsTime.run (h : KeepsTime identity policy status anchor first)
    (hquiet : ∀ step, IsQuiet identity policy status (surroundings step))
    (hmin : 0 < policy.minInterval) (hmax : 0 < policy.maxInterval) (steps : Nat) :
    ∃ reached, first.run surroundings steps = .ok reached ∧
      KeepsTime identity policy status anchor reached := by
  induction steps with
  | zero => exact ⟨first, rfl, h⟩
  | succ steps ih =>
      obtain ⟨before, hrun, hbefore⟩ := ih
      obtain ⟨next, hstep, hnext⟩ := hbefore.step (hquiet steps) hmin hmax
      exact ⟨next, (Recorded.run_succ hrun).trans hstep, hnext⟩

/-- A resting loop comes to the next beat, and rests again. -/
theorem Resting.exists_next (h : Resting identity policy status anchor count r)
    (hquiet : ∀ step, IsQuiet identity policy status (surroundings step))
    (hmin : 0 < policy.minInterval) (hmax : 0 < policy.maxInterval) {steps : Nat}
    (hrun : first.run surroundings steps = .ok r) :
    ∃ later next, first.run surroundings later = .ok next ∧
      Resting identity policy status anchor (count + 1) next := by
  -- By induction on the time that is left until the beat.
  induction hleft : anchor + count * policy.maxInterval - r.due
    using Nat.strong_induction_on generalizing steps r with
  | h left ih =>
      rcases h.step (hquiet steps) hmax with ⟨hbeat, hstep⟩ | ⟨hearly, -, -, hstep⟩
      · have hbegan := h.beginning (hquiet steps) hmin hbeat
        obtain ⟨next, hended, hresting⟩ := hbegan.step (hquiet (steps + 1)) hmax
        have hrun' := (Recorded.run_succ hrun).trans hstep
        exact ⟨steps + 2, next, (Recorded.run_succ hrun').trans hended, hresting⟩
      · obtain ⟨hresting, hlater⟩ :=
          h.skipping hmin (r.snapshot (surroundings steps)).conditions hearly
        refine ih _ ?_ hresting ((Recorded.run_succ hrun).trans hstep) rfl
        rw [← hleft]
        exact Nat.sub_lt_sub_left hearly hlater

theorem Resting.exists_count (h : Resting identity policy status anchor 0 first)
    (hquiet : ∀ step, IsQuiet identity policy status (surroundings step))
    (hmin : 0 < policy.minInterval) (hmax : 0 < policy.maxInterval) (count : Nat) :
    ∃ steps reached, first.run surroundings steps = .ok reached ∧
      Resting identity policy status anchor count reached := by
  induction count with
  | zero => exact ⟨0, first, rfl, h⟩
  | succ count ih =>
      obtain ⟨steps, reached, hrun, hresting⟩ := ih
      exact hresting.exists_next hquiet hmin hmax hrun

theorem OnBeat.length_publications (h : OnBeat identity policy anchor count r) :
    (publications r.history).length = count := by
  rw [← List.length_reverse, h.publications_eq, List.length_map, List.length_range]

/-- While a loop keeps time, its publications are at the first beats. -/
theorem KeepsTime.publications_eq (h : KeepsTime identity policy status anchor r) :
    (publications r.history).reverse =
      (List.range (publications r.history).length).map
        fun k => anchor + k * policy.maxInterval := by
  have hbeat : ∃ count, OnBeat identity policy anchor count r := by
    rcases h with ⟨count, h⟩ | ⟨last, flight, h⟩
    · exact ⟨count, h.toOnBeat⟩
    · exact ⟨last + 1, h.toOnBeat⟩
  obtain ⟨count, hbeat⟩ := hbeat
  rw [hbeat.length_publications]
  exact hbeat.publications_eq

/-- A quiet agent publishes exactly once in every maximal interval.  In every run of a loop that
is started no later than its anchor, where no status changes and every publication is accepted at
once, the loop never ends.  Its publications began at the first multiples of the maximal interval
after the anchor, in order and without gaps, and any multiple is reached.  Whenever the loop is
idle, what it does next is to begin the publication at the next multiple, or to skip: then it is
at a multiple of the minimal interval after the anchor, and one more tick is counted as skipped. -/
theorem quiet_publishes_every_maxInterval (identity : Identity) (policy : StatusPolicy)
    (retry : RetryPolicy) (anchor now : Instant) (status : ConditionType → ConditionStatus)
    (surroundings : Nat → Surroundings) (hmin : 0 < policy.minInterval)
    (hmax : 0 < policy.maxInterval) (hnow : now ≤ anchor)
    (hquiet : ∀ step, IsQuiet identity policy status (surroundings step)) :
    let run := (Recorded.start identity policy retry anchor now).run surroundings
    (∀ steps, ∃ r, run steps = .ok r ∧
      (publications r.history).reverse =
        (List.range (publications r.history).length).map
          (fun k => anchor + k * policy.maxInterval) ∧
      (r.loop.flight = none → ∃ next, run (steps + 1) = .ok next ∧
        ((next.history = .began (anchor + (publications r.history).length * policy.maxInterval) ::
            r.history) ∨
          ∃ j, next.history = .skipped (anchor + j * policy.minInterval) :: r.history ∧
            r.counts (surroundings steps) (.statusPublishes .skipped) = 1))) ∧
    ∀ k, ∃ steps r, run steps = .ok r ∧
      anchor + k * policy.maxInterval ∈ publications r.history := by
  intro run
  have hstart : Resting identity policy status anchor 0
      (.start identity policy retry anchor now) := start_resting hnow
  constructor
  · intro steps
    obtain ⟨r, hrun, hkeeps⟩ := KeepsTime.run (.inl ⟨0, hstart⟩) hquiet hmin hmax steps
    refine ⟨r, hrun, hkeeps.publications_eq, ?_⟩
    intro hidle
    rcases hkeeps with ⟨count, hresting⟩ | ⟨last, flight, hpublishing⟩
    · rw [hresting.length_publications]
      rcases hresting.step (hquiet steps) hmax with
        ⟨hbeat, hstep⟩ | ⟨-, ⟨j, hj⟩, hcounts, hstep⟩
      · refine ⟨_, (Recorded.run_succ hrun).trans hstep, .inl ?_⟩
        rw [← hbeat]
        rfl
      · refine ⟨_, (Recorded.run_succ hrun).trans hstep, .inr ⟨j, ?_, hcounts⟩⟩
        rw [← hj]
        rfl
    · cases hidle.symm.trans hpublishing.flight_eq
  · intro k
    obtain ⟨steps, r, hrun, hresting⟩ := hstart.exists_count hquiet hmin hmax (k + 1)
    refine ⟨steps, r, hrun, ?_⟩
    rw [← List.mem_reverse, hresting.publications_eq]
    exact List.mem_map_of_mem (List.mem_range.2 (Nat.lt_succ_self k))

/-- The publications may leave the ticks for ever.  With ticks at 3, 13, 23 and so on, and a
maximal interval of 25, they are at 3, 28 and 53. -/
theorem quiet_publishes_between_ticks :
    let identity : Identity := ⟨"node", "uid-0", 0⟩
    let policy : StatusPolicy := { minInterval := 10, maxInterval := 25, pressureThreshold := 0 }
    let retry : RetryPolicy := ⟨3, 1, 8, 4⟩
    let profile : Profile := ⟨1000, 1, 0, 0, 2, ⟨0, 24⟩⟩
    let around : Surroundings :=
      { profile
        ledger := .empty profile.allocatable
        tracker := .create "node" 3
        site := .create ((ControlPlane.empty 0).register identity profile 0 ⟨0, 0⟩).2 ⟨0, 0⟩ }
    let run := (Recorded.start identity policy retry 3 0).run fun _ => around
    ∃ steps r, run steps = .ok r ∧ 53 ∈ publications r.history ∧
      (publications r.history).reverse =
        (List.range (publications r.history).length).map (fun k => 3 + k * 25) := by
  intro identity policy retry profile around run
  let status (type : ConditionType) : ConditionStatus :=
    (evaluate (around.ledger.snapshot.isPressed policy.pressureThreshold) type).status
  have hquiet : IsQuiet identity policy status around := {
    status_eq := fun _ => rfl
    latency_eq := rfl
    accepted := fun _ _ => rfl }
  obtain ⟨hruns, hreached⟩ := quiet_publishes_every_maxInterval identity policy retry 3 0 status
    (fun _ => around) (by decide) (by decide) (by decide) (fun _ => hquiet)
  obtain ⟨steps, r, hrun, hmem⟩ := hreached 2
  obtain ⟨r', hrun', hpublications, -⟩ := hruns steps
  obtain rfl := Except.ok.inj (hrun.symm.trans hrun')
  exact ⟨steps, r, hrun, hmem, hpublications⟩

end NodeFleet.StatusSync
