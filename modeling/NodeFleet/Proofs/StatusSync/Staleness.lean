import NodeFleet.Proofs.StatusSync.Run

/-!
# Staleness

The control plane must hear from a node again before its status is stale, whatever the
outcomes of the calls were.  If the last attempt to publish began at `began` and ended at
`ended`, then the next one begins by `dueBy`: one minimal interval after `began`, or at
`ended` if the call took longer, or when the last successful publication becomes stale if
that is later still.

Two facts carry the bound from step to step (`Paced`).  The next tick is never more than a
minimal interval away, counted from the flight or from the next waking.  And the loop never
sleeps past `dueBy`: after an attempt it wakes by the next tick, and a tick is skipped only
while the last success is fresh, and then the loop wakes before that becomes stale.  Each
skipped tick brings the loop nearer to the bound, so it cannot skip forever.
-/

namespace NodeFleet.StatusSync

/-! ## Readings of a history -/

/-- When the last attempt began and when it ended. -/
def lastAttempt? : List Deed → Option (Instant × Instant)
  | [] => none
  | .ended flight now _ :: _ => some (flight.call.begun, now)
  | .began _ :: earlier => lastAttempt? earlier
  | .skipped _ :: earlier => lastAttempt? earlier

/-- When the last successful attempt began. -/
def lastSuccess? : List Deed → Option Instant
  | [] => none
  | .ended flight _ result :: earlier =>
      if result.isOk then some flight.call.begun else lastSuccess? earlier
  | .began _ :: earlier => lastSuccess? earlier
  | .skipped _ :: earlier => lastSuccess? earlier

/-- The instant by which the attempt after one from `began` to `ended` begins. -/
def dueBy (policy : StatusPolicy) (lastSuccess : Option Instant) (began ended : Instant) :
    Instant :=
  match lastSuccess with
  | none => max (began + policy.minInterval) ended
  | some last => max (last + policy.maxInterval) (max (began + policy.minInterval) ended)

theorem le_dueBy (policy : StatusPolicy) (lastSuccess : Option Instant) (began ended : Instant) :
    max (began + policy.minInterval) ended ≤ dueBy policy lastSuccess began ended := by
  cases lastSuccess with
  | none => exact le_rfl
  | some last => exact le_max_right _ _

/-! ## The invariant -/

/-- A loop keeps its pace. -/
structure Paced (policy : StatusPolicy) (r : Recorded) : Prop where
  /-- The policy does not change. -/
  policy_eq : r.loop.policy = policy
  /-- The loop remembers its last success. -/
  lastSuccess_eq : r.loop.lastSuccess = lastSuccess? r.history
  /-- A publication in flight began in the past, and the next tick is soon after. -/
  flight_tick : ∀ flight, r.loop.flight = some flight →
    flight.call.begun ≤ r.now ∧ r.loop.nextTick ≤ flight.call.begun + policy.minInterval
  /-- The next tick of an idle loop is soon after it wakes. -/
  idle_tick : r.loop.flight = none → r.loop.nextTick ≤ r.due + policy.minInterval
  /-- An idle loop wakes in time for the next attempt. -/
  idle_due : r.loop.flight = none → ∀ began ended, lastAttempt? r.history = some (began, ended) →
    r.due ≤ dueBy policy (lastSuccess? r.history) began ended

variable {policy : StatusPolicy} {r next : Recorded} {around : Surroundings}

theorem Recorded.due_of_idle (hidle : r.loop.flight = none) : r.due = max r.now r.loop.wake := by
  simp [due, wakesAt, hidle]

theorem start_paced (identity : Identity) (policy : StatusPolicy) (retry : RetryPolicy)
    (anchor now : Instant) : Paced policy (.start identity policy retry anchor now) := by
  constructor
  · rfl
  · rfl
  · intro flight hflight
    cases hflight
  · intro hidle
    rw [Recorded.due_of_idle hidle]
    exact (le_max_right now anchor).trans (Nat.le_add_right _ _)
  · intro _ began ended hlast
    cases hlast

/-- A tick is skipped only while the last success is fresh. -/
theorem fresh_of_not_shouldPublish {s : StatusSync} {conditions : List NodeCondition}
    {now : Instant} (h : s.shouldPublish conditions now = false) :
    ∃ last, s.lastSuccess = some last ∧ now < last + s.policy.maxInterval := by
  unfold shouldPublish at h
  cases hlast : s.lastSuccess with
  | none => simp [hlast] at h
  | some last =>
      simp only [hlast, Bool.or_eq_false_iff, decide_eq_false_iff_not] at h
      exact ⟨last, rfl, by lia⟩

/-! ## Steps -/

/-- When an idle loop wakes, the tick that it finds is at most a minimal interval away. -/
theorem Paced.woken_tick (h : Paced policy r) (hidle : r.loop.flight = none)
    (conditions : List NodeCondition) :
    (r.loop.woken conditions r.due).nextTick ≤ r.due + policy.minInterval := by
  have htick := h.idle_tick hidle
  rw [← h.policy_eq] at htick ⊢
  calc (r.loop.woken conditions r.due).nextTick
      ≤ max r.loop.nextTick (r.due + r.loop.policy.minInterval) := catchUp_le
    _ = r.due + r.loop.policy.minInterval := max_eq_right htick

theorem Paced.beginning {flight : Publication} (h : Paced policy r)
    (hidle : r.loop.flight = none) (hbegun : flight.call.begun = r.due) :
    Paced policy (r.beginning flight) := by
  constructor
  · exact h.policy_eq
  · exact h.lastSuccess_eq
  · intro flight' hflight
    obtain rfl := Option.some.inj hflight
    rw [hbegun]
    exact ⟨le_rfl, h.woken_tick hidle flight.snapshot.conditions⟩
  · intro hnone
    cases hnone
  · intro hnone
    cases hnone

/-- A loop that skips a tick sleeps until later than now, and wakes while its last success is
fresh or just becomes stale. -/
theorem Recorded.skipping_due {last : Instant} (conditions : List NodeCondition)
    (hpos : 0 < r.loop.policy.minInterval) (hlast : r.loop.lastSuccess = some last)
    (hfresh : r.due < last + r.loop.policy.maxInterval) :
    r.due < (r.skipping conditions).due ∧
      (r.skipping conditions).due ≤ last + r.loop.policy.maxInterval := by
  let tick := catchUp r.loop.policy.minInterval r.loop.nextTick r.due
  have hwake : (r.skipping conditions).loop.wake =
      nextWake r.loop.policy.maxInterval (some last) tick r.due :=
    congrArg (nextWake _ · _ _) hlast
  have hlt : r.due < nextWake r.loop.policy.maxInterval (some last) tick r.due :=
    lt_nextWake (lt_catchUp hpos)
  have hdue : (r.skipping conditions).due = (r.skipping conditions).loop.wake := by
    rw [Recorded.due_of_idle rfl, hwake]
    exact max_eq_right hlt.le
  rw [hdue, hwake]
  exact ⟨hlt, nextWake_le_stale hfresh⟩

theorem Paced.skipping {conditions : List NodeCondition} (h : Paced policy r)
    (hpos : 0 < policy.minInterval) (hidle : r.loop.flight = none)
    (hskip : r.loop.shouldPublish conditions r.due = false) :
    Paced policy (r.skipping conditions) ∧ r.due < (r.skipping conditions).due := by
  obtain ⟨last, hlast, hfresh⟩ := fresh_of_not_shouldPublish hskip
  have hpos' : 0 < r.loop.policy.minInterval := h.policy_eq ▸ hpos
  obtain ⟨hlater, hstale⟩ := r.skipping_due conditions hpos' hlast hfresh
  refine ⟨?_, hlater⟩
  constructor
  · exact h.policy_eq
  · exact h.lastSuccess_eq
  · intro flight hflight
    cases hflight
  · intro _
    exact (h.woken_tick hidle conditions).trans (Nat.add_le_add_right hlater.le _)
  · intro _ began ended _
    have hsuccess : lastSuccess? (r.skipping conditions).history = some last :=
      h.lastSuccess_eq.symm.trans hlast
    rw [hsuccess]
    calc (r.skipping conditions).due
        ≤ last + r.loop.policy.maxInterval := hstale
      _ = last + policy.maxInterval := by rw [h.policy_eq]
      _ ≤ dueBy policy (some last) began ended := le_max_left _ _

theorem Paced.ended {flight : Publication} {result : Except CallError Unit} (h : Paced policy r)
    (hflight : r.loop.flight = some flight)
    (hafter : r.loop.afterPublication flight result r.due = .ok next.loop)
    (hnow : next.now = r.due)
    (hhistory : next.history = .ended flight r.due result :: r.history) : Paced policy next := by
  obtain ⟨hpolicy, htick, hidle, hsuccess, hwake⟩ := afterPublication_eq_ok hafter
  obtain ⟨hbegun, hsoon⟩ := h.flight_tick flight hflight
  -- The tick found when the attempt began still stands.  If it has passed, the loop wakes at once.
  have hnowle : r.now ≤ r.due := le_max_left _ _
  have hdue : next.due = max r.due next.loop.wake := by
    rw [Recorded.due_of_idle hidle, hnow]
  have hle : next.loop.wake ≤ r.loop.nextTick := hwake ▸ nextWake_le_tick
  constructor
  · exact hpolicy.trans h.policy_eq
  · rw [hsuccess, hhistory, h.lastSuccess_eq]
    rfl
  · intro flight' hflight'
    cases hidle.symm.trans hflight'
  · intro _
    rw [htick, hdue]
    lia
  · intro _ began ended hlast
    rw [hhistory] at hlast
    obtain ⟨rfl, rfl⟩ := Prod.mk.inj (Option.some.inj hlast)
    refine le_trans ?_ (le_dueBy _ _ _ _)
    rw [hdue]
    lia

theorem Paced.step (h : Paced policy r) (hpos : 0 < policy.minInterval)
    (hstep : r.step around = .ok next) : Paced policy next := by
  cases hflight : r.loop.flight with
  | none =>
      rcases r.step_of_idle hflight around with ⟨-, flight, hbegun, -, heq⟩ | ⟨hskip, heq⟩
      · obtain rfl := Except.ok.inj (heq.symm.trans hstep)
        exact h.beginning hflight hbegun
      · obtain rfl := Except.ok.inj (heq.symm.trans hstep)
        exact (h.skipping hpos hflight hskip).1
  | some flight =>
      obtain ⟨result, hafter, hnow, hhistory⟩ := Recorded.step_of_flight hflight hstep
      exact h.ended hflight hafter hnow hhistory

/-! ## Runs -/

variable {first : Recorded} {surroundings : Nat → Surroundings} {steps : Nat}

theorem Paced.run (h : Paced policy first) (hpos : 0 < policy.minInterval)
    (hrun : first.run surroundings steps = .ok r) : Paced policy r := by
  induction steps generalizing r with
  | zero =>
      obtain rfl := Except.ok.inj hrun
      exact h
  | succ steps ih =>
      cases hreached : first.run surroundings steps with
      | error exit => simp [Recorded.run, hreached] at hrun
      | ok reached =>
          rw [Recorded.run_succ hreached] at hrun
          exact (ih hreached).step hpos hrun

/-- From any step at which a loop is idle after an attempt, it comes to the next attempt by
skipping ticks only, and in time. -/
theorem Paced.exists_attempt (h : Paced policy r) (hpos : 0 < policy.minInterval)
    (hrun : first.run surroundings steps = .ok r) (hidle : r.loop.flight = none)
    {began ended : Instant} (hlast : lastAttempt? r.history = some (began, ended)) :
    ∃ later reached flight skips, steps < later ∧ first.run surroundings later = .ok reached ∧
      reached.loop.flight = some flight ∧
      reached.history = .began flight.call.begun :: (skips ++ r.history) ∧
      (∀ deed ∈ skips, ∃ now, deed = .skipped now) ∧
      flight.call.begun ≤ dueBy policy (lastSuccess? r.history) began ended := by
  -- By induction on the time that is left until the bound.
  induction hleft : dueBy policy (lastSuccess? r.history) began ended - r.due
    using Nat.strong_induction_on generalizing steps r with
  | h left ih =>
      have hbound := h.idle_due hidle began ended hlast
      rcases r.step_of_idle hidle (surroundings steps) with
        ⟨-, flight, hbegun, -, heq⟩ | ⟨hskip, heq⟩
      · refine ⟨steps + 1, _, flight, [], Nat.lt_succ_self _,
          (Recorded.run_succ hrun).trans heq, rfl, ?_, ?_, hbegun ▸ hbound⟩
        · rw [hbegun]
          rfl
        · simp
      · -- Skipping leaves the bound as it is and moves the next waking nearer to it.
        obtain ⟨hafter, hlater⟩ := h.skipping hpos hidle hskip
        have hbound' := hafter.idle_due rfl began ended hlast
        have hcloser : dueBy policy (lastSuccess? r.history) began ended -
            (r.skipping (r.snapshot (surroundings steps)).conditions).due < left := by
          rw [← hleft]
          exact Nat.sub_lt_sub_left (hlater.trans_le hbound') hlater
        obtain ⟨later, reached, flight, skips, hlt, hreached, hflight, hhistory, hskips, hdue⟩ :=
          ih _ hcloser hafter ((Recorded.run_succ hrun).trans heq) rfl hlast rfl
        refine ⟨later, reached, flight, skips ++ [.skipped r.due], by omega, hreached, hflight,
          ?_, ?_, hdue⟩
        · rw [hhistory, List.append_assoc]
          rfl
        · simp only [List.mem_append, List.mem_singleton]
          rintro deed (hmem | rfl)
          · exact hskips deed hmem
          · exact ⟨r.due, rfl⟩

/-- The next attempt to publish is made in time.  In every run, whenever the loop is idle and its
last attempt went from `began` to `ended`, the next attempt begins no later than one minimal
interval after `began`, or than `ended`, or than one maximal interval after the last successful
attempt began, whichever is latest.  After a success that ended before it was stale, the next
attempt begins before or when it becomes stale. -/
theorem next_attempt_in_time (identity : Identity) (policy : StatusPolicy) (retry : RetryPolicy)
    (anchor now : Instant) (surroundings : Nat → Surroundings) (hpos : 0 < policy.minInterval)
    (hle : policy.minInterval ≤ policy.maxInterval) {steps : Nat} {r : Recorded}
    (hrun : (Recorded.start identity policy retry anchor now).run surroundings steps = .ok r)
    (hidle : r.loop.flight = none) {began ended : Instant}
    (hlast : lastAttempt? r.history = some (began, ended)) :
    ∃ later reached flight skips, steps < later ∧
      (Recorded.start identity policy retry anchor now).run surroundings later = .ok reached ∧
      reached.loop.flight = some flight ∧
      reached.history = .began flight.call.begun :: (skips ++ r.history) ∧
      (∀ deed ∈ skips, ∃ now, deed = .skipped now) ∧
      flight.call.begun ≤ dueBy policy (lastSuccess? r.history) began ended ∧
      (lastSuccess? r.history = some began → ended < began + policy.maxInterval →
        flight.call.begun ≤ began + policy.maxInterval) := by
  have hpaced := (start_paced identity policy retry anchor now).run hpos hrun
  obtain ⟨later, reached, flight, skips, hlt, hreached, hflight, hhistory, hskips, hdue⟩ :=
    hpaced.exists_attempt hpos hrun hidle hlast
  refine ⟨later, reached, flight, skips, hlt, hreached, hflight, hhistory, hskips, hdue, ?_⟩
  intro hsuccess hended
  rw [hsuccess] at hdue
  have htick : began + policy.minInterval ≤ began + policy.maxInterval :=
    Nat.add_le_add_left hle began
  calc flight.call.begun
      ≤ max (began + policy.maxInterval) (max (began + policy.minInterval) ended) := hdue
    _ = began + policy.maxInterval := max_eq_left (max_le htick hended.le)

/-- A publication from 3 to 5 succeeds, and the control plane is contacted again by 28. -/
theorem next_attempt_in_time_after_success :
    let identity : Identity := ⟨"node", "uid-0", 0⟩
    let policy : StatusPolicy := { minInterval := 10, maxInterval := 25, pressureThreshold := 0 }
    let retry : RetryPolicy := ⟨3, 1, 8, 4⟩
    let profile : Profile := ⟨1000, 1, 0, 0, 2, ⟨0, 24⟩⟩
    let plane := ((ControlPlane.empty 0).register identity profile 0 ⟨0, 0⟩).2.setLatency 2
    let around : Surroundings :=
      { profile
        ledger := .empty profile.allocatable
        tracker := .create "node" 3
        site := .create plane ⟨0, 0⟩ }
    let first := Recorded.start identity policy retry 3 0
    ∃ r, first.run (fun _ => around) 2 = .ok r ∧ lastAttempt? r.history = some (3, 5) ∧
      lastSuccess? r.history = some 3 ∧
      ∃ later reached flight, 2 < later ∧ first.run (fun _ => around) later = .ok reached ∧
        reached.loop.flight = some flight ∧ flight.call.begun ≤ 28 := by
  intro identity policy retry profile plane around first
  obtain ⟨r, hrun, hlast, hsuccess, hidle⟩ :
      ∃ r, first.run (fun _ => around) 2 = .ok r ∧ lastAttempt? r.history = some (3, 5) ∧
        lastSuccess? r.history = some 3 ∧ r.loop.flight = none :=
    ⟨_, rfl, rfl, rfl, rfl⟩
  obtain ⟨later, reached, flight, skips, hlater, hreached, hflight, -, -, -, hdue⟩ :=
    next_attempt_in_time identity policy retry 3 0 (fun _ => around) (by decide) (by decide)
      hrun hidle hlast
  exact ⟨r, hrun, hlast, hsuccess, later, reached, flight, hlater, hreached, hflight,
    hdue hsuccess (by decide)⟩

end NodeFleet.StatusSync
