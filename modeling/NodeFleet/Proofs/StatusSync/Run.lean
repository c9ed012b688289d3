import Mathlib.Data.Nat.Basic
import Mathlib.Order.Basic
import NodeFleet.StatusSync

/-!
# Runs of a status loop

A loop runs on an exact clock: each step is taken at the instant for which it was
scheduled, or at once if that instant has passed.  Everything else may change between two
steps.  `Surroundings` is what one step finds, so a run is given by a sequence of
surroundings, and the outcomes and durations of the calls are theirs to choose.

The run keeps what each step did, the last first.  `Recorded.step_of_idle` and
`Recorded.step_of_flight` say all that a step can do.
-/

namespace NodeFleet

namespace StatusSync

/-! ## The schedule -/

section Schedule

variable {period maxInterval : Duration} {tick now : Instant}

/-- The next tick is still to come. -/
theorem lt_catchUp (hpos : 0 < period) : now < catchUp period tick now := by
  fun_induction catchUp period tick now with
  | case1 _ hzero => exact absurd hzero hpos.ne'
  | case2 _ _ _ ih => exact ih
  | case3 tick _ hlt => exact Nat.lt_of_not_le hlt

/-- The next tick is at most one period away, unless it was further away already. -/
theorem catchUp_le : catchUp period tick now ≤ max tick (now + period) := by
  fun_induction catchUp period tick now with
  | case1 => exact Nat.le_max_left _ _
  | case2 tick _ hle ih =>
      have hnext : tick + period ≤ now + period := Nat.add_le_add_right hle period
      calc catchUp period (tick + period) now
          ≤ max (tick + period) (now + period) := ih
        _ = now + period := max_eq_right hnext
        _ ≤ max tick (now + period) := Nat.le_max_right _ _
  | case3 => exact Nat.le_max_left _ _

/-- Catching up stays on the grid of the ticks. -/
theorem exists_catchUp_eq (period : Duration) (tick now : Instant) :
    ∃ passed, catchUp period tick now = tick + passed * period := by
  fun_induction catchUp period tick now with
  | case1 tick => exact ⟨0, by rw [Nat.zero_mul, Nat.add_zero]⟩
  | case2 tick _ _ ih =>
      obtain ⟨passed, hpassed⟩ := ih
      refine ⟨passed + 1, ?_⟩
      rw [hpassed, Nat.succ_mul, Nat.add_assoc, Nat.add_comm period]
  | case3 tick => exact ⟨0, by rw [Nat.zero_mul, Nat.add_zero]⟩

variable {lastSuccess : Option Instant}

theorem nextWake_le_tick : nextWake maxInterval lastSuccess tick now ≤ tick := by
  unfold nextWake
  cases lastSuccess with
  | none => exact le_rfl
  | some last =>
      dsimp only
      split_ifs with hstale
      · exact hstale.2.le
      · exact le_rfl

theorem lt_nextWake (hnow : now < tick) : now < nextWake maxInterval lastSuccess tick now := by
  unfold nextWake
  cases lastSuccess with
  | none => exact hnow
  | some last =>
      dsimp only
      split_ifs with hstale
      · exact hstale.1
      · exact hnow

/-- While the last publication is fresh, a loop sleeps until the next tick or until the publication
becomes stale, whichever is earlier. -/
theorem nextWake_of_fresh {last : Instant} (hnow : now < last + maxInterval) :
    nextWake maxInterval (some last) tick now = min (last + maxInterval) tick := by
  simp only [nextWake]
  split_ifs with hstale
  · exact (min_eq_left hstale.2.le).symm
  · exact (min_eq_right (Nat.le_of_not_lt fun hlt => hstale ⟨hnow, hlt⟩)).symm

/-- A loop does not sleep past the instant at which its last publication becomes stale. -/
theorem nextWake_le_stale {last : Instant} (hnow : now < last + maxInterval) :
    nextWake maxInterval (some last) tick now ≤ last + maxInterval :=
  (nextWake_of_fresh hnow).trans_le (Nat.min_le_left _ _)

end Schedule

/-! ## Steps and runs -/

/-- What a step of a loop finds around it. -/
structure Surroundings where
  profile : Profile
  ledger : Ledger
  tracker : Tracker
  /-- Everything that agents share; the clock is the run's own. -/
  site : Site

/-- What a step of a loop did. -/
inductive Deed where
  /-- It woke and skipped the tick. -/
  | skipped (now : Instant)
  /-- It woke and began a publication. -/
  | began (now : Instant)
  | ended (flight : Publication) (now : Instant) (result : Except CallError Unit)

/-- A loop with what it has done, the last first. -/
structure Recorded where
  loop : StatusSync
  /-- The instant of the last step. -/
  now : Instant
  history : List Deed

/-- What a loop did at a site, when it was one thing before the step and another after. -/
def deed (before after : StatusSync) (site : Site) : Deed :=
  match before.flight with
  | none => if after.flight.isSome then .began site.now else .skipped site.now
  | some flight =>
      .ended flight site.now (site.settlePublish flight.call before.identity flight.snapshot).1

namespace Recorded

/-- A loop that is started at `now`, with its first tick at `anchor`. -/
def start (identity : Identity) (policy : StatusPolicy) (retry : RetryPolicy)
    (anchor now : Instant) : Recorded :=
  { loop := .start identity policy retry anchor, now, history := [] }

/-- When the next step is taken. -/
def due (r : Recorded) : Instant := max r.now r.loop.wakesAt

/-- Takes a step at the instant at which it is due. -/
def step (r : Recorded) (around : Surroundings) : Except LoopExit Recorded :=
  let site := { around.site with now := r.due }
  match (r.loop.act around.profile around.ledger around.tracker site).1 with
  | .error exit => .error exit
  | .ok loop => .ok { loop, now := r.due, history := deed r.loop loop site :: r.history }

/-- Takes steps one after the other, unless the loop ends. -/
def run (r : Recorded) (around : Nat → Surroundings) : Nat → Except LoopExit Recorded
  | 0 => .ok r
  | steps + 1 =>
      match r.run around steps with
      | .error exit => .error exit
      | .ok reached => reached.step (around steps)

theorem run_succ {first r : Recorded} {around : Nat → Surroundings} {steps : Nat}
    (hrun : first.run around steps = .ok r) :
    first.run around (steps + 1) = r.step (around steps) := by
  simp [run, hrun]

end Recorded

/-- The loop after it woke at `now` and evaluated the conditions. -/
def woken (s : StatusSync) (conditions : List NodeCondition) (now : Instant) : StatusSync :=
  { s with nextTick := catchUp s.policy.minInterval s.nextTick now, conditions }

variable {r next : Recorded} {around : Surroundings}

/-- The status that a step finds. -/
def Recorded.snapshot (r : Recorded) (around : Surroundings) : StatusSnapshot :=
  snapshotOf r.loop.policy around.profile around.ledger.snapshot r.loop.conditions
    (around.site.epoch.later r.due)

/-- An idle loop after a step in which it skipped the tick. -/
def Recorded.skipping (r : Recorded) (conditions : List NodeCondition) : Recorded :=
  { loop := (r.loop.woken conditions r.due).sleepFrom r.due
    now := r.due
    history := .skipped r.due :: r.history }

/-- An idle loop after a step in which it began a publication. -/
def Recorded.beginning (r : Recorded) (flight : Publication) : Recorded :=
  { loop := { r.loop.woken flight.snapshot.conditions r.due with flight := some flight }
    now := r.due
    history := .began r.due :: r.history }

/-- The publication that an idle loop begins if it does not skip the tick. -/
def Recorded.publication (r : Recorded) (around : Surroundings) : Publication :=
  { call := Site.beginCall { around.site with now := r.due } r.loop.callLimit
    snapshot := r.snapshot around }

theorem Recorded.step_of_wanted (hidle : r.loop.flight = none)
    (hwanted : r.loop.shouldPublish (r.snapshot around).conditions r.due = true) :
    r.step around = .ok (r.beginning (r.publication around)) := by
  let site := { around.site with now := r.due }
  have htick : (r.loop.tick around.profile around.ledger site).1 =
      (r.beginning (r.publication around)).loop := by
    unfold tick
    exact congrArg Prod.fst (if_pos hwanted)
  simp only [step, act, hidle, htick, deed, site]
  rfl

theorem Recorded.step_of_unwanted (hidle : r.loop.flight = none)
    (hunwanted : r.loop.shouldPublish (r.snapshot around).conditions r.due = false) :
    r.step around = .ok (r.skipping (r.snapshot around).conditions) := by
  let site := { around.site with now := r.due }
  have htick : (r.loop.tick around.profile around.ledger site).1 =
      (r.skipping (r.snapshot around).conditions).loop := by
    unfold tick
    exact congrArg Prod.fst (if_neg (Bool.eq_false_iff.1 hunwanted))
  simp only [step, act, hidle, htick, deed, site]
  rfl

/-- A step of an idle loop always works: it begins a publication or skips the tick. -/
theorem Recorded.step_of_idle (hidle : r.loop.flight = none) (around : Surroundings) :
    let snapshot := r.snapshot around
    (r.loop.shouldPublish snapshot.conditions r.due = true ∧
      ∃ flight : Publication, flight.call.begun = r.due ∧ flight.snapshot = snapshot ∧
        r.step around = .ok (r.beginning flight)) ∨
    (r.loop.shouldPublish snapshot.conditions r.due = false ∧
      r.step around = .ok (r.skipping snapshot.conditions)) := by
  intro snapshot
  cases hwanted : r.loop.shouldPublish snapshot.conditions r.due with
  | true => exact .inl ⟨rfl, r.publication around, rfl, rfl, step_of_wanted hidle hwanted⟩
  | false => exact .inr ⟨rfl, step_of_unwanted hidle hwanted⟩

/-- What becomes of the publication in flight. -/
def Recorded.answer (r : Recorded) (around : Surroundings) (flight : Publication) :
    Except CallError Unit :=
  (Site.settlePublish { around.site with now := r.due } flight.call r.loop.identity
    flight.snapshot).1

theorem Recorded.step_eq_of_flight {flight : Publication} (hflight : r.loop.flight = some flight)
    (around : Surroundings) :
    r.step around =
      match r.loop.afterPublication flight (r.answer around flight) r.due with
      | .error exit => .error exit
      | .ok loop =>
          .ok { loop, now := r.due
                history := .ended flight r.due (r.answer around flight) :: r.history } := by
  let site := { around.site with now := r.due }
  -- Settling takes no time, so the publication ends at the instant of the step.
  have hact : (r.loop.act around.profile around.ledger around.tracker site).1 =
      r.loop.afterPublication flight (r.answer around flight) r.due := by
    simp only [act, hflight]
    exact congrArg (r.loop.afterPublication flight (r.answer around flight))
      (site.settle_now flight.call _)
  simp only [step]
  rw [hact]
  simp only [deed, hflight]
  rfl

theorem Recorded.step_of_flight {flight : Publication} (hflight : r.loop.flight = some flight)
    (hstep : r.step around = .ok next) :
    ∃ result, r.loop.afterPublication flight result r.due = .ok next.loop ∧
      next.now = r.due ∧ next.history = .ended flight r.due result :: r.history := by
  rw [step_eq_of_flight hflight] at hstep
  cases hafter : r.loop.afterPublication flight (r.answer around flight) r.due with
  | error exit => simp [hafter] at hstep
  | ok loop =>
      rw [hafter] at hstep
      obtain rfl := Except.ok.inj hstep
      exact ⟨r.answer around flight, hafter, rfl, rfl⟩

/-- A publication that ended without the loss of the identity leaves the policy and the tick, and
its success is the last one. -/
theorem afterPublication_eq_ok {s after : StatusSync} {flight : Publication}
    {result : Except CallError Unit} {now : Instant}
    (h : s.afterPublication flight result now = .ok after) :
    after.policy = s.policy ∧ after.nextTick = s.nextTick ∧ after.flight = none ∧
      after.lastSuccess = (if result.isOk then some flight.call.begun else s.lastSuccess) ∧
      after.wake = nextWake s.policy.maxInterval after.lastSuccess s.nextTick now := by
  cases result with
  | ok _ =>
      obtain rfl := Except.ok.inj h
      exact ⟨rfl, rfl, rfl, rfl, rfl⟩
  | error error =>
      simp only [afterPublication] at h
      split_ifs at h
      obtain rfl := Except.ok.inj h
      exact ⟨rfl, rfl, rfl, rfl, rfl⟩

end StatusSync

end NodeFleet
