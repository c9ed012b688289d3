import Mathlib.Order.Bounds.Basic
import NodeFleet.Proofs.StatusSync.Run

/-!
# Ticks on the grid

The ticks of a status loop are a grid: one at the anchor, and one every minimal interval after
it.  A loop wakes at ticks, between them when its last publication becomes stale, and late, when
a publication took long or when nobody woke it in time.  Whenever it wakes it passes over the
ticks that are gone, and the next tick is the first on the grid that is still to come.

So missed ticks coalesce: a publication that went on over any number of ticks is followed by one
wake-up at once, and the next one after that is later.  `OnGrid` is the invariant.  Its heart is
`OnGrid.isNextTick_woken`, which needs of a wake-up only that it is later than the last one; and
that is what the invariant says of the wake-up to come.
-/

namespace NodeFleet.StatusSync

/-! ## The grid -/

/-- The instants of the ticks. -/
def ticks (anchor : Instant) (period : Duration) : Set Instant :=
  {tick | ∃ j, tick = anchor + j * period}

/-- Whether a tick is the first one after an instant. -/
def IsNextTick (anchor : Instant) (period : Duration) (now tick : Instant) : Prop :=
  IsLeast {t | t ∈ ticks anchor period ∧ now < t} tick

section Schedule

variable {anchor : Instant} {period : Duration} {tick now : Instant}

/-- Catching up adds the period for as long as the tick is not to come, and that ends. -/
theorem exists_passes (hpos : 0 < period) (tick now : Instant) :
    ∃ passes, (∀ k < passes, tick + k * period ≤ now) ∧ now < tick + passes * period ∧
      catchUp period tick now = tick + passes * period := by
  fun_induction catchUp period tick now with
  | case1 _ hzero => exact absurd hzero hpos.ne'
  | case2 tick _ hle ih =>
      obtain ⟨passes, hpasses, hends, hcaught⟩ := ih
      have hnext (k : Nat) : tick + period + k * period = tick + (k + 1) * period := by
        rw [Nat.succ_mul, Nat.add_assoc, Nat.add_comm period]
      refine ⟨passes + 1, ?_, hnext passes ▸ hends, hcaught.trans (hnext passes)⟩
      intro k hk
      cases k with
      | zero => rwa [Nat.zero_mul, Nat.add_zero]
      | succ k => exact hnext k ▸ hpasses k (Nat.lt_of_succ_lt_succ hk)
  | case3 tick _ hlt =>
      refine ⟨0, fun k hk => absurd hk (Nat.not_lt_zero k), ?_, ?_⟩
      · rw [Nat.zero_mul, Nat.add_zero]
        exact Nat.lt_of_not_le hlt
      · rw [Nat.zero_mul, Nat.add_zero]

/-- Catching up from a tick finds the next one, if all ticks before are gone. -/
theorem isNextTick_catchUp (hpos : 0 < period) (htick : tick ∈ ticks anchor period)
    (hgone : ∀ t ∈ ticks anchor period, t < tick → t ≤ now) :
    IsNextTick anchor period now (catchUp period tick now) := by
  obtain ⟨passes, hpasses, hends, hcaught⟩ := exists_passes hpos tick now
  obtain ⟨start, rfl⟩ := htick
  rw [hcaught]
  refine ⟨⟨⟨start + passes, by rw [Nat.add_mul, Nat.add_assoc]⟩, hends⟩, ?_⟩
  rintro t ⟨⟨j, rfl⟩, hlater⟩
  -- A tick between would be gone: it is before the first one, or one of those passed over.
  by_contra hless
  have hless := Nat.lt_of_not_le hless
  rcases Nat.lt_or_ge j start with hj | hj
  · have hbefore : anchor + j * period < anchor + start * period :=
      Nat.add_lt_add_left (Nat.mul_lt_mul_of_pos_right hj hpos) _
    exact absurd (hgone _ ⟨j, rfl⟩ hbefore) (Nat.not_le.2 hlater)
  · obtain ⟨k, rfl⟩ := Nat.exists_eq_add_of_le hj
    rw [Nat.add_mul, ← Nat.add_assoc] at hless hlater
    have hk : k < passes := by
      by_contra hpassed
      have hmul := Nat.mul_le_mul_right period (Nat.le_of_not_lt hpassed)
      omega
    exact absurd (hpasses k hk) (Nat.not_le.2 hlater)

theorem IsNextTick.le_iff (h : IsNextTick anchor period now tick) (ended : Instant) :
    tick ≤ ended ↔ ∃ t ∈ ticks anchor period, now < t ∧ t ≤ ended := by
  constructor
  · intro hended
    exact ⟨tick, h.1.1, h.1.2, hended⟩
  · rintro ⟨t, ht, hlater, hended⟩
    exact (h.2 ⟨ht, hlater⟩).trans hended

end Schedule

/-! ## Late steps -/

/-- A loop that is not woken until some time after it is due. -/
def Recorded.delayed (r : Recorded) (lag : Duration) : Recorded :=
  { r with now := r.due + lag }

theorem Recorded.due_delayed (r : Recorded) (lag : Duration) :
    (r.delayed lag).due = r.due + lag := by
  have hdue : r.loop.wakesAt ≤ r.due := Nat.le_max_right _ _
  exact max_eq_left (hdue.trans (Nat.le_add_right _ _))

/-- Takes steps one after the other, each of them as late as may be. -/
def Recorded.runLate (r : Recorded) (around : Nat → Surroundings) (lag : Nat → Duration) :
    Nat → Except LoopExit Recorded
  | 0 => .ok r
  | steps + 1 =>
      match r.runLate around lag steps with
      | .error exit => .error exit
      | .ok reached => (reached.delayed (lag steps)).step (around steps)

theorem Recorded.step_delayed_zero (r : Recorded) (around : Surroundings) :
    (r.delayed 0).step around = r.step around := by
  have hdue : (r.delayed 0).due = r.due := r.due_delayed 0
  simp only [step, hdue]
  rfl

/-- Steps that are not late are those of a run. -/
theorem Recorded.runLate_zero (r : Recorded) (around : Nat → Surroundings) (steps : Nat) :
    r.runLate around (fun _ => 0) steps = r.run around steps := by
  induction steps with
  | zero => rfl
  | succ steps ih =>
      rw [runLate, run, ih]
      cases r.run around steps with
      | error exit => rfl
      | ok reached => exact reached.step_delayed_zero (around steps)

/-! ## The invariant -/

/-- The instants at which a loop woke, the last first. -/
def wakings : List Deed → List Instant :=
  List.filterMap fun deed =>
    match deed with
    | .skipped now => some now
    | .began now => some now
    | .ended .. => none

/-- A loop whose ticks are on a grid. -/
structure OnGrid (anchor : Instant) (period : Duration) (r : Recorded) : Prop where
  period_eq : r.loop.policy.minInterval = period
  /-- Before it wakes for the first time, it waits for the anchor. -/
  tick_eq : wakings r.history = [] → r.loop.nextTick = anchor
  /-- Afterwards it has caught up with the instant at which it woke. -/
  isNextTick : ∀ last, (wakings r.history).head? = some last →
    IsNextTick anchor period last r.loop.nextTick
  /-- It wakes later each time. -/
  increasing : (wakings r.history).Pairwise (· > ·)
  /-- And it will wake later than ever. -/
  lt_due : r.loop.flight = none → ∀ last ∈ wakings r.history, last < r.due
  begun_eq : ∀ flight, r.loop.flight = some flight →
    (wakings r.history).head? = some flight.call.begun
  /-- After a publication it wakes at once if and only if that went on over a tick. -/
  overran_iff : ∀ flight ended result earlier, r.history = .ended flight ended result :: earlier →
    r.loop.flight = none ∧
      (r.due = ended ↔ ∃ t ∈ ticks anchor period, flight.call.begun < t ∧ t ≤ ended)

variable {anchor : Instant} {period : Duration} {r next : Recorded} {around : Surroundings}

theorem OnGrid.start (identity : Identity) (policy : StatusPolicy) (retry : RetryPolicy)
    (anchor now : Instant) :
    OnGrid anchor policy.minInterval (.start identity policy retry anchor now) where
  period_eq := rfl
  tick_eq := fun _ => rfl
  isNextTick := nofun
  increasing := List.Pairwise.nil
  lt_due := fun _ => nofun
  begun_eq := nofun
  overran_iff := nofun

/-- A loop that wakes later than ever finds the next tick. -/
theorem OnGrid.isNextTick_woken (h : OnGrid anchor period r) (hpos : 0 < period) {now : Instant}
    (hlater : ∀ last ∈ wakings r.history, last < now) :
    IsNextTick anchor period now (catchUp r.loop.policy.minInterval r.loop.nextTick now) := by
  rw [h.period_eq]
  cases hlast : (wakings r.history).head? with
  | none =>
      rw [h.tick_eq (List.head?_eq_none_iff.1 hlast)]
      refine isNextTick_catchUp hpos ⟨0, by rw [Nat.zero_mul, Nat.add_zero]⟩ ?_
      rintro t ⟨j, rfl⟩ hbefore
      exact absurd hbefore (Nat.not_lt.2 (Nat.le_add_right _ _))
  | some last =>
      have hnext := h.isNextTick last hlast
      refine isNextTick_catchUp hpos hnext.1.1 ?_
      intro t ht hbefore
      have hgone : t ≤ last := by
        by_contra hcoming
        exact absurd (hnext.2 ⟨ht, Nat.lt_of_not_le hcoming⟩) (Nat.not_le.2 hbefore)
      exact hgone.trans (hlater last (List.mem_of_head? hlast)).le

/-- A late wake-up is later than the others all the more. -/
theorem OnGrid.lt_due_delayed (h : OnGrid anchor period r) (hidle : r.loop.flight = none)
    (lag : Duration) : ∀ last ∈ wakings r.history, last < (r.delayed lag).due := by
  intro last hlast
  calc last < r.due := h.lt_due hidle last hlast
    _ ≤ r.due + lag := Nat.le_add_right _ _
    _ = (r.delayed lag).due := (r.due_delayed lag).symm

theorem OnGrid.beginning (h : OnGrid anchor period r) (hpos : 0 < period)
    (hidle : r.loop.flight = none) {lag : Duration} {flight : Publication}
    (hbegun : flight.call.begun = (r.delayed lag).due) :
    OnGrid anchor period ((r.delayed lag).beginning flight) := by
  have hlater := h.lt_due_delayed hidle lag
  refine
    { period_eq := h.period_eq
      tick_eq := nofun
      isNextTick := ?_
      increasing := List.pairwise_cons.2 ⟨hlater, h.increasing⟩
      lt_due := nofun
      begun_eq := ?_
      overran_iff := nofun }
  · rintro last hlast
    obtain rfl := Option.some.inj hlast
    exact h.isNextTick_woken hpos hlater
  · rintro flight' hflight
    obtain rfl := Option.some.inj hflight
    exact congrArg some hbegun.symm

theorem OnGrid.skipping (h : OnGrid anchor period r) (hpos : 0 < period)
    (hidle : r.loop.flight = none) (lag : Duration) (conditions : List NodeCondition) :
    OnGrid anchor period ((r.delayed lag).skipping conditions) := by
  have hlater := h.lt_due_delayed hidle lag
  have hnext := h.isNextTick_woken hpos hlater
  have hdue : (r.delayed lag).due < ((r.delayed lag).skipping conditions).due :=
    (lt_nextWake hnext.1.2).trans_le (Nat.le_max_right _ _)
  refine
    { period_eq := h.period_eq
      tick_eq := nofun
      isNextTick := ?_
      increasing := List.pairwise_cons.2 ⟨hlater, h.increasing⟩
      lt_due := ?_
      begun_eq := nofun
      overran_iff := nofun }
  · rintro last hlast
    obtain rfl := Option.some.inj hlast
    exact hnext
  · rintro - last hlast
    rcases List.mem_cons.1 hlast with rfl | hearlier
    · exact hdue
    · exact (hlater last hearlier).trans hdue

/-- A loop that goes to sleep at an instant wakes at once if its next tick is gone, and otherwise
later. -/
theorem nextWake_le_iff {maxInterval : Duration} {lastSuccess : Option Instant}
    {tick now : Instant} : nextWake maxInterval lastSuccess tick now ≤ now ↔ tick ≤ now := by
  constructor
  · intro hwake
    by_contra hcoming
    exact absurd hwake (Nat.not_le.2 (lt_nextWake (Nat.lt_of_not_le hcoming)))
  · exact nextWake_le_tick.trans

theorem OnGrid.ended (h : OnGrid anchor period r) {lag : Duration} {flight : Publication}
    {result : Except CallError Unit} (hflight : r.loop.flight = some flight)
    (hafter : r.loop.afterPublication flight result (r.delayed lag).due = .ok next.loop)
    (hnow : next.now = (r.delayed lag).due)
    (hhistory : next.history = .ended flight (r.delayed lag).due result :: r.history) :
    OnGrid anchor period next := by
  obtain ⟨hpolicy, htick, hidle, -, hwake⟩ := afterPublication_eq_ok hafter
  have hwakings : wakings next.history = wakings r.history := by
    rw [hhistory]
    rfl
  have hbegun := h.begun_eq flight hflight
  have hnext := h.isNextTick _ hbegun
  have hdue : next.due = max (r.delayed lag).due next.loop.wake := by
    rw [Recorded.due, StatusSync.wakesAt, hidle, hnow]
  have hwoken : next.loop.wake ≤ (r.delayed lag).due ↔
      r.loop.nextTick ≤ (r.delayed lag).due := hwake ▸ nextWake_le_iff
  have hbefore : flight.call.begun ≤ (r.delayed lag).due := by
    calc flight.call.begun ≤ flight.call.endsAt := flight.call.begun_le_endsAt
      _ = r.loop.wakesAt := by rw [StatusSync.wakesAt, hflight]
      _ ≤ (r.delayed lag).due := Nat.le_max_right _ _
  have hlater : flight.call.begun < next.due := by
    rw [hdue]
    rcases Nat.lt_or_ge (r.delayed lag).due next.loop.wake with hasleep | hatonce
    · exact (hbefore.trans_lt hasleep).trans_le (Nat.le_max_right _ _)
    · -- The tick that woke it is gone, but it was still to come when the publication began.
      exact (hnext.1.2.trans_le (hwoken.1 hatonce)).trans_le (Nat.le_max_left _ _)
  refine
    { period_eq := hpolicy ▸ h.period_eq
      tick_eq := ?_
      isNextTick := ?_
      increasing := hwakings ▸ h.increasing
      lt_due := ?_
      begun_eq := ?_
      overran_iff := ?_ }
  · rw [hwakings, htick]
    exact h.tick_eq
  · rw [hwakings, htick]
    exact h.isNextTick
  · intro _ last hlast
    rw [hwakings] at hlast
    -- The publication began at the last wake-up, and all others were before.
    have hall := h.increasing
    obtain ⟨earlier, hall_eq⟩ := List.head?_eq_some_iff.1 hbegun
    rw [hall_eq] at hall hlast
    rcases List.mem_cons.1 hlast with rfl | hearlier
    · exact hlater
    · exact ((List.pairwise_cons.1 hall).1 last hearlier).trans hlater
  · intro flight' hflight'
    exact nomatch hidle.symm.trans hflight'
  · rintro flight' ended result' earlier heq
    rw [hhistory] at heq
    obtain ⟨hdeed, -⟩ := List.cons.inj heq
    obtain ⟨rfl, rfl, -⟩ := Deed.ended.inj hdeed
    refine ⟨hidle, ?_⟩
    rw [← hnext.le_iff, ← hwoken, hdue]
    exact sup_eq_left

/-! ## Whole runs -/

theorem OnGrid.step (h : OnGrid anchor period r) (hpos : 0 < period) {lag : Duration}
    (hstep : (r.delayed lag).step around = .ok next) : OnGrid anchor period next := by
  cases hflight : r.loop.flight with
  | none =>
      rcases (r.delayed lag).step_of_idle hflight around with
        ⟨-, flight, hbegun, -, heq⟩ | ⟨-, heq⟩
      · obtain rfl := Except.ok.inj (heq.symm.trans hstep)
        exact h.beginning hpos hflight hbegun
      · obtain rfl := Except.ok.inj (heq.symm.trans hstep)
        exact h.skipping hpos hflight lag _
  | some flight =>
      obtain ⟨result, hafter, hnow, hhistory⟩ :=
        Recorded.step_of_flight (r := r.delayed lag) hflight hstep
      exact h.ended hflight hafter hnow hhistory

variable {first : Recorded} {surroundings : Nat → Surroundings} {lag : Nat → Duration}

theorem Recorded.exists_of_runLate_succ {steps : Nat}
    (hrun : first.runLate surroundings lag (steps + 1) = .ok next) :
    ∃ r, first.runLate surroundings lag steps = .ok r ∧
      (r.delayed (lag steps)).step (surroundings steps) = .ok next := by
  rw [runLate] at hrun
  cases hr : first.runLate surroundings lag steps with
  | error exit =>
      rw [hr] at hrun
      exact nomatch hrun
  | ok r =>
      rw [hr] at hrun
      exact ⟨r, rfl, hrun⟩

theorem OnGrid.run (h : OnGrid anchor period first) (hpos : 0 < period) {steps : Nat}
    (hrun : first.runLate surroundings lag steps = .ok r) : OnGrid anchor period r := by
  induction steps generalizing r with
  | zero =>
      obtain rfl := Except.ok.inj hrun
      exact h
  | succ steps ih =>
      obtain ⟨before, hbefore, hstep⟩ := Recorded.exists_of_runLate_succ hrun
      exact (ih hbefore).step hpos hstep

/-- The step of an idle loop is a wake-up. -/
theorem Recorded.wakings_step_of_idle {lag : Duration} (hidle : r.loop.flight = none)
    (hstep : (r.delayed lag).step around = .ok next) :
    wakings next.history = (r.due + lag) :: wakings r.history := by
  rw [← r.due_delayed lag]
  rcases (r.delayed lag).step_of_idle hidle around with ⟨-, flight, -, -, heq⟩ | ⟨-, heq⟩
  · obtain rfl := Except.ok.inj (heq.symm.trans hstep)
    rfl
  · obtain rfl := Except.ok.inj (heq.symm.trans hstep)
    rfl

/-- No step takes back a wake-up. -/
theorem Recorded.wakings_suffix_step {lag : Duration}
    (hstep : (r.delayed lag).step around = .ok next) :
    wakings r.history <:+ wakings next.history := by
  cases hflight : r.loop.flight with
  | none =>
      rw [wakings_step_of_idle hflight hstep]
      exact List.suffix_cons _ _
  | some flight =>
      obtain ⟨result, -, -, hhistory⟩ :=
        Recorded.step_of_flight (r := r.delayed lag) hflight hstep
      rw [hhistory]
      exact List.suffix_rfl

theorem Recorded.exists_wakings_suffix {steps more : Nat}
    (hrun : first.runLate surroundings lag (steps + more) = .ok next) :
    ∃ r, first.runLate surroundings lag steps = .ok r ∧
      wakings r.history <:+ wakings next.history := by
  induction more generalizing next with
  | zero => exact ⟨next, hrun, List.suffix_rfl⟩
  | succ more ih =>
      obtain ⟨before, hbefore, hstep⟩ := exists_of_runLate_succ hrun
      obtain ⟨r, hr, hsuffix⟩ := ih hbefore
      exact ⟨r, hr, hsuffix.trans (wakings_suffix_step hstep)⟩

/-- A publication that went on over any number of ticks is followed by one wake-up for all of
them. -/
theorem OnGrid.exists_wakings (h : OnGrid anchor period first) (hpos : 0 < period)
    {steps more : Nat} (hrun : first.runLate surroundings lag steps = .ok r)
    {flight : Publication} {ended : Instant} {result : Except CallError Unit}
    {earlier : List Deed} (hhistory : r.history = .ended flight ended result :: earlier)
    {t : Instant} (ht : t ∈ ticks anchor period) (hbegun : flight.call.begun < t)
    (hended : t ≤ ended)
    (hmore : first.runLate surroundings lag (steps + 1 + more) = .ok next) :
    ∃ later, wakings next.history = later ++ (ended + lag steps) :: wakings r.history ∧
      ∀ wake ∈ later, ended + lag steps < wake := by
  obtain ⟨hidle, hiff⟩ := (h.run hpos hrun).overran_iff flight ended result earlier hhistory
  have hdue := hiff.2 ⟨t, ht, hbegun, hended⟩
  have hgrid := (h.run hpos hmore).increasing
  obtain ⟨woken, hsucc, later, hlater⟩ := Recorded.exists_wakings_suffix hmore
  obtain ⟨r', hr', hstep⟩ := Recorded.exists_of_runLate_succ hsucc
  obtain rfl := Except.ok.inj (hrun.symm.trans hr')
  have hwoken := Recorded.wakings_step_of_idle hidle hstep
  rw [hdue] at hwoken
  rw [hwoken] at hlater
  refine ⟨later, hlater.symm, ?_⟩
  intro wake hwake
  rw [← hlater] at hgrid
  exact (List.pairwise_append.1 hgrid).2.2 wake hwake _ (List.mem_cons_self ..)

/-- The ticks of a status loop stay on the grid, and it never wakes twice at one instant: catching
up ends with the first tick that is to come, a loop wakes later each time, and all the ticks that
a publication went on over come to one wake-up. -/
theorem ticks_stay_on_grid (identity : Identity) (policy : StatusPolicy) (retry : RetryPolicy)
    (anchor now : Instant) (surroundings : Nat → Surroundings) (lag : Nat → Duration)
    (hpos : 0 < policy.minInterval) :
    let period := policy.minInterval
    let run := (Recorded.start identity policy retry anchor now).runLate surroundings lag
    (∀ tick instant, ∃ passes, (∀ k < passes, tick + k * period ≤ instant) ∧
      instant < tick + passes * period ∧
      catchUp period tick instant = tick + passes * period) ∧
    ∀ steps r, run steps = .ok r → OnGrid anchor period r ∧
      ∀ flight ended result earlier t, r.history = .ended flight ended result :: earlier →
        t ∈ ticks anchor period → flight.call.begun < t → t ≤ ended →
        ∀ more next, run (steps + 1 + more) = .ok next →
          ∃ later, wakings next.history = later ++ (ended + lag steps) :: wakings r.history ∧
            ∀ wake ∈ later, ended + lag steps < wake := by
  intro period run
  have hstart : OnGrid anchor period (.start identity policy retry anchor now) :=
    .start identity policy retry anchor now
  refine ⟨exists_passes hpos, ?_⟩
  intro steps r hrun
  refine ⟨hstart.run hpos hrun, ?_⟩
  intro flight ended result earlier t hhistory ht hbegun hended more next hmore
  exact hstart.exists_wakings hpos hrun hhistory ht hbegun hended hmore

/-- A publication from 3 to 38 goes on over the ticks at 13, 23 and 33.  The loop wakes once at 38,
and its next tick is at 43. -/
theorem ticks_coalesce_after_slow_publication :
    let identity : Identity := ⟨"node", "uid-0", 0⟩
    let policy : StatusPolicy := { minInterval := 10, maxInterval := 25, pressureThreshold := 0 }
    let retry : RetryPolicy := ⟨3, 1, 8, 40⟩
    let profile : Profile := ⟨1000, 1, 0, 0, 2, ⟨0, 24⟩⟩
    let plane := ((ControlPlane.empty 0).register identity profile 0 ⟨0, 0⟩).2.setLatency 35
    let around : Surroundings :=
      { profile
        ledger := .empty profile.allocatable
        tracker := .create "node" 3
        site := .create plane ⟨0, 0⟩ }
    let first := Recorded.start identity policy retry 3 0
    ∃ slow woken, first.run (fun _ => around) 2 = .ok slow ∧ slow.due = 38 ∧
      first.run (fun _ => around) 3 = .ok woken ∧ woken.loop.nextTick = 43 ∧
      ∀ more next, first.run (fun _ => around) (3 + more) = .ok next →
        ∃ later, wakings next.history = later ++ [38, 3] ∧ ∀ wake ∈ later, 38 < wake := by
  intro identity policy retry profile plane around first
  obtain ⟨slow, hslow, flight, earlier, result, hhistory, hbegun, hearlier⟩ :
      ∃ slow, first.run (fun _ => around) 2 = .ok slow ∧ ∃ flight earlier result,
        slow.history = .ended flight 38 result :: earlier ∧ flight.call.begun = 3 ∧
          wakings slow.history = [3] :=
    ⟨_, rfl, _, _, _, rfl, rfl, rfl⟩
  obtain ⟨-, hall⟩ :=
    ticks_stay_on_grid identity policy retry 3 0 (fun _ => around) (fun _ => 0) (by decide)
  simp only [Recorded.runLate_zero] at hall
  obtain ⟨hgrid, hcoalesce⟩ := hall 2 slow hslow
  obtain ⟨hidle, hoverran⟩ := hgrid.overran_iff flight 38 result earlier hhistory
  have hthirteen : 13 ∈ ticks 3 10 := ⟨1, rfl⟩
  have hlate : flight.call.begun < 13 := hbegun.trans_lt (by decide)
  have hafter := hcoalesce flight 38 result earlier 13 hhistory hthirteen hlate (by decide)
  rw [hearlier] at hafter
  obtain ⟨woken, hwoken⟩ : ∃ woken, slow.step around = .ok woken := by
    rcases slow.step_of_idle hidle around with ⟨-, flight, -, -, heq⟩ | ⟨-, heq⟩
    · exact ⟨_, heq⟩
    · exact ⟨_, heq⟩
  have hrun : first.run (fun _ => around) 3 = .ok woken :=
    (Recorded.run_succ hslow).trans hwoken
  have hdue : slow.due = 38 := hoverran.2 ⟨13, hthirteen, hlate, by decide⟩
  have hwakings : (wakings woken.history).head? = some 38 := by
    rw [Recorded.wakings_step_of_idle hidle ((slow.step_delayed_zero around).trans hwoken), hdue]
    rfl
  refine ⟨slow, woken, hslow, hdue, hrun, ?_, hafter⟩
  apply ((hall 3 woken hrun).1.isNextTick 38 hwakings).unique
  refine ⟨⟨⟨4, rfl⟩, by decide⟩, ?_⟩
  rintro t ⟨⟨j, rfl⟩, hj⟩
  have hj : (38 : Nat) < 3 + j * 10 := hj
  show (43 : Nat) ≤ 3 + j * 10
  omega

end NodeFleet.StatusSync
