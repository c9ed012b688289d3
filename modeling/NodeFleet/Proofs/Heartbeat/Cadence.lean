import Mathlib.Order.MinMax
import Mathlib.Tactic.SplitIfs
import NodeFleet.Proofs.Heartbeat.Run

/-!
# The cadence of a heartbeat

An attempt is scheduled one period after the instant for which the attempt before it was
scheduled, not after the instant at which that began.  So a call that takes longer than a
period makes the next attempts late, but it does not move the schedule, and the loop
catches up with it.  Only a failure moves the schedule, if its delay ends after the next
tick: then the next attempt is scheduled for the end of the delay
(`Attempt.pushed?`), and those that follow go on from there.

`Attempt.Follows` says when an attempt is scheduled and when it begins, given the attempts
before it, and `Paced` carries that along a run.  From it the schedule is read off in
closed form, from the anchor (`Timely.scheduled_of_unpushed`) and from the last failure
that moved it (`Timely.scheduled_of_pushed`).  Consecutive attempts are scheduled at least
a period apart; `Timely.add_le_began_iff` says when they also begin that far apart.
-/

namespace NodeFleet.Heartbeat

/-! ## What the attempts before decide -/

/-- The instant to which an attempt pushes the next one: the end of its delay if it failed and the
delay ends after the next tick. -/
def Attempt.pushed? (period : Duration) (a : Attempt) : Option Instant :=
  match a.ending with
  | some ⟨ended, .error _⟩ =>
      if a.scheduled + period < ended + a.delay then some (ended + a.delay) else none
  | _ => none

/-- The instant for which the attempt after some others, the last first, is scheduled. -/
def scheduledAfter (period : Duration) (anchor : Instant) : List Attempt → Instant
  | [] => anchor + period
  | last :: _ => (last.pushed? period).getD (last.scheduled + period)

/-- The instant from which a loop is free to begin the attempt after some others: the end of the
last one, or for the first attempt the start of the loop. -/
def freeAfter (started : Instant) : List Attempt → Instant
  | [] => started
  | last :: _ => (last.ending.map Ending.instant).getD last.began

/-- The backoff after some attempts: each failure counts, and each success resets it. -/
def backoffAfter (retry : RetryPolicy) : List Attempt → Backoff
  | [] => .start retry.backoffBase retry.backoffMax
  | last :: earlier =>
      match last.ending with
      | some ⟨_, .ok _⟩ => (backoffAfter retry earlier).reset
      | some ⟨_, .error _⟩ => (backoffAfter retry earlier).fail
      | none => backoffAfter retry earlier

section Schedule

variable (period : Duration) (retry : RetryPolicy) (anchor started : Instant)

/-- An attempt is scheduled and begins as the attempts before it say. -/
structure Attempt.Follows (a : Attempt) (earlier : List Attempt) : Prop where
  scheduled_eq : a.scheduled = scheduledAfter period anchor earlier
  /-- It begins when it is due, or as soon as the loop is free. -/
  began_eq : a.began = max a.scheduled (freeAfter started earlier)
  delay_eq : a.delay = (backoffAfter retry earlier).delay
  /-- The attempts before it are over. -/
  ended : ∀ b ∈ earlier, b.ending.isSome = true
  began_le : ∀ ending ∈ a.ending, a.began ≤ ending.instant

/-- Every attempt follows those before it. -/
def Timely (attempts : List Attempt) : Prop :=
  ∀ later a earlier, attempts = later ++ a :: earlier →
    a.Follows period retry anchor started earlier

end Schedule

variable {period : Duration} {retry : RetryPolicy} {anchor started : Instant}
  {a b : Attempt} {earlier between : List Attempt}

theorem Timely.follows (h : Timely period retry anchor started (a :: earlier)) :
    a.Follows period retry anchor started earlier :=
  h [] a earlier rfl

theorem Timely.tail (h : Timely period retry anchor started (a :: earlier)) :
    Timely period retry anchor started earlier := by
  rintro later b before rfl
  exact h (a :: later) b before rfl

theorem Timely.cons (h : Timely period retry anchor started earlier)
    (ha : a.Follows period retry anchor started earlier) :
    Timely period retry anchor started (a :: earlier) := by
  intro later b before heq
  cases later with
  | nil =>
      obtain ⟨rfl, rfl⟩ := List.cons.inj heq
      exact ha
  | cons c later => exact h later b before (List.cons.inj heq).2

theorem Timely.of_append {later : List Attempt}
    (h : Timely period retry anchor started (later ++ earlier)) :
    Timely period retry anchor started earlier := by
  rintro front b before rfl
  exact h (later ++ front) b before (List.append_assoc _ _ _).symm

/-! ## The schedule in closed form -/

/-- While no failure moves the schedule, it goes on period by period. -/
theorem Timely.scheduled_of_between
    (h : Timely period retry anchor started (a :: (between ++ earlier)))
    (hnone : ∀ c ∈ between, c.pushed? period = none) :
    a.scheduled = scheduledAfter period anchor earlier + between.length * period := by
  induction between generalizing a with
  | nil => simpa using h.follows.scheduled_eq
  | cons last between ih =>
      have hlast := ih h.tail fun c hc => hnone c (List.mem_cons_of_mem _ hc)
      calc a.scheduled
          = last.scheduled + period := by
            rw [h.follows.scheduled_eq, List.cons_append, scheduledAfter,
              hnone last List.mem_cons_self, Option.getD_none]
        _ = scheduledAfter period anchor earlier + (last :: between).length * period := by
            rw [hlast, List.length_cons, Nat.succ_mul, Nat.add_assoc]

/-- If no failure has moved the schedule, the attempts are scheduled for the ticks after the
anchor. -/
theorem Timely.scheduled_of_unpushed (h : Timely period retry anchor started (a :: earlier))
    (hnone : ∀ b ∈ earlier, b.pushed? period = none) :
    a.scheduled = anchor + (earlier.length + 1) * period := by
  rw [← List.append_nil earlier] at h
  rw [h.scheduled_of_between hnone, scheduledAfter, Nat.succ_mul, Nat.add_assoc,
    Nat.add_comm period]

/-- If a failure has moved the schedule, it goes on from there. -/
theorem Timely.scheduled_of_pushed {instant : Instant}
    (h : Timely period retry anchor started (a :: (between ++ b :: earlier)))
    (hpushed : b.pushed? period = some instant)
    (hnone : ∀ c ∈ between, c.pushed? period = none) :
    a.scheduled = instant + between.length * period := by
  rw [h.scheduled_of_between hnone, scheduledAfter, hpushed, Option.getD_some]

/-! ## The distance between attempts -/

/-- The next attempt is scheduled for the next tick or, after a failure, for the end of the delay,
whichever is later. -/
theorem le_scheduledAfter_iff {instant : Instant} :
    instant ≤ scheduledAfter period anchor (b :: earlier) ↔
      instant ≤ b.scheduled + period ∨
        ∃ ending ∈ b.ending, ending.result.isOk = false ∧ instant ≤ ending.instant + b.delay := by
  rw [scheduledAfter, Attempt.pushed?]
  match b.ending with
  | none => simp
  | some ⟨ended, .ok version⟩ => simp [Except.isOk, Except.toBool]
  | some ⟨ended, .error error⟩ =>
      simp only [Option.mem_some_iff, exists_eq_left', Except.isOk, Except.toBool, true_and]
      split_ifs with hlate
      · rw [Option.getD_some]
        exact ⟨.inr, fun hle => hle.elim (fun htick => htick.trans hlate.le) id⟩
      · rw [Option.getD_none]
        exact ⟨.inl, fun hle => hle.elim id fun hend => hend.trans (Nat.not_lt.1 hlate)⟩

/-- No attempt begins before it is due. -/
theorem Attempt.Follows.scheduled_le_began
    (h : a.Follows period retry anchor started earlier) : a.scheduled ≤ a.began := by
  rw [h.began_eq]
  exact le_max_left _ _

/-- Consecutive attempts are scheduled at least a period apart. -/
theorem Timely.add_le_scheduled (h : Timely period retry anchor started (a :: b :: earlier)) :
    b.scheduled + period ≤ a.scheduled := by
  rw [h.follows.scheduled_eq]
  exact le_scheduledAfter_iff.2 (.inl le_rfl)

/-- Consecutive attempts begin at least a period apart if the first of them begins on time.  If it
begins late, they do so only if its call or the delay after it takes until then. -/
theorem Timely.add_le_began_iff (h : Timely period retry anchor started (a :: b :: earlier)) :
    b.began + period ≤ a.began ↔
      b.began = b.scheduled ∨ ∃ ending ∈ b.ending,
        b.began + period ≤ ending.instant ∨
          (ending.result.isOk = false ∧ b.began + period ≤ ending.instant + b.delay) := by
  obtain ⟨ending, hending⟩ := Option.isSome_iff_exists.1 (h.follows.ended b List.mem_cons_self)
  -- The next tick is a period after the attempt was due, so a period after it began only if it
  -- began on time; otherwise the delay or the call itself must reach that far.
  have hdue := h.tail.follows.scheduled_le_began
  have htick : b.began + period ≤ b.scheduled + period ↔ b.began = b.scheduled :=
    ⟨fun hle => le_antisymm (Nat.le_of_add_le_add_right hle) hdue, fun heq => heq ▸ le_rfl⟩
  rw [h.follows.began_eq, h.follows.scheduled_eq, le_max_iff, le_scheduledAfter_iff, htick]
  simp only [freeAfter, hending, Option.mem_some_iff, exists_eq_left', Option.map_some,
    Option.getD_some]
  rw [or_assoc, or_comm (a := ending.result.isOk = false ∧ _)]

/-- While no call takes longer than a period, every attempt begins on time. -/
theorem Timely.began_eq_scheduled (h : Timely period retry anchor started (a :: earlier))
    (hstarted : started ≤ anchor + period)
    (hquick : ∀ c ∈ earlier, ∀ ending ∈ c.ending, ending.instant ≤ c.began + period) :
    a.began = a.scheduled := by
  rw [h.follows.began_eq]
  refine max_eq_left ?_
  induction earlier generalizing a with
  | nil =>
      rw [h.follows.scheduled_eq]
      exact hstarted
  | cons b earlier ih =>
      -- The attempt before is on time too, so its call is over by the next tick.
      have hfree := ih h.tail fun c hc => hquick c (List.mem_cons_of_mem _ hc)
      have hbegan : b.began = b.scheduled := by
        rw [h.tail.follows.began_eq]
        exact max_eq_left hfree
      obtain ⟨ending, hending⟩ :=
        Option.isSome_iff_exists.1 (h.follows.ended b List.mem_cons_self)
      calc freeAfter started (b :: earlier)
          = ending.instant := by rw [freeAfter, hending, Option.map_some, Option.getD_some]
        _ ≤ b.began + period := hquick b List.mem_cons_self ending hending
        _ = b.scheduled + period := by rw [hbegan]
        _ ≤ a.scheduled := h.add_le_scheduled

/-! ## Steps -/

/-- A loop keeps its cadence. -/
structure Paced (period : Duration) (retry : RetryPolicy) (anchor started : Instant)
    (r : Recorded) : Prop where
  period_eq : r.loop.period = period
  timely : Timely period retry anchor started r.attempts
  /-- An idle loop is scheduled as the attempts say, which are all over. -/
  idle : r.loop.call = none →
    r.loop.scheduled = scheduledAfter period anchor r.attempts ∧
      r.now = freeAfter started r.attempts ∧
      r.loop.backoff = backoffAfter retry r.attempts ∧
      ∀ b ∈ r.attempts, b.ending.isSome = true
  /-- A loop with a call in flight is at its last attempt. -/
  busy : r.loop.call ≠ none →
    ∃ earlier, r.attempts =
      { scheduled := r.loop.scheduled, began := r.now, delay := r.loop.backoff.delay
        ending := none } :: earlier ∧
      r.loop.backoff = backoffAfter retry earlier

variable {r : Recorded}

theorem start_paced (identity : Identity) (version : Nat) (period : Duration)
    (retry : RetryPolicy) (anchor started : Instant) :
    Paced period retry anchor started
      (.start identity version period retry anchor started) where
  period_eq := rfl
  timely later a earlier heq := by simp [Recorded.start] at heq
  idle _ := ⟨rfl, rfl, rfl, nofun⟩
  busy hbusy := absurd rfl hbusy

theorem Paced.begun (h : Paced period retry anchor started r) (hidle : r.loop.call = none)
    (call : Call) :
    Paced period retry anchor started
      { loop := { r.loop with call := some call }, now := r.due
        attempts := r.upcoming :: r.attempts } := by
  obtain ⟨hscheduled, hfree, hbackoff, hover⟩ := h.idle hidle
  have hdue : r.due = max r.loop.scheduled (freeAfter started r.attempts) := by
    rw [Recorded.due, wakesAt, hidle, hfree, max_comm]
  have hfollows : r.upcoming.Follows period retry anchor started r.attempts :=
    ⟨hscheduled, hdue, congrArg Backoff.delay hbackoff, hover, nofun⟩
  constructor
  · exact h.period_eq
  · exact h.timely.cons hfollows
  · intro hnone
    cases hnone
  · intro _
    exact ⟨r.attempts, rfl, hbackoff⟩

theorem reschedule_scheduled (h : Heartbeat) (last : Attempt) (result : Except CallError Nat)
    (now : Instant) (hlast : last.scheduled = h.scheduled) (hdelay : last.delay = h.backoff.delay) :
    (h.reschedule result now).scheduled =
      ({ last with ending := some ⟨now, result⟩ }.pushed? h.period).getD
        (last.scheduled + h.period) := by
  cases result with
  | ok version => exact congrArg (· + h.period) hlast.symm
  | error error =>
      simp only [reschedule, Attempt.pushed?, hlast, hdelay]
      split_ifs with hlate
      · exact max_eq_right hlate.le
      · exact max_eq_left (Nat.not_lt.1 hlate)

theorem reschedule_frame (h : Heartbeat) (result : Except CallError Nat) (now : Instant) :
    (h.reschedule result now).call = none ∧ (h.reschedule result now).period = h.period := by
  cases result <;> exact ⟨rfl, rfl⟩

theorem Paced.ended (h : Paced period retry anchor started r) (hbusy : r.loop.call ≠ none)
    (result : Except CallError Nat) :
    Paced period retry anchor started
      { loop := r.loop.reschedule result r.due, now := r.due
        attempts := endLast { instant := r.due, result } r.attempts } := by
  obtain ⟨earlier, hattempts, hbackoff⟩ := h.busy hbusy
  obtain ⟨hcall, hperiod⟩ := reschedule_frame r.loop result r.due
  have htimely := h.timely
  rw [hattempts] at htimely ⊢
  obtain ⟨hscheduled, hbegan, hdelay, hover, -⟩ := htimely.follows
  have hnow : r.now ≤ r.due := le_max_left _ _
  constructor
  · exact hperiod.trans h.period_eq
  · refine htimely.tail.cons ⟨hscheduled, hbegan, hdelay, hover, fun ending hending => ?_⟩
    obtain rfl := Option.some.inj hending
    exact hnow
  · intro _
    refine ⟨?_, rfl, ?_, List.forall_mem_cons.2 ⟨rfl, hover⟩⟩
    · rw [← h.period_eq]
      exact reschedule_scheduled r.loop _ result r.due rfl rfl
    · rw [endLast, backoffAfter, ← hbackoff]
      cases result <;> rfl
  · intro hbusy
    exact absurd hcall hbusy

/-! ## Runs -/

/-- What holds after some steps of a run: the loop keeps its cadence, every second step begins an
attempt, and only the loss of the identity ends the loop. -/
theorem run_paced (identity : Identity) (version : Nat) (period : Duration) (retry : RetryPolicy)
    (anchor started : Instant) (surroundings : Nat → Surroundings) (steps : Nat) :
    match (Recorded.start identity version period retry anchor started).run surroundings steps with
    | .error exit => ∃ error : CallError, error.isIdentityLost = true ∧ exit = .superseded error
    | .ok r => Paced period retry anchor started r ∧
        2 * r.attempts.length = steps + if r.loop.call.isSome then 1 else 0 := by
  induction steps with
  | zero => exact ⟨start_paced identity version period retry anchor started, rfl⟩
  | succ steps ih =>
      rw [Recorded.run]
      cases hrun : (Recorded.start identity version period retry anchor started).run surroundings
          steps with
      | error exit =>
          rw [hrun] at ih
          exact ih
      | ok r =>
          rw [hrun] at ih
          obtain ⟨hpaced, hcount⟩ := ih
          -- An idle loop begins an attempt, and one with a call in flight ends it.
          cases hcall : r.loop.call with
          | none =>
              obtain ⟨call, hstep⟩ := Recorded.step_of_idle hcall (surroundings steps)
              simp only [hstep]
              refine ⟨hpaced.begun hcall call, ?_⟩
              simp only [hcall, Option.isSome_none, Option.isSome_some, List.length_cons,
                Bool.false_eq_true, if_false, if_true] at hcount ⊢
              omega
          | some call =>
              have hbusy : r.loop.call ≠ none := by simp [hcall]
              rcases Recorded.step_of_call hcall (surroundings steps) with
                ⟨error, hlost, hstep⟩ | ⟨result, hstep⟩
              · simp only [hstep]
                exact ⟨error, hlost, rfl⟩
              · simp only [hstep]
                refine ⟨hpaced.ended hbusy result, ?_⟩
                have hlength : (endLast ⟨r.due, result⟩ r.attempts).length =
                    r.attempts.length := by
                  cases r.attempts <;> rfl
                simp only [hlength, (reschedule_frame r.loop result r.due).1, hcall,
                  Option.isSome_none, Option.isSome_some, Bool.false_eq_true, if_false,
                  if_true] at hcount ⊢
                omega

/-- The cadence is exact and does not drift.  In every run each attempt begins when it is due, or as
soon as the call before it is over.  While no failure has moved the schedule, the `n`-th attempt is
scheduled for the `n`-th tick after the anchor; and when a failure moves the schedule to the end of
its delay, the attempts are scheduled period by period from there, until the next such failure. -/
theorem cadence_exact (identity : Identity) (version : Nat) (period : Duration)
    (retry : RetryPolicy) (anchor started : Instant) (surroundings : Nat → Surroundings)
    (steps : Nat) :
    match (Recorded.start identity version period retry anchor started).run surroundings steps with
    | .error exit => ∃ error : CallError, error.isIdentityLost = true ∧ exit = .superseded error
    | .ok r =>
        r.attempts.length = (steps + 1) / 2 ∧
        ∀ later a earlier, r.attempts = later ++ a :: earlier →
          a.Follows period retry anchor started earlier ∧
          ((∀ b ∈ earlier, b.pushed? period = none) →
            a.scheduled = anchor + (earlier.length + 1) * period) ∧
          ∀ between b before instant, earlier = between ++ b :: before →
            b.pushed? period = some instant → (∀ c ∈ between, c.pushed? period = none) →
            a.scheduled = instant + between.length * period := by
  have hrun := run_paced identity version period retry anchor started surroundings steps
  cases hreached : (Recorded.start identity version period retry anchor started).run surroundings
      steps with
  | error exit =>
      rw [hreached] at hrun
      exact hrun
  | ok r =>
      rw [hreached] at hrun
      obtain ⟨hpaced, hcount⟩ := hrun
      refine ⟨?_, fun later a earlier hattempts => ?_⟩
      · split at hcount <;> omega
      · have htimely : Timely period retry anchor started (a :: earlier) :=
          (hattempts ▸ hpaced.timely).of_append
        refine ⟨htimely.follows, htimely.scheduled_of_unpushed, ?_⟩
        rintro between b before instant rfl hpushed hnone
        exact htimely.scheduled_of_pushed hpushed hnone

/-- The first attempt times out at 14 and moves the schedule from 20 to 22, so the third attempt is
scheduled for 32. -/
theorem cadence_exact_after_timeout :
    let identity : Identity := ⟨"node", "uid-0", 0⟩
    let retry : RetryPolicy := ⟨3, 8, 8, 4⟩
    let profile : Profile := ⟨1000, 1, 0, 0, 2, ⟨0, 24⟩⟩
    let plane := ((ControlPlane.empty 0).register identity profile 0 ⟨0, 0⟩).2
    let around (step : Nat) : Surroundings :=
      { tracker := .create "node" 3
        site := .create (plane.setLatency (if step < 2 then 5 else 1)) ⟨0, 0⟩ }
    ∃ r first second third, (Recorded.start identity 1 10 retry 0 0).run around 5 = .ok r ∧
      r.attempts = [third, second, first] ∧ first.pushed? 10 = some 22 ∧
      second.pushed? 10 = none ∧ third.scheduled = 22 + 1 * 10 := by
  intro identity retry profile plane around
  obtain ⟨r, first, second, third, hrun, hattempts, hfirst, hsecond⟩ :
      ∃ r first second third, (Recorded.start identity 1 10 retry 0 0).run around 5 = .ok r ∧
        r.attempts = [third, second, first] ∧ first.pushed? 10 = some 22 ∧
        second.pushed? 10 = none :=
    ⟨_, _, _, _, rfl, rfl, rfl, rfl⟩
  have hcadence := cadence_exact identity 1 10 retry 0 0 around 5
  rw [hrun] at hcadence
  obtain ⟨-, -, hpushed⟩ := hcadence.2 [] third [second, first] hattempts
  refine ⟨r, first, second, third, hrun, hattempts, hfirst, hsecond, ?_⟩
  exact hpushed [second] first [] 22 rfl hfirst (by simpa using hsecond)

/-- Attempts are never brought forward of their schedule.  In every run no attempt begins before it
is due, and consecutive attempts are due at least a period apart.  They also begin at least a period
apart if the first of them begins on time.  If it begins late, because the call before it is not
over, the loop catches up: the next attempt begins a period later only if the late call, or the
delay after its failure, takes until then.  No attempt is late unless some call before it takes
longer than a period. -/
theorem attempts_spaced_unless_late (identity : Identity) (version : Nat) (period : Duration)
    (retry : RetryPolicy) (anchor started : Instant) (surroundings : Nat → Surroundings)
    {steps : Nat} {r : Recorded}
    (hrun : (Recorded.start identity version period retry anchor started).run surroundings steps =
      .ok r)
    (later : List Attempt) {a b : Attempt} {earlier : List Attempt}
    (hattempts : r.attempts = later ++ a :: b :: earlier) :
    b.scheduled + period ≤ a.scheduled ∧ a.scheduled ≤ a.began ∧
      (b.began + period ≤ a.began ↔
        b.began = b.scheduled ∨ ∃ ending ∈ b.ending,
          b.began + period ≤ ending.instant ∨
            (ending.result.isOk = false ∧ b.began + period ≤ ending.instant + b.delay)) ∧
      b.began = max b.scheduled (freeAfter started earlier) ∧
      (started ≤ anchor + period →
        (∀ c ∈ earlier, ∀ ending ∈ c.ending, ending.instant ≤ c.began + period) →
          b.began = b.scheduled) := by
  have hpaced := run_paced identity version period retry anchor started surroundings steps
  rw [hrun] at hpaced
  have htimely : Timely period retry anchor started (a :: b :: earlier) :=
    (hattempts ▸ hpaced.1.timely).of_append
  exact ⟨htimely.add_le_scheduled, htimely.follows.scheduled_le_began, htimely.add_le_began_iff,
    htimely.tail.follows.began_eq, htimely.tail.began_eq_scheduled⟩

/-- The first attempt begins on time, so the second begins at least a period later. -/
theorem attempts_spaced_after_slow_call :
    let identity : Identity := ⟨"node", "uid-0", 0⟩
    let retry : RetryPolicy := ⟨3, 1, 8, 20⟩
    let profile : Profile := ⟨1000, 1, 0, 0, 2, ⟨0, 24⟩⟩
    let plane := ((ControlPlane.empty 0).register identity profile 0 ⟨0, 0⟩).2
    let around : Surroundings :=
      { tracker := .create "node" 3, site := .create (plane.setLatency 15) ⟨0, 0⟩ }
    ∃ r first second,
      (Recorded.start identity 1 10 retry 0 0).run (fun _ => around) 3 = .ok r ∧
      r.attempts = [second, first] ∧ first.began = first.scheduled ∧
      first.began + 10 ≤ second.began := by
  intro identity retry profile plane around
  obtain ⟨r, first, second, hrun, hattempts, hontime⟩ :
      ∃ r first second,
        (Recorded.start identity 1 10 retry 0 0).run (fun _ => around) 3 = .ok r ∧
        r.attempts = [second, first] ∧ first.began = first.scheduled :=
    ⟨_, _, _, rfl, rfl, rfl⟩
  have hspaced :=
    attempts_spaced_unless_late identity 1 10 retry 0 0 (fun _ => around) hrun [] hattempts
  exact ⟨r, first, second, hrun, hattempts, hontime, hspaced.2.2.1.2 (.inl hontime)⟩

/-- A call from 10 to 25 makes the second attempt late, and the third begins 5 after it instead of
10. -/
theorem attempts_bunched_after_slow_call :
    let identity : Identity := ⟨"node", "uid-0", 0⟩
    let retry : RetryPolicy := ⟨3, 1, 8, 20⟩
    let profile : Profile := ⟨1000, 1, 0, 0, 2, ⟨0, 24⟩⟩
    let granted := ((ControlPlane.empty 0).register identity profile 0 ⟨0, 0⟩).2
    let renewed := (granted.renew identity 1 0 ⟨0, 0⟩).2
    let around (step : Nat) : Surroundings :=
      { tracker := .create "node" 3
        site := .create (if step < 2 then granted.setLatency 15 else renewed) ⟨0, 0⟩ }
    ∃ r first second third, (Recorded.start identity 1 10 retry 0 0).run around 5 = .ok r ∧
      r.attempts = [third, second, first] ∧ second.began = 25 ∧ third.began = 30 ∧
      ¬ second.began + 10 ≤ third.began :=
  ⟨_, _, _, _, rfl, rfl, rfl, rfl, by decide⟩

end NodeFleet.Heartbeat
