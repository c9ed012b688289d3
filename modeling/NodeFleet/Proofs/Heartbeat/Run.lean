import NodeFleet.Heartbeat

/-!
# Runs of a heartbeat loop

A loop runs on an exact clock: each step is taken at the instant for which it was
scheduled, or at once if that instant has passed.  Everything else may change between two
steps.  `Surroundings` is what one step finds, so a run is given by a sequence of
surroundings, and the outcomes and durations of the calls are theirs to choose.  A loop that
is told to end takes no more steps, so it has made the attempts of a shorter run.

The run keeps the attempts that were made, the last first, and for each of them when it
was to be made, when it began and how it ended.  `Recorded.step_of_idle` and
`Recorded.step_of_call` say all that a step can do: it begins an attempt, or it ends the
one in flight, and then the loop is either rescheduled or over.
-/

namespace NodeFleet.Heartbeat

/-- What a step of a loop finds around it. -/
structure Surroundings where
  tracker : Tracker
  /-- Everything that agents share; the clock is the run's own. -/
  site : Site

/-- How an attempt ended. -/
structure Ending where
  instant : Instant
  result : Except CallError Nat

/-- An attempt to renew the lease. -/
structure Attempt where
  /-- The instant for which it was scheduled. -/
  scheduled : Instant
  began : Instant
  /-- The wait after it in case that it fails. -/
  delay : Duration
  /-- Its end, unless it is in flight. -/
  ending : Option Ending

/-- Ends the last of some attempts, which are listed the last first. -/
def endLast (ending : Ending) : List Attempt → List Attempt
  | [] => []
  | last :: earlier => { last with ending := some ending } :: earlier

/-- A loop with the attempts that it has made, the last first. -/
structure Recorded where
  loop : Heartbeat
  /-- The instant of the last step. -/
  now : Instant
  attempts : List Attempt

namespace Recorded

/-- The loop of an identity that was registered at `anchor`, started at `now`. -/
def start (identity : Identity) (version : Nat) (period : Duration) (retry : RetryPolicy)
    (anchor now : Instant) : Recorded :=
  { loop := .start identity version period retry anchor, now, attempts := [] }

/-- When the next step is taken. -/
def due (r : Recorded) : Instant := max r.now r.loop.wakesAt

/-- The attempt that an idle loop begins with its next step. -/
def upcoming (r : Recorded) : Attempt :=
  { scheduled := r.loop.scheduled, began := r.due, delay := r.loop.backoff.delay, ending := none }

/-- Takes a step at the instant at which it is due. -/
def step (r : Recorded) (around : Surroundings) : Except LoopExit Recorded :=
  let site := { around.site with now := r.due }
  match (r.loop.act around.tracker site).1 with
  | .error exit => .error exit
  | .ok loop =>
      let attempts :=
        match r.loop.call with
        | none => r.upcoming :: r.attempts
        | some call =>
            let (result, _) := site.settleRenew call r.loop.identity r.loop.version
            endLast { instant := r.due, result } r.attempts
      .ok { loop, now := r.due, attempts }

/-- Takes steps one after the other, unless the loop ends. -/
def run (r : Recorded) (around : Nat → Surroundings) : Nat → Except LoopExit Recorded
  | 0 => .ok r
  | steps + 1 =>
      match r.run around steps with
      | .error exit => .error exit
      | .ok reached => reached.step (around steps)

variable {r : Recorded}

/-- A step of an idle loop always works: it begins an attempt. -/
theorem step_of_idle (hidle : r.loop.call = none) (around : Surroundings) :
    ∃ call, r.step around =
      .ok { loop := { r.loop with call := some call }, now := r.due
            attempts := r.upcoming :: r.attempts } := by
  let site := { around.site with now := r.due }
  refine ⟨site.beginCall r.loop.callLimit, ?_⟩
  simp only [step, act, hidle, site]

/-- A step with a call in flight ends the attempt.  The loop is over if the identity is lost, and
rescheduled otherwise. -/
theorem step_of_call {call : Call} (hcall : r.loop.call = some call) (around : Surroundings) :
    (∃ error : CallError, error.isIdentityLost = true ∧
      r.step around = .error (.superseded error)) ∨
    ∃ result, r.step around =
      .ok { loop := r.loop.reschedule result r.due, now := r.due
            attempts := endLast { instant := r.due, result } r.attempts } := by
  let site := { around.site with now := r.due }
  let settled := site.settleRenew call r.loop.identity r.loop.version
  -- Settling takes no time, so the attempt ends at the instant of the step.
  have hact : (r.loop.act around.tracker site).1 = r.loop.afterAttempt settled.1 r.due := by
    simp only [act, hcall]
    exact congrArg (r.loop.afterAttempt settled.1) (site.settle_now call _)
  have hstep : r.step around =
      match r.loop.afterAttempt settled.1 r.due with
      | .error exit => .error exit
      | .ok loop => .ok { loop, now := r.due
                          attempts := endLast { instant := r.due, result := settled.1 }
                            r.attempts } := by
    simp only [step]
    rw [hact]
    simp only [hcall]
    rfl
  cases hresult : settled.1 with
  | ok version =>
      refine .inr ⟨.ok version, ?_⟩
      rw [hstep, hresult]
      rfl
  | error error =>
      cases hlost : error.isIdentityLost with
      | true =>
          refine .inl ⟨error, hlost, ?_⟩
          simp only [hstep, hresult, afterAttempt, hlost, if_true]
      | false =>
          refine .inr ⟨.error error, ?_⟩
          simp only [hstep, hresult, afterAttempt, hlost, Bool.false_eq_true, if_false]

end Recorded

end NodeFleet.Heartbeat
