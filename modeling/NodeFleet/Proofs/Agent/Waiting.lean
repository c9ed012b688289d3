import NodeFleet.Proofs.Agent.Answers

/-!
# How long stop calls wait

The call that takes the task waits until the task has ended or the time for stopping has passed.
Any other call returns at once with what it sees.  If the task is not done yet, it says that the
agent did not stop, although the call that waits may see it stop in time.

A call has waited as it should if it returns when the agent has stopped, or when the time for
stopping has passed since some call began to wait (`HasWaited`).  The one way to fall short of it
is to be overtaken: to find that another call waits, in time, for an agent that has not stopped
(`hasWaited_iff`).
-/

namespace NodeFleet.Agent

/-- When a stop call took the task, if it did. -/
def StopPhase.takenAt? : StopPhase → Option Instant
  | .waiting since => some since
  | .returned since _ _ => since
  | _ => none

namespace Attended

/-- Whether the time for stopping has passed since some stop call began to wait. -/
def HasExpired (x : Attended) : Prop :=
  ∃ phase ∈ x.calls, ∃ since, phase.takenAt? = some since ∧
    since + x.agent.setup.shutdownTimeout ≤ x.site.now

/-- Whether a stop call that looks for the task now finds that another one waits for it, within the
time for stopping, and that the agent has not stopped. -/
def IsOvertaken (x : Attended) : Prop :=
  x.agent.state ≠ .stopped ∧ ∃ deadline, x.agent.handle = .awaited deadline ∧ x.site.now < deadline

/-- Whether a call that returns now has waited as it should: until the agent has stopped, or for the
time for stopping, and that long if it is not clean. -/
def HasWaited (x : Attended) (outcome : StopOutcome) : Prop :=
  (x.agent.state = .stopped ∨ x.HasExpired) ∧ (outcome.clean = false → x.HasExpired)

/-- Whether a stop call returns in its next step, and with what. -/
def Returns (x : Attended) (caller : Nat) (time : Instant) (outcome : StopOutcome) : Prop :=
  (∀ since time outcome, x.calls[caller]? ≠ some (.returned since time outcome)) ∧
    ∃ since, (x.proceed caller).calls[caller]? = some (.returned since time outcome)

variable {x : Attended} {caller : Nat} {since : Option Instant} {time : Instant}
  {outcome : StopOutcome}

/-- A task is given up when the time for stopping has passed. -/
theorem Kept.hasExpired_of_aborted (h : x.Kept) (hstage : x.agent.stage = .aborted) :
    x.HasExpired := by
  have hhandle := h.givenUp hstage
  obtain ⟨phase, hmem, htaken⟩ := h.taken (by simp [hhandle])
  have hpromise := h.orderly.promises phase hmem
  cases phase with
  | waiting start => exact nomatch hhandle.symm.trans hpromise
  | returned start time outcome =>
      cases start with
      | none => exact nomatch htaken
      | some start =>
          obtain ⟨htold, hpast⟩ := h.said _ time outcome hmem
          obtain ⟨-, rfl⟩ := htold.resolve_right fun hearly => nomatch hearly.1
          rw [answer_of_terminating (terminating_of_aborted h.fits hstage)] at hpromise
          exact ⟨_, hmem, start, rfl, hpromise.trans hpast⟩
  | _ => exact nomatch htaken

theorem Kept.hasExpired_of_late (h : x.Kept) {deadline : Instant}
    (hhandle : x.agent.handle = .awaited deadline) (hlate : deadline ≤ x.site.now) :
    x.HasExpired := by
  obtain ⟨start, hmem⟩ := h.awaited deadline hhandle
  have hpromise := h.orderly.promises _ hmem
  obtain rfl := TaskHandle.awaited.inj (hhandle.symm.trans hpromise)
  exact ⟨_, hmem, start, rfl, hlate⟩

/-- As long as a stop call waits in time for an agent that has not stopped, the time for stopping
has not passed since any call began to wait. -/
theorem Kept.not_hasExpired (h : x.Kept) (hovertaken : x.IsOvertaken) : ¬x.HasExpired := by
  rintro ⟨phase, hmem, start, hstart, hexpired⟩
  obtain ⟨hstate, deadline, hhandle, hearly⟩ := hovertaken
  cases phase with
  | waiting since =>
      obtain rfl := Option.some.inj hstart
      have hpromise := h.orderly.promises _ hmem
      obtain rfl := TaskHandle.awaited.inj (hhandle.symm.trans hpromise)
      exact absurd hexpired (Nat.not_le_of_lt hearly)
  | returned since time outcome =>
      obtain rfl : since = some start := hstart
      obtain ⟨htold, -⟩ := h.said _ time outcome hmem
      obtain ⟨hdone, -⟩ := htold.resolve_right fun hnone => nomatch hnone.1
      exact hstate (stopped_of_finished h.fits (h.finished_of_awaited hhandle hdone))
  | _ => exact nomatch hstart

/-- What a stop call returns is what it sees, and it returns when the agent has stopped or the time
for stopping has passed, unless it is overtaken. -/
theorem Kept.returns (h : x.Kept) (hreturns : x.Returns caller time outcome) :
    time = x.site.now ∧ outcome = x.agent.answer ∧
      (x.agent.state = .stopped ∨ x.HasExpired ∨ x.IsOvertaken) := by
  obtain ⟨hbefore, since, hreturned⟩ := hreturns
  have hset {before phase : StopPhase} (hcall : x.calls[caller]? = some before)
      (hphase : (x.calls.set caller phase)[caller]? = some (.returned since time outcome)) :
      phase = .returned since time outcome :=
    Option.some.inj
      ((List.getElem?_set_self (List.getElem?_eq_some_iff.1 hcall).1).symm.trans hphase)
  generalize hy : x.proceed caller = y at hreturned
  have hstep : x.CallStep caller y := hy ▸ x.proceed_step caller
  cases hstep with
  | rested => exact absurd hreturned (hbefore since time outcome)
  | told hcall | cancelled hcall | took hcall => exact nomatch hset hcall hreturned
  | refused hcall hhandle =>
      injection hset hcall hreturned with hsince htime houtcome
      refine ⟨htime.symm, houtcome.symm, ?_⟩
      cases hawaited : x.agent.handle with
      | held => exact absurd hawaited hhandle
      | awaited deadline =>
          by_cases hlate : deadline ≤ x.site.now
          · exact .inr (.inl (h.hasExpired_of_late hawaited hlate))
          · by_cases hstate : x.agent.state = .stopped
            · exact .inl hstate
            · exact .inr (.inr ⟨hstate, deadline, hawaited, Nat.lt_of_not_le hlate⟩)
      | released clean =>
          rcases h.isDone_of_released hawaited with hstage | hstage
          · exact .inl (stopped_of_finished h.fits hstage)
          · exact .inr (.inl (h.hasExpired_of_aborted hstage))
  | saw hcall hhandle hstage =>
      injection hset hcall hreturned with hsince htime houtcome
      have hstate := stopped_of_finished h.fits hstage
      refine ⟨htime.symm, ?_, .inl hstate⟩
      rw [← houtcome, answer_of_stopped hstate, hstate]
  | gaveUp hcall hhandle hlate hstage =>
      injection hset hcall hreturned with hsince htime houtcome
      obtain ⟨-, htold⟩ := h.state_of_taken (by simp [hhandle])
      have hstate := terminating_of_told htold hstage
      refine ⟨htime.symm, ?_, .inr (.inl (h.hasExpired_of_late hhandle hlate))⟩
      rw [← houtcome, answer_of_terminating hstate, hstate]

/-- A stop call waits as it should exactly if it is not overtaken. -/
theorem Kept.hasWaited_iff (h : x.Kept) (hreturns : x.Returns caller time outcome) :
    x.HasWaited outcome ↔ ¬x.IsOvertaken := by
  obtain ⟨-, rfl, hreasons⟩ := h.returns hreturns
  constructor
  · rintro ⟨hstopped | hexpired, -⟩ hovertaken
    · exact hovertaken.1 hstopped
    · exact h.not_hasExpired hovertaken hexpired
  · intro hnot
    have hreason : x.agent.state = .stopped ∨ x.HasExpired :=
      hreasons.imp_right fun hor => hor.resolve_right hnot
    refine ⟨hreason, fun hunclean => hreason.resolve_left fun hstopped => ?_⟩
    rw [answer_of_stopped hstopped] at hunclean
    exact nomatch hunclean

/-! ## What was said -/

theorem Says.name_eq {a : Agent} (h : Says a since outcome) : outcome.name = a.name := by
  rcases h with ⟨-, rfl⟩ | ⟨-, rfl⟩ <;> rfl

theorem Says.clean_iff {a : Agent} (h : Says a since outcome) :
    outcome.clean = true ↔ outcome.finalState = .stopped := by
  rcases h with ⟨-, rfl⟩ | ⟨-, rfl⟩
  · exact decide_eq_true_iff
  · simp

/-- A call that returned clean saw an agent that is stopped for good. -/
theorem Kept.of_clean (h : x.Kept) (hmem : .returned since time outcome ∈ x.calls)
    (hclean : outcome.clean = true) :
    x.agent.IsDone ∧ x.agent.state = .stopped ∧ outcome = x.agent.answer := by
  obtain ⟨⟨hdone, rfl⟩ | ⟨-, rfl⟩, -⟩ := h.said since time outcome hmem
  · exact ⟨hdone, of_decide_eq_true hclean, rfl⟩
  · exact nomatch hclean

/-- A call that did not return clean saw an agent that was given up, or had not found the task. -/
theorem Kept.of_unclean (h : x.Kept) (hmem : .returned since time outcome ∈ x.calls)
    (hunclean : outcome.clean = false) :
    outcome = ⟨x.agent.name, false, .terminating⟩ ∧ (x.agent.stage = .aborted ∨ since = none) := by
  obtain ⟨⟨hdone, rfl⟩ | ⟨hnone, rfl⟩, -⟩ := h.said since time outcome hmem
  · rcases hdone with hstage | hstage
    · rw [answer_of_stopped (stopped_of_finished h.fits hstage)] at hunclean
      exact nomatch hunclean
    · exact ⟨answer_of_terminating (terminating_of_aborted h.fits hstage), .inl hstage⟩
  · exact ⟨rfl, .inr hnone⟩

end Attended

end NodeFleet.Agent
