import NodeFleet.Proofs.Agent.Lifecycle

/-!
# What a stop call can promise

The call that takes the task returns clean only when the task has ended, and unclean only
when the time for stopping has passed since it began to wait.  Any other call finds the
task taken and returns with the state that it sees, whether the agent has stopped or not.

The promise of the first call rests on its being alone.  The deadline that the agent keeps
is then the one of this call (`Orderly`).
-/

namespace NodeFleet.Agent

namespace Attended

variable {x : Attended}

/-- What a call that has come to a phase relies on or has promised. -/
def Promise (setup : AgentSetup) (handle : TaskHandle) : StopPhase → Prop
  | .waiting since => handle = .awaited (since + setup.shutdownTimeout)
  | .returned (some since) time outcome =>
      if outcome.clean then outcome.finalState = .stopped
      else since + setup.shutdownTimeout ≤ time
  | .returned none _ outcome => outcome.clean = true ↔ outcome.finalState = .stopped
  | _ => True

/-- Only a call that waits relies on who waits for the task. -/
theorem Promise.of_not_waiting {setup : AgentSetup} {handle later : TaskHandle}
    {phase : StopPhase} (h : Promise setup handle phase)
    (hphase : ∀ since, phase ≠ .waiting since) : Promise setup later phase := by
  cases phase with
  | waiting since => exact absurd rfl (hphase since)
  | returned since time outcome => cases since <;> exact h
  | _ => trivial

/-- The calls keep their promises, and one of them waits at most. -/
structure Orderly (setup : AgentSetup) (x : Attended) : Prop where
  setup_eq : x.agent.setup = setup
  promises : ∀ phase ∈ x.calls, Promise setup x.agent.handle phase
  alone : ∀ (i j : Nat) (since other : Instant), x.calls[i]? = some (.waiting since) →
    x.calls[j]? = some (.waiting other) → i = j

section Steps

variable {setup : AgentSetup} {caller : Nat} {before phase : StopPhase}

theorem Orderly.not_waiting (h : Orderly setup x) (hhandle : x.agent.handle = .held)
    (hmem : phase ∈ x.calls) (since : Instant) : phase ≠ .waiting since := by
  rintro rfl
  have hawaited : x.agent.handle = .awaited (since + setup.shutdownTimeout) :=
    h.promises _ hmem
  simp [hhandle] at hawaited

/-- A call that does not begin to wait leaves at most one call waiting. -/
theorem Orderly.alone_set (h : Orderly setup x) (hphase : ∀ since, phase ≠ .waiting since)
    (i j : Nat) (since other : Instant)
    (hi : (x.calls.set caller phase)[i]? = some (.waiting since))
    (hj : (x.calls.set caller phase)[j]? = some (.waiting other)) : i = j := by
  have hkept : ∀ (k : Nat) (later : Instant),
      (x.calls.set caller phase)[k]? = some (.waiting later) →
      x.calls[k]? = some (.waiting later) := by
    intro k later hk
    rw [List.getElem?_set] at hk
    split_ifs at hk
    · exact absurd (Option.some.inj hk) (hphase later)
    · exact hk
  exact h.alone i j since other (hkept i since hi) (hkept j other hj)

/-- A step of a call that leaves the task to whom it belongs. -/
theorem Orderly.goOn {y : Attended} (h : Orderly setup x) (hsetup : y.agent.setup = x.agent.setup)
    (hhandle : y.agent.handle = x.agent.handle) (hcalls : y.calls = x.calls.set caller phase)
    (hphase : ∀ since, phase ≠ .waiting since) (hpromise : Promise setup x.agent.handle phase) :
    Orderly setup y where
  setup_eq := hsetup.trans h.setup_eq
  promises := by
    intro later hlater
    rw [hhandle]
    rcases List.mem_or_eq_of_mem_set (hcalls ▸ hlater) with hmem | rfl
    · exact h.promises later hmem
    · exact hpromise
  alone := hcalls ▸ h.alone_set hphase

/-- A call that returns after it has waited releases the task, and nobody else waits for it. -/
theorem Orderly.release {y : Attended} (h : Orderly setup x) {since time : Instant}
    {outcome : StopOutcome} (hcall : x.calls[caller]? = some (.waiting since))
    (hsetup : y.agent.setup = x.agent.setup)
    (hcalls : y.calls = x.calls.set caller (.returned (some since) time outcome))
    (hpromise : Promise setup y.agent.handle (.returned (some since) time outcome)) :
    Orderly setup y where
  setup_eq := hsetup.trans h.setup_eq
  promises := by
    intro later hlater
    obtain ⟨i, hi⟩ := List.mem_iff_getElem?.1 hlater
    rw [hcalls, List.getElem?_set] at hi
    split_ifs at hi with hcaller
    · obtain rfl := Option.some.inj hi
      exact hpromise
    -- A second call that waits would lose the deadline that it relies on.
    · refine (h.promises later (List.mem_of_getElem? hi)).of_not_waiting ?_
      rintro other rfl
      exact hcaller (h.alone caller i since other hcall hi)
  alone := hcalls ▸ h.alone_set nofun

/-- The call that takes the task finds nobody waiting. -/
theorem Orderly.take {y : Attended} (h : Orderly setup x) {since : Instant}
    (hheld : x.agent.handle = .held) (hsetup : y.agent.setup = x.agent.setup)
    (hhandle : y.agent.handle = .awaited (since + setup.shutdownTimeout))
    (hcalls : y.calls = x.calls.set caller (.waiting since)) : Orderly setup y := by
  have hcaller : ∀ (i : Nat) (later : Instant),
      (x.calls.set caller (.waiting since))[i]? = some (.waiting later) → caller = i := by
    intro i later hi
    rw [List.getElem?_set] at hi
    split_ifs at hi with hcaller
    · exact hcaller
    · exact absurd rfl (h.not_waiting hheld (List.mem_of_getElem? hi) later)
  refine ⟨hsetup.trans h.setup_eq, ?_, fun i j first second hi hj => ?_⟩
  · intro later hlater
    rcases List.mem_or_eq_of_mem_set (hcalls ▸ hlater) with hmem | rfl
    · exact (h.promises later hmem).of_not_waiting (h.not_waiting hheld hmem)
    · exact hhandle
  · rw [hcalls] at hi hj
    exact (hcaller i first hi).symm.trans (hcaller j second hj)

/-- A step of a call keeps the promises of all of them.  A call that sees the end of the task sees
a stopped agent, because the state fits the stage. -/
theorem Orderly.proceed (h : Orderly setup x) (hfits : x.IsFitting) (caller : Nat) :
    Orderly setup (x.proceed caller) := by
  generalize hy : x.proceed caller = y
  have hstep : x.CallStep caller y := hy ▸ x.proceed_step caller
  cases hstep with
  | rested => exact h
  | told hcall => exact h.goOn rfl rfl rfl nofun trivial
  | cancelled hcall => exact h.goOn rfl rfl rfl nofun trivial
  | took hcall hhandle =>
      have hdeadline : x.site.now + x.agent.setup.shutdownTimeout =
          x.site.now + setup.shutdownTimeout := by rw [h.setup_eq]
      exact h.take hhandle rfl (congrArg TaskHandle.awaited hdeadline) rfl
  | refused hcall hhandle => exact h.goOn rfl rfl rfl nofun decide_eq_true_iff
  | saw hcall hhandle hstage =>
      -- The stage of a task that has ended admits one state only.
      have hstopped : x.agent.state = .stopped := by
        rw [IsFitting, hstage] at hfits
        exact List.mem_singleton.1 hfits
      exact h.release hcall rfl rfl hstopped
  | gaveUp hcall hhandle hlate hstage =>
      have hawaited := h.promises _ (List.mem_of_getElem? hcall)
      obtain rfl := TaskHandle.awaited.inj (hhandle.symm.trans hawaited)
      exact h.release hcall rfl rfl hlate

/-- Nothing but a call takes or releases the task. -/
theorem Orderly.happen (h : Orderly setup x) (hfits : x.IsFitting) (event : Event) :
    Orderly setup (x.happen event) := by
  cases event with
  | call =>
      refine ⟨h.setup_eq, fun phase hmem => ?_, fun i j since other hi hj => ?_⟩
      · rcases List.mem_append.1 hmem with hold | hnew
        · exact h.promises phase hold
        · obtain rfl := List.mem_singleton.1 hnew
          trivial
      · have hkept : ∀ (k : Nat) (later : Instant),
            (x.calls ++ [.called])[k]? = some (.waiting later) →
              x.calls[k]? = some (.waiting later) := by
          intro k later hk
          simp only [List.getElem?_append, List.getElem?_singleton] at hk
          split_ifs at hk with hlt hlast
          · exact hk
          · exact absurd hk nofun
        exact h.alone i j since other (hkept i since hi) (hkept j other hj)
  | proceed caller => exact h.proceed hfits caller
  | other move hother =>
      cases move with
      | act actor =>
          have hactor := Move.ne_stopper hother
          obtain ⟨tracker, stage, reregistration, hact⟩ := x.agent.act_eq x.site actor hactor
          have hsetup : (x.agent.act actor x.site).1.setup = x.agent.setup := by rw [hact]
          have hhandle : (x.agent.act actor x.site).1.handle = x.agent.handle := by rw [hact]
          refine ⟨hsetup.trans h.setup_eq, fun phase hmem => ?_, h.alone⟩
          have hpromise := h.promises phase hmem
          rw [← hhandle] at hpromise
          exact hpromise
      | stop => exact absurd hother (by decide)
      | _ => exact ⟨h.setup_eq, h.promises, h.alone⟩

end Steps

end Attended

theorem attend_orderly (setup : AgentSetup) (site : Site) (events : List Attended.Event) :
    Attended.Orderly setup (attend setup site events) := by
  induction events using List.reverseRecOn with
  | nil => exact ⟨rfl, nofun, nofun⟩
  | append_singleton events event ih =>
      rw [attend_concat]
      exact ih.happen (attend_isFitting setup site events) event

end NodeFleet.Agent
