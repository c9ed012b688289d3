import NodeFleet.Proofs.Agent.Answers
import NodeFleet.Proofs.Cohort.Schedule

/-!
# The first stop call

The stop call that takes the task waits for it up to a deadline.  If a call to the control plane may
take less time than stopping, the task always ends before: once the agent is told to end it
waits for nothing but a deregistration, and that is answered or given up within the limit of
a call.  What the control plane answers, and whether it does, plays no part.

`Awaits` is the invariant.  While nobody waits, a stop call could begin to wait just now, and
while a call waits, the task is on time for the instant at which the wait began.  The clock
passes nothing that is due, so the deadline never comes (`Awaits.not_late`), and a call that
wakes finds that the task has ended.  That the wait ends at all is shown on the schedule.
-/

namespace NodeFleet.Agent

variable {setup : AgentSetup} {a : Agent} {site : Site} {now instant : Instant}

/-! ## The task while it is waited for -/

/-- Whether the task ends in time for whoever waits for it. -/
def Awaits (setup : AgentSetup) (a : Agent) (now : Instant) : Prop :=
  match a.handle with
  | .held => a.stage.IsOnTime setup.retry.callTimeout now now
  | .awaited deadline =>
      a.isCancelled = true ∧ ∃ since, deadline = since + setup.shutdownTimeout ∧
        a.stage.IsOnTime setup.retry.callTimeout since now
  | .released clean => clean = true ∧ a.stage = .finished

/-- Whether nothing that is due while a stop call waits has to wait as well. -/
def IsPunctual (a : Agent) (now instant : Instant) : Prop :=
  ∀ deadline, a.handle = .awaited deadline → ∀ actor due, a.due? actor = some due →
    instant ≤ max due now

theorem Awaits.wait (h : Awaits setup a now) (hpunctual : a.IsPunctual now instant) :
    Awaits setup a (max now instant) := by
  unfold Awaits at h ⊢
  cases hhandle : a.handle with
  | held =>
      simp only [hhandle] at h ⊢
      -- A call that begins to wait later only gives the task more time.
      cases hstage : a.stage with
      | deregistering identity call =>
          rw [hstage] at h
          obtain ⟨hbegun, hlimit, -⟩ := h
          refine ⟨?_, hlimit, Nat.le_max_left _ _⟩
          exact Nat.le_trans hbegun (Nat.le_max_left _ _)
      | finished => exact Nat.le_add_right _ _
      | aborted =>
          rw [hstage] at h
          exact h.elim
      | _ => exact Nat.le_refl _
  | awaited deadline =>
      simp only [hhandle] at h ⊢
      obtain ⟨hcancelled, since, hdeadline, hontime⟩ := h
      obtain ⟨actor, due, hdue, -, hlasts⟩ := exists_due hontime hcancelled hhandle
      have hearly := hpunctual deadline hhandle actor due hdue
      exact ⟨hcancelled, since, hdeadline, hlasts instant hearly⟩
  | released clean =>
      simp only [hhandle] at h
      exact h

theorem Awaits.act (h : Awaits setup a site.now) (hsetup : a.setup = setup) {actor : Actor}
    (hactor : actor ≠ .stopper) : Awaits setup (a.act actor site).1 site.now := by
  obtain ⟨tracker, stage, reregistration, hact⟩ := a.act_eq site actor hactor
  have hhandle : (a.act actor site).1.handle = a.handle := by rw [hact]
  have hcancelled : (a.act actor site).1.isCancelled = a.isCancelled := by rw [hact]
  have hlimit : a.setup.retry.callTimeout = setup.retry.callTimeout := by rw [hsetup]
  unfold Awaits at h ⊢
  rw [hhandle]
  cases hbefore : a.handle with
  | held =>
      simp only [hbefore] at h ⊢
      exact act_isOnTime hlimit hactor h
  | awaited deadline =>
      simp only [hbefore] at h ⊢
      obtain ⟨htold, since, hdeadline, hontime⟩ := h
      exact ⟨hcancelled.trans htold, since, hdeadline, act_isOnTime hlimit hactor hontime⟩
  | released clean =>
      simp only [hbefore] at h ⊢
      exact ⟨h.1, act_finished hactor h.2⟩

/-- The deadline of a stop call that waits does not come. -/
theorem Awaits.not_late (h : Awaits setup a now)
    (hless : setup.retry.callTimeout < setup.shutdownTimeout) {deadline : Instant}
    (hhandle : a.handle = .awaited deadline) : now < deadline := by
  unfold Awaits at h
  simp only [hhandle] at h
  obtain ⟨-, since, rfl, hontime⟩ := h
  calc now ≤ since + setup.retry.callTimeout := hontime.le_limit
    _ < since + setup.shutdownTimeout := Nat.add_lt_add_left hless since

/-! ## Left to the schedule -/

/-- What is known of an agent from the moment at which a stop call takes the task. -/
structure IsTaken (setup : AgentSetup) (a : Agent) (now : Instant) : Prop where
  setup_eq : a.setup = setup
  fits : a.state ∈ a.stage.period.states true
  taken : a.handle ≠ .held
  awaits : Awaits setup a now

/-- A stop call that has ended was told that the agent stopped. -/
theorem IsTaken.outcome (h : IsTaken setup a now)
    (hended : ∀ deadline, a.handle ≠ .awaited deadline) :
    a.outcome? = some ⟨setup.name, true, .stopped⟩ := by
  have hawaits := h.awaits
  unfold Awaits at hawaits
  cases hhandle : a.handle with
  | held => exact absurd hhandle h.taken
  | awaited deadline => exact absurd hhandle (hended deadline)
  | released clean =>
      simp only [hhandle] at hawaits
      obtain ⟨rfl, hfinished⟩ := hawaits
      have hstate : a.state = .stopped := stopped_of_finished h.fits hfinished
      have hname : a.name = setup.name := congrArg AgentSetup.name h.setup_eq
      simp only [outcome?, hhandle, hname, hstate]

theorem IsTaken.wake (h : IsTaken setup a now)
    (hless : setup.retry.callTimeout < setup.shutdownTimeout) {due : Instant}
    (hdue : a.due? .stopper = some due) (hlate : due ≤ now) :
    IsTaken setup a.actStopper now := by
  cases hhandle : a.handle with
  | awaited deadline =>
      have hearly := h.awaits.not_late hless hhandle
      cases hfinished : a.isFinished with
      | true =>
          have hstage := Attended.isFinished_eq_true_iff.1 hfinished
          have hact : a.actStopper = { a with handle := .released true } := by
            simp only [actStopper, hfinished, if_true]
          rw [hact]
          exact ⟨h.setup_eq, h.fits, by simp, rfl, hstage⟩
      | false =>
          -- Otherwise the deadline would be due.
          have hdeadline : a.due? .stopper = some deadline := by
            simp only [due?, hhandle, hfinished, Bool.false_eq_true, if_false]
          obtain rfl : deadline = due := Option.some.inj (hdeadline.symm.trans hdue)
          exact absurd hlate (Nat.not_le_of_lt hearly)
  | _ => simp [due?, hhandle] at hdue

theorem isTaken_isLasting (hless : setup.retry.callTimeout < setup.shutdownTimeout) :
    Cohort.IsLasting (IsTaken setup) where
  wait := by
    intro a now instant h hcancelled hfirst
    exact ⟨h.setup_eq, h.fits, h.taken, h.awaits.wait fun deadline hhandle => hfirst⟩
  act := by
    intro a actor due site h hcancelled hdue hlate
    by_cases hactor : actor = .stopper
    · subst hactor
      exact h.wake hless hdue hlate
    · obtain ⟨tracker, stage, reregistration, hact⟩ := a.act_eq site actor hactor
      have hsetup : (a.act actor site).1.setup = a.setup := by rw [hact]
      have hhandle : (a.act actor site).1.handle = a.handle := by rw [hact]
      refine ⟨hsetup.trans h.setup_eq, act_state_mem h.fits hactor, ?_,
        h.awaits.act h.setup_eq hactor⟩
      rw [hhandle]
      exact h.taken

/-- An agent on its own, whose task a stop call has taken, ends that call. -/
theorem IsTaken.awaitStops (h : IsTaken setup a site.now) (hcancelled : a.isCancelled = true)
    (hless : setup.retry.callTimeout < setup.shutdownTimeout) (index : Nat)
    (launchCancelled : Bool) :
    ∃ member, (Cohort.mk site [⟨index, a⟩] none launchCancelled).awaitStops.members = [member] ∧
      member.agent.outcome? = some ⟨setup.name, true, .stopped⟩ := by
  let c : Cohort := .mk site [⟨index, a⟩] none launchCancelled
  have hending : c.IsEnding := by
    refine ⟨rfl, fun member hmember => ?_⟩
    rw [List.mem_singleton.1 hmember]
    exact hcancelled
  have heach : c.Each (IsTaken setup) := by
    intro member hmember
    rw [List.mem_singleton.1 hmember]
    exact h
  obtain ⟨⟨-, htaken, hindexes⟩, hended⟩ :=
    c.awaitStops_ends hending (isTaken_isLasting hless) heach
  obtain ⟨member, hmembers⟩ : ∃ member, c.awaitStops.members = [member] := by
    have hlength : c.awaitStops.members.length = 1 := by
      simpa [c] using congrArg List.length hindexes
    exact List.length_eq_one_iff.1 hlength
  have hmember : member ∈ c.awaitStops.members := hmembers ▸ List.mem_singleton_self member
  refine ⟨member, hmembers, (htaken member hmember).outcome fun deadline hhandle => ?_⟩
  have hawaited : c.awaitStops.isStopping = true :=
    List.any_eq_true.2 ⟨member, hmember, by simp only [Cohort.isAwaited, hhandle]⟩
  exact Bool.false_ne_true (hended.symm.trans hawaited)

/-- A stop call to an agent whose task nobody has taken, and nothing but the schedule. -/
theorem stopAgent_of_held {isTold : Bool} (hsetup : a.setup = setup)
    (hfits : a.state ∈ a.stage.period.states isTold) (hawaits : Awaits setup a site.now)
    (hhandle : a.handle = .held) (hless : setup.retry.callTimeout < setup.shutdownTimeout)
    (index : Nat) (launchCancelled : Bool) :
    ((Cohort.mk site [⟨index, a⟩] none launchCancelled).stopAgent 0).1 =
      some ⟨setup.name, true, .stopped⟩ := by
  let told : Agent := (a.move .terminating site).1
  let later : Site := (a.move .terminating site).2
  let b : Agent :=
    { told with isCancelled := true, handle := .awaited (later.now + told.setup.shutdownTimeout) }
  have hstop : a.stop site = (.pending, b, later) := by
    have hheld : (a.move .terminating site).1.handle = .held := hhandle
    simp only [stop, hheld]
    rfl
  have htaken : IsTaken setup b later.now := by
    have hstate : b.state = a.state.moved .terminating := a.move_state site .terminating
    refine ⟨hsetup, ?_, by simp [b], rfl, site.now, ?_, ?_⟩
    · rw [hstate]
      exact Period.terminating_mem hfits
    · show site.now + a.setup.shutdownTimeout = site.now + setup.shutdownTimeout
      rw [hsetup]
    · simp only [Awaits, hhandle] at hawaits
      exact hawaits
  obtain ⟨member, hmembers, houtcome⟩ := htaken.awaitStops rfl hless index launchCancelled
  have hbegin : (Cohort.mk site [⟨index, a⟩] none launchCancelled).beginStop 0 a =
      (.pending, .mk later [⟨index, b⟩] none launchCancelled) := by
    simp only [Cohort.beginStop, hstop]
    rfl
  have hget : (Cohort.mk site [⟨index, a⟩] none launchCancelled).members[0]? = some ⟨index, a⟩ :=
    rfl
  simp only [Cohort.stopAgent, hget, hbegin, if_true, hmembers, List.getElem?_cons_zero,
    Option.map_some, Cohort.outcomeOf, houtcome, Option.getD_some]

/-! ## Runs -/

namespace Attended

/-- Whether the clock passes nothing that is due while a stop call waits. -/
def IsPunctual (setup : AgentSetup) (site : Site) (events : List Event) : Prop :=
  ∀ earlier instant hother later, events = earlier ++ .other (.wait instant) hother :: later →
    let x := attend setup site earlier
    x.agent.IsPunctual x.site.now instant

theorem IsPunctual.of_concat {events : List Event} {event : Event}
    (h : IsPunctual setup site (events ++ [event])) :
    IsPunctual setup site events ∧ ∀ instant hother, event = .other (.wait instant) hother →
      (attend setup site events).agent.IsPunctual (attend setup site events).site.now instant := by
  refine ⟨fun earlier instant hother later heq => ?_, ?_⟩
  · exact h earlier instant hother (later ++ [event]) (by simp [heq])
  · rintro instant hother rfl
    exact h events instant hother [] rfl

/-- The task ends in time for the stop calls, and has done so for those that have returned. -/
structure Prompt (setup : AgentSetup) (x : Attended) : Prop where
  awaits : Awaits setup x.agent x.site.now
  clean : ∀ since time outcome, .returned (some since) time outcome ∈ x.calls →
    outcome = ⟨setup.name, true, .stopped⟩ ∧ time ≤ since + setup.retry.callTimeout

section Steps

variable {x : Attended} {caller : Nat} {before phase : StopPhase}

/-- A call that goes on without taking the task. -/
theorem Prompt.goOn {y : Attended} (h : Prompt setup x) (hafter : phase.hasTaken = false)
    (hawaits : Awaits setup y.agent y.site.now) (hcalls : y.calls = x.calls.set caller phase) :
    Prompt setup y := by
  refine ⟨hawaits, fun since time outcome hmem => ?_⟩
  rcases List.mem_or_eq_of_mem_set (hcalls ▸ hmem) with hkept | rfl
  · exact h.clean since time outcome hkept
  · exact nomatch hafter

theorem Prompt.proceed (h : Prompt setup x) (horderly : x.Orderly setup) (hkept : x.Kept)
    (hless : setup.retry.callTimeout < setup.shutdownTimeout) (caller : Nat) :
    Prompt setup (x.proceed caller) := by
  have hawaits := h.awaits
  generalize hy : x.proceed caller = y
  have hstep : x.CallStep caller y := hy ▸ x.proceed_step caller
  cases hstep with
  | rested => exact h
  | told hcall => exact h.goOn rfl hawaits rfl
  | cancelled hcall =>
      refine h.goOn rfl ?_ rfl
      show Awaits setup { x.agent with isCancelled := true } x.site.now
      unfold Awaits at hawaits ⊢
      cases hhandle : x.agent.handle with
      | awaited deadline =>
          simp only [hhandle] at hawaits ⊢
          exact ⟨trivial, hawaits.2⟩
      | _ => simpa only [hhandle] using hawaits
  | refused hcall hhandle => exact h.goOn rfl hawaits rfl
  | took hcall hhandle =>
      have hcancelled : x.agent.isCancelled = true :=
        hkept.cancelled _ (List.mem_of_getElem? hcall) rfl
      refine ⟨?_, fun since time outcome hmem => ?_⟩
      · simp only [Awaits, hhandle] at hawaits
        refine ⟨hcancelled, x.site.now, ?_, hawaits⟩
        rw [horderly.setup_eq]
      · rcases List.mem_or_eq_of_mem_set hmem with hold | hnew
        · exact h.clean since time outcome hold
        · exact nomatch hnew
  | @saw since deadline hcall hhandle hstage =>
      have hpromise : x.agent.handle = .awaited (since + setup.shutdownTimeout) :=
        horderly.promises _ (List.mem_of_getElem? hcall)
      have hstate : x.agent.state = .stopped := stopped_of_finished hkept.fits hstage
      have hname : x.agent.name = setup.name := congrArg AgentSetup.name horderly.setup_eq
      -- The instant from which the task is on time is the one at which this call began to wait.
      have hontime : x.site.now ≤ since + setup.retry.callTimeout := by
        simp only [Awaits, hpromise, hstage] at hawaits
        obtain ⟨-, start, hstart, hfinished⟩ := hawaits
        obtain rfl : since = start := Nat.add_right_cancel hstart
        exact hfinished
      refine ⟨⟨rfl, hstage⟩, fun other time outcome hmem => ?_⟩
      rcases List.mem_or_eq_of_mem_set hmem with hold | hnew
      · exact h.clean other time outcome hold
      · injection hnew with hsince htime houtcome
        obtain rfl := Option.some.inj hsince
        rw [htime, houtcome, hname, hstate]
        exact ⟨rfl, hontime⟩
  | gaveUp hcall hhandle hlate hstage =>
      exact absurd hlate (Nat.not_le_of_lt (hawaits.not_late hless hhandle))

/-- What happens beside the stop calls leaves them on time. -/
theorem Prompt.other (h : Prompt setup x) (hsetup : x.agent.setup = setup) {move : Move}
    (hother : move.isStop = false)
    (hpunctual : ∀ instant, move = .wait instant → x.agent.IsPunctual x.site.now instant) :
    Prompt setup (x.happen (.other move hother)) := by
  cases move with
  | act actor =>
      have hactor := Move.ne_stopper hother
      have hnow : (x.agent.act actor x.site).2.now = x.site.now := x.agent.act_now x.site actor
      refine ⟨?_, h.clean⟩
      show Awaits setup (x.agent.act actor x.site).1 (x.agent.act actor x.site).2.now
      rw [hnow]
      exact h.awaits.act hsetup hactor
  | wait instant => exact ⟨h.awaits.wait (hpunctual instant rfl), h.clean⟩
  | release workload =>
      have hnow : (x.agent.release workload x.site).2.2.now = x.site.now := by
        simp only [release]
        split_ifs <;> rfl
      refine ⟨?_, h.clean⟩
      show Awaits setup x.agent (x.agent.release workload x.site).2.2.now
      rw [hnow]
      exact h.awaits
  | stop => exact absurd hother (by decide)
  | _ => exact ⟨h.awaits, h.clean⟩

end Steps

theorem attend_prompt {events : List Event}
    (hless : setup.retry.callTimeout < setup.shutdownTimeout)
    (hpunctual : IsPunctual setup site events) : Prompt setup (attend setup site events) := by
  induction events using List.reverseRecOn with
  | nil => exact ⟨Nat.le_refl _, nofun⟩
  | append_singleton events event ih =>
      obtain ⟨hbefore, hlast⟩ := hpunctual.of_concat
      have hprompt := ih hbefore
      have horderly := attend_orderly setup site events
      rw [attend_concat]
      cases event with
      | other move hother =>
          refine hprompt.other horderly.setup_eq hother fun instant hmove => ?_
          exact hlast instant (hmove ▸ hother) (by subst hmove; rfl)
      | proceed caller =>
          exact hprompt.proceed horderly (attend_kept setup site events) hless caller
      | call =>
          refine ⟨hprompt.awaits, fun since time outcome hmem => ?_⟩
          rcases List.mem_append.1 hmem with hold | hnew
          · exact hprompt.clean since time outcome hold
          · exact nomatch List.mem_singleton.1 hnew

end Attended

/-- If a call may take less time than stopping, the stop call that takes the task always returns
clean, with an agent that is stopped.  The status loop has a positive period, as every valid
configuration gives it; without one it would look for its next tick for ever.  Take any run of an
agent with any number of stop calls, in which the clock passes nothing that is due while a stop
call waits, whatever the control plane answers and however long it takes.  A call that took the
task and has returned did so within the limit of a call.  While one waits, no more than that has
passed, something of the agent is due before it has, and left to the schedule the call returns
clean.  If no call has taken the task yet, a stop call takes it and returns clean. -/
theorem first_stop_clean (setup : AgentSetup) (site : Site) (events : List Attended.Event)
    (_hperiod : 0 < setup.status.minInterval)
    (hless : setup.retry.callTimeout < setup.shutdownTimeout)
    (hpunctual : Attended.IsPunctual setup site events) :
    let x := attend setup site events
    let clean : StopOutcome := ⟨setup.name, true, .stopped⟩
    (∀ since time outcome, .returned (some since) time outcome ∈ x.calls →
      outcome = clean ∧ time ≤ since + setup.retry.callTimeout) ∧
    (∀ since, .waiting since ∈ x.calls →
      x.site.now ≤ since + setup.retry.callTimeout ∧
      (∃ actor due, x.agent.due? actor = some due ∧ due ≤ since + setup.retry.callTimeout) ∧
      ∀ index launchCancelled, ∃ member,
        (Cohort.mk x.site [⟨index, x.agent⟩] none launchCancelled).awaitStops.members = [member] ∧
          member.agent.outcome? = some clean) ∧
    ((∀ phase ∈ x.calls, phase.hasTaken = false) → ∀ index launchCancelled,
      ((Cohort.mk x.site [⟨index, x.agent⟩] none launchCancelled).stopAgent 0).1 = some clean) := by
  intro x clean
  have horderly : x.Orderly setup := attend_orderly setup site events
  have hkept : x.Kept := attend_kept setup site events
  have hprompt : x.Prompt setup := Attended.attend_prompt hless hpunctual
  have hawaits := hprompt.awaits
  refine ⟨hprompt.clean, fun since hwaiting => ?_, fun hnone index launchCancelled => ?_⟩
  · have hhandle : x.agent.handle = .awaited (since + setup.shutdownTimeout) :=
      horderly.promises _ hwaiting
    have hheld : x.agent.handle ≠ .held := by simp [hhandle]
    have htaken : IsTaken setup x.agent x.site.now :=
      ⟨horderly.setup_eq, (hkept.state_of_taken hheld).2, hheld, hawaits⟩
    simp only [Awaits, hhandle] at hawaits
    obtain ⟨hcancelled, start, hstart, hontime⟩ := hawaits
    obtain rfl : since = start := Nat.add_right_cancel hstart
    obtain ⟨actor, due, hdue, hbound, -⟩ := exists_due hontime hcancelled hhandle
    exact ⟨hontime.le_limit, ⟨actor, due, hdue, hbound⟩, htaken.awaitStops hcancelled hless⟩
  · have hhandle : x.agent.handle = .held := by
      by_contra hheld
      obtain ⟨phase, hphase, htaken⟩ := hkept.taken hheld
      exact Bool.false_ne_true ((hnone phase hphase).symm.trans htaken)
    exact stopAgent_of_held horderly.setup_eq hkept.fits hawaits hhandle hless index launchCancelled

/-- The instant up to which an event lets the clock run. -/
def Attended.Event.wait? : Attended.Event → Option Instant
  | .other (.wait instant) _ => some instant
  | _ => none

/-- The control plane does not answer any more when the agent is stopped, so its deregistration is
given up, and the stop call is clean. -/
theorem first_stop_clean_without_answer :
    let profile : Profile := ⟨1000, 1000, 0, 0, 10, ⟨0, 24⟩⟩
    let setup : AgentSetup := ⟨"node", profile, 10, ⟨10, 60, 1⟩, ⟨3, 1, 8, 5⟩, 30⟩
    let site : Site := .create (.empty 0) ⟨0, 0⟩
    let events : List Attended.Event :=
      [.other (.act .task) rfl, .other (.act .task) rfl,
        .other (.control ((ControlPlane.empty 0).setLatency 100)) rfl, .call, .proceed 0,
        .proceed 0, .proceed 0, .other (.act .heartbeat) rfl,
        .other (.act .statusSync) rfl, .other (.act .task) rfl, .other (.wait 5) rfl,
        .other (.act .task) rfl, .proceed 0]
    0 < setup.status.minInterval ∧ setup.retry.callTimeout < setup.shutdownTimeout ∧
      Attended.IsPunctual setup site events ∧
      (attend setup site events).calls = [.returned (some 0) 5 ⟨"node", true, .stopped⟩] ∧
      (5 : Instant) ≤ 0 + setup.retry.callTimeout := by
  intro profile setup site events
  have hperiod : 0 < setup.status.minInterval := by decide
  have hless : setup.retry.callTimeout < setup.shutdownTimeout := by decide
  let isHeld (x : Attended) (instant : Instant) : Bool :=
    Actor.all.all fun actor => (x.agent.due? actor).all fun due => instant ≤ max due x.site.now
  let isChecked (i : Nat) : Bool :=
    (events[i]?.bind Attended.Event.wait?).all fun instant =>
      isHeld (attend setup site (events.take i)) instant
  have hchecked : ∀ i ∈ List.range events.length, isChecked i = true := by decide +kernel
  have hpunctual : Attended.IsPunctual setup site events := by
    intro earlier instant hother later heq
    have hlength : earlier.length < events.length := by simp [heq]
    have hevent : events[earlier.length]? = some (.other (.wait instant) hother) := by simp [heq]
    have hearlier : events.take earlier.length = earlier := by simp [heq]
    have hheld := hchecked earlier.length (List.mem_range.2 hlength)
    simp only [isChecked, hevent, Option.bind_some, Attended.Event.wait?, Option.all_some, hearlier,
      isHeld, List.all_eq_true, Option.all_eq_true, decide_eq_true_eq] at hheld
    intro x deadline hhandle actor due hdue
    exact hheld actor (by cases actor <;> decide) due hdue
  have hcalls : (attend setup site events).calls =
      [.returned (some 0) 5 ⟨"node", true, .stopped⟩] := by
    decide +kernel
  obtain ⟨hclean, -⟩ := first_stop_clean setup site events hperiod hless hpunctual
  obtain ⟨-, hbound⟩ := hclean 0 5 ⟨"node", true, .stopped⟩ (by
    rw [hcalls]
    exact List.mem_singleton_self _)
  exact ⟨hperiod, hless, hpunctual, hcalls, hbound⟩

end NodeFleet.Agent
