import NodeFleet.Proofs.Agent.Frame
import NodeFleet.Proofs.Agent.Overlap

/-!
# What stop calls answer

A task is done when it has ended or was given up (`IsDone`).  From then on only the stop call that
waits has anything to do, and every call that returns says the same, whoever took the task.

`Kept` is what holds of an agent and its stop calls at any time, and `Lasts` what one time leaves
to every later one.
-/

namespace NodeFleet.Agent

/-! ## Tasks that are done -/

/-- Whether the task has ended or was given up. -/
def IsDone (a : Agent) : Prop := a.stage = .finished ∨ a.stage = .aborted

section Done

variable {a : Agent} {actor : Actor} (h : a.IsDone)

include h

theorem IsDone.due?_eq_none (hactor : actor ≠ .stopper) : a.due? actor = none := by
  cases actor with
  | stopper => exact absurd rfl hactor
  | task => rcases h with hstage | hstage <;> simp only [due?, taskDue?, hstage]
  | _ => rcases h with hstage | hstage <;> simp only [due?, hstage]

theorem IsDone.request?_eq_none (site : Site) (actor : Actor) : a.request? site actor = none := by
  rcases h with hstage | hstage <;> simp only [request?, hstage]

end Done

section States

variable {a : Agent} {isTold : Bool}

theorem stopped_of_finished (hfits : a.state ∈ a.stage.period.states isTold)
    (hstage : a.stage = .finished) : a.state = .stopped := by
  rw [hstage] at hfits
  exact List.mem_singleton.1 hfits

theorem terminating_of_aborted (hfits : a.state ∈ a.stage.period.states isTold)
    (hstage : a.stage = .aborted) : a.state = .terminating := by
  rw [hstage] at hfits
  cases isTold with
  | true => exact List.mem_singleton.1 hfits
  | false => exact absurd hfits List.not_mem_nil

/-- Once it was told to end, an agent is terminating until its task has ended. -/
theorem terminating_of_told (hfits : a.state ∈ a.stage.period.states true)
    (hstage : a.stage ≠ .finished) : a.state = .terminating := by
  have hperiod : a.stage.period ≠ .finished := fun heq => hstage (Stage.period_eq_finished.1 heq)
  exact List.mem_singleton.1 (Period.aborted_mem hfits hperiod)

theorem isClosing_of_told (hfits : a.state ∈ a.stage.period.states true) : a.state.IsClosing := by
  by_cases hstage : a.stage = .finished
  · exact .inr (stopped_of_finished hfits hstage)
  · exact .inl (terminating_of_told hfits hstage)

theorem IsDone.isClosing (h : a.IsDone) (hfits : a.state ∈ a.stage.period.states isTold) :
    a.state.IsClosing :=
  h.elim (fun hstage => .inr (stopped_of_finished hfits hstage))
    fun hstage => .inl (terminating_of_aborted hfits hstage)

theorem answer_of_stopped (hstate : a.state = .stopped) : a.answer = ⟨a.name, true, .stopped⟩ := by
  rw [answer, hstate]
  rfl

theorem answer_of_terminating (hstate : a.state = .terminating) :
    a.answer = ⟨a.name, false, .terminating⟩ := by
  rw [answer, hstate]
  rfl

/-- Being told to end once more is refused. -/
theorem move_of_isClosing (h : a.state.IsClosing) (site : Site) :
    a.move .terminating site = (a, site) := by
  have hrefused : a.tracker.canMove (fun _ => true) .terminating = false := by
    have hstate : a.tracker.state = .terminating ∨ a.tracker.state = .stopped := h
    rcases hstate with hstate | hstate <;> simp [Tracker.canMove, hstate, AgentState.canMoveTo]
  simp only [move, Site.move, Tracker.move, Tracker.moveWhen, hrefused, Bool.false_eq_true,
    if_false]

end States

/-! ## Places that calls have reached -/

namespace StopPhase

/-- Whether a stop call has told the parts of the agent to end. -/
def hasCancelled : StopPhase → Bool
  | .called => false
  | .told => false
  | _ => true

/-- Whether a stop call has taken the task. -/
def hasTaken : StopPhase → Bool
  | .waiting _ => true
  | .returned (some _) _ _ => true
  | _ => false

/-- Whether a stop call has looked for the task. -/
def hasLooked : StopPhase → Bool
  | .waiting _ => true
  | .returned _ _ _ => true
  | _ => false

end StopPhase

namespace Attended

theorem mem_set_of_ne {x : Attended} {caller : Nat} {before phase later : StopPhase}
    (hcall : x.calls[caller]? = some before) (hmem : phase ∈ x.calls) (hne : phase ≠ before) :
    phase ∈ x.calls.set caller later := by
  obtain ⟨i, hi⟩ := List.mem_iff_getElem?.1 hmem
  have hother : caller ≠ i := by
    rintro rfl
    exact hne (Option.some.inj (hi.symm.trans hcall))
  exact List.mem_of_getElem? ((List.getElem?_set_ne hother).trans hi)

/-! ## What holds at any time -/

/-- What a stop call has said that returned: what is there for good, or that the agent did not stop,
because another call was waiting for it. -/
def Says (a : Agent) (since : Option Instant) (outcome : StopOutcome) : Prop :=
  a.IsDone ∧ outcome = a.answer ∨ since = none ∧ outcome = ⟨a.name, false, .terminating⟩

/-- What holds of an agent and its stop calls at any time. -/
structure Kept (x : Attended) : Prop where
  fits : x.IsFitting
  orderly : x.Orderly x.agent.setup
  cancelled : ∀ phase ∈ x.calls, phase.hasCancelled = true → x.agent.isCancelled = true
  looked : ∀ phase ∈ x.calls, phase.hasLooked = true → x.agent.handle ≠ .held
  taken : x.agent.handle ≠ .held → ∃ phase ∈ x.calls, phase.hasTaken = true
  awaited : ∀ deadline, x.agent.handle = .awaited deadline → ∃ since, .waiting since ∈ x.calls
  released : ∀ clean, x.agent.handle = .released clean →
    x.agent.stage = if clean then .finished else .aborted
  givenUp : x.agent.stage = .aborted → x.agent.handle = .released false
  said : ∀ since time outcome, .returned since time outcome ∈ x.calls →
    Says x.agent since outcome ∧ time ≤ x.site.now

/-- What one time leaves to a later one. -/
structure Lasts (x y : Attended) : Prop where
  name_eq : y.agent.name = x.agent.name
  isDone : x.agent.IsDone → y.agent.stage = x.agent.stage ∧ y.agent.state = x.agent.state
  returned : ∀ (i : Nat) since time outcome, x.calls[i]? = some (.returned since time outcome) →
    y.calls[i]? = some (.returned since time outcome)
  /-- Who returns after the task was done says what is there for good. -/
  answered : ∀ (i : Nat) since time outcome, y.calls[i]? = some (.returned since time outcome) →
    x.calls[i]? = some (.returned since time outcome) ∨
      (x.agent.IsDone → outcome = x.agent.answer)
  /-- Once the task is taken no other call comes to wait. -/
  taken : x.agent.handle ≠ .held → y.agent.handle ≠ .held ∧
    ∀ (i : Nat) since, y.calls[i]? = some (.waiting since) → x.calls[i]? = some (.waiting since)

variable {x y z : Attended}

theorem Lasts.answer_eq (h : x.Lasts y) (hdone : x.agent.IsDone) :
    y.agent.IsDone ∧ y.agent.answer = x.agent.answer := by
  obtain ⟨hstage, hstate⟩ := h.isDone hdone
  refine ⟨?_, ?_⟩
  · rw [IsDone, hstage]
    exact hdone
  · rw [answer, h.name_eq, hstate, answer]

/-- Only the agent and the calls matter. -/
theorem Lasts.of_eq (hagent : y.agent = x.agent) (hcalls : y.calls = x.calls) : x.Lasts y := by
  refine ⟨by rw [hagent], fun _ => by rw [hagent]; exact ⟨rfl, rfl⟩, ?_, ?_, ?_⟩
  · rw [hcalls]
    exact fun i since time outcome hcall => hcall
  · rw [hcalls]
    exact fun i since time outcome hcall => .inl hcall
  · rw [hagent, hcalls]
    exact fun htaken => ⟨htaken, fun i since hcall => hcall⟩

theorem Lasts.trans (h : x.Lasts y) (hnext : y.Lasts z) : x.Lasts z where
  name_eq := hnext.name_eq.trans h.name_eq
  isDone := by
    intro hdone
    obtain ⟨hstage, hstate⟩ := h.isDone hdone
    obtain ⟨hlater, hlast⟩ := hnext.isDone (h.answer_eq hdone).1
    exact ⟨hlater.trans hstage, hlast.trans hstate⟩
  returned := fun i since time outcome hcall =>
    hnext.returned i since time outcome (h.returned i since time outcome hcall)
  answered := by
    intro i since time outcome hcall
    rcases hnext.answered i since time outcome hcall with hearlier | hlater
    · exact h.answered i since time outcome hearlier
    · refine .inr fun hdone => ?_
      obtain ⟨hstill, hanswer⟩ := h.answer_eq hdone
      exact (hlater hstill).trans hanswer
  taken := by
    intro htaken
    obtain ⟨hmiddle, hfirst⟩ := h.taken htaken
    obtain ⟨hlast, hsecond⟩ := hnext.taken hmiddle
    exact ⟨hlast, fun i since hcall => hfirst i since (hsecond i since hcall)⟩

/-- What was said stays said. -/
theorem Says.lasts (h : x.Lasts y) {since : Option Instant} {outcome : StopOutcome}
    (htold : Says x.agent since outcome) : Says y.agent since outcome := by
  rcases htold with ⟨hdone, houtcome⟩ | ⟨hnone, houtcome⟩
  · obtain ⟨hstill, hanswer⟩ := h.answer_eq hdone
    exact .inl ⟨hstill, houtcome.trans hanswer.symm⟩
  · rw [← h.name_eq] at houtcome
    exact .inr ⟨hnone, houtcome⟩

/-- A task that was done before a call, which then returned unclean, had been given up. -/
theorem Lasts.aborted_of_unclean (h : x.Lasts y) (hfits : x.IsFitting) (hdone : x.agent.IsDone)
    {i : Nat} {since : Option Instant} {time : Instant} {outcome : StopOutcome}
    (hcall : y.calls[i]? = some (.returned since time outcome))
    (hnew : x.calls[i]? ≠ some (.returned since time outcome)) (hunclean : outcome.clean = false) :
    y.agent.stage = .aborted := by
  have hanswer : outcome = x.agent.answer :=
    (h.answered i since time outcome hcall).resolve_left hnew hdone
  obtain ⟨hstage, -⟩ := h.isDone hdone
  refine hstage.trans (hdone.resolve_left fun hfinished => ?_)
  have hstate : x.agent.state = .stopped := stopped_of_finished hfits hfinished
  rw [hanswer, answer_of_stopped hstate] at hunclean
  exact Bool.noConfusion hunclean

namespace Kept

/-- The clock of the site may move on, and nothing else there matters. -/
theorem congr (h : x.Kept) (hagent : y.agent = x.agent) (hcalls : y.calls = x.calls)
    (hnow : x.site.now ≤ y.site.now) : y.Kept := by
  obtain ⟨⟨agent, site, history⟩, calls⟩ := x
  obtain ⟨⟨agent', later, history'⟩, calls'⟩ := y
  obtain rfl : agent' = agent := hagent
  obtain rfl : calls' = calls := hcalls
  refine ⟨h.fits, ⟨rfl, h.orderly.promises, h.orderly.alone⟩, h.cancelled, h.looked, h.taken,
    h.awaited, h.released, h.givenUp, fun since time outcome hmem => ?_⟩
  obtain ⟨htold, hpast⟩ := h.said since time outcome hmem
  exact ⟨htold, hpast.trans hnow⟩

variable (h : x.Kept)

include h

theorem isDone_of_released {clean : Bool} (hhandle : x.agent.handle = .released clean) :
    x.agent.IsDone := by
  have hstage := h.released clean hhandle
  cases clean with
  | true => exact .inl hstage
  | false => exact .inr hstage

/-- The call that waited finds what every later one finds. -/
theorem outcome?_eq {clean : Bool} (hhandle : x.agent.handle = .released clean) :
    x.agent.outcome? = some x.agent.answer := by
  have hstage := h.released clean hhandle
  simp only [outcome?, hhandle]
  cases clean with
  | true =>
      have hstate := stopped_of_finished h.fits hstage
      rw [answer_of_stopped hstate, hstate]
  | false =>
      have hstate := terminating_of_aborted h.fits hstage
      rw [answer_of_terminating hstate, hstate]

theorem state_of_taken (hheld : x.agent.handle ≠ .held) :
    x.agent.isCancelled = true ∧ x.agent.state ∈ x.agent.stage.period.states true := by
  obtain ⟨phase, hmem, htaken⟩ := h.taken hheld
  have hphase : phase.hasCancelled = true ∧ phase ≠ .called := by
    cases phase with
    | waiting since => exact ⟨rfl, nofun⟩
    | returned since time outcome => exact ⟨rfl, nofun⟩
    | _ => exact absurd htaken Bool.false_ne_true
  have htold : x.isTold = true := List.any_eq_true.2 ⟨phase, hmem, decide_eq_true hphase.2⟩
  have hfits := h.fits
  rw [IsFitting, htold] at hfits
  exact ⟨h.cancelled phase hmem hphase.1, hfits⟩

/-- A stop call that looks for the task after another has taken it changes nothing. -/
theorem proceed_of_taken (hheld : x.agent.handle ≠ .held) {caller : Nat}
    (hcaller : ∀ since, x.calls[caller]? ≠ some (.waiting since)) :
    (x.proceed caller).agent = x.agent ∧ (x.proceed caller).site = x.site := by
  obtain ⟨hcancelled, hfits⟩ := h.state_of_taken hheld
  generalize hy : x.proceed caller = y
  have hstep : x.CallStep caller y := hy ▸ x.proceed_step caller
  cases hstep with
  | rested => exact ⟨rfl, rfl⟩
  | told hcall =>
      simp only [tell, move_of_isClosing (isClosing_of_told hfits)]
      exact ⟨trivial, trivial⟩
  | cancelled hcall =>
      refine ⟨?_, rfl⟩
      simp only [cancel, ← hcancelled]
  | took hcall hhandle => exact absurd hhandle hheld
  | refused hcall hhandle => exact ⟨rfl, rfl⟩
  | saw hcall | gaveUp hcall => exact absurd hcall (hcaller _)

end Kept

/-! ## One step -/

/-- A step of a call is no deed of the agent, and does not reach the control plane. -/
theorem proceed_frame (x : Attended) (caller : Nat) :
    (x.proceed caller).history = x.history ∧
      (x.proceed caller).site.plane = x.site.plane := by
  have hstep := x.proceed_step caller
  generalize x.proceed caller = y at hstep
  cases hstep <;> exact ⟨rfl, rfl⟩

section Steps

variable {caller : Nat} {before phase : StopPhase}

/-- A step of a call that had not returned. -/
theorem Lasts.goOn (hcall : x.calls[caller]? = some before)
    (hbefore : ∀ since time outcome, before ≠ .returned since time outcome)
    (hcalls : y.calls = x.calls.set caller phase) (hname : y.agent.name = x.agent.name)
    (hdone : x.agent.IsDone → y.agent.stage = x.agent.stage ∧ y.agent.state = x.agent.state)
    (hanswer : ∀ since time outcome, phase = .returned since time outcome → x.agent.IsDone →
      outcome = x.agent.answer)
    (htaken : x.agent.handle ≠ .held → y.agent.handle ≠ .held ∧ ∀ since, phase ≠ .waiting since) :
    x.Lasts y := by
  have hget (i : Nat) : y.calls[i]? = if caller = i then some phase else x.calls[i]? := by
    rw [hcalls, List.getElem?_set]
    split_ifs with hsame hlt
    · rfl
    · exact absurd (List.getElem?_eq_some_iff.1 hcall).1 hlt
    · rfl
  refine ⟨hname, hdone, fun i since time outcome hi => ?_, fun i since time outcome hi => ?_,
    fun hheld => ⟨(htaken hheld).1, fun i since hi => ?_⟩⟩
  · have hother : caller ≠ i := by
      rintro rfl
      exact hbefore _ _ _ (Option.some.inj (hcall.symm.trans hi))
    rw [hget, if_neg hother]
    exact hi
  · rw [hget] at hi
    split_ifs at hi with hsame
    · exact .inr (hanswer since time outcome (Option.some.inj hi))
    · exact .inl hi
  · rw [hget] at hi
    split_ifs at hi with hsame
    · exact absurd (Option.some.inj hi) ((htaken hheld).2 since)
    · exact hi

/-- A task that was given up is not waited for any more. -/
theorem Kept.finished_of_awaited (h : x.Kept) {deadline : Instant}
    (hhandle : x.agent.handle = .awaited deadline) (hdone : x.agent.IsDone) :
    x.agent.stage = .finished := by
  rcases hdone with hstage | hstage
  · exact hstage
  · exact nomatch hhandle.symm.trans (h.givenUp hstage)

theorem Kept.lasts_proceed (h : x.Kept) (caller : Nat) : x.Lasts (x.proceed caller) := by
  generalize hy : x.proceed caller = y
  have hstep : x.CallStep caller y := hy ▸ x.proceed_step caller
  cases hstep with
  | rested => exact .of_eq rfl rfl
  | told hcall =>
      refine .goOn hcall (by simp) rfl rfl (fun hdone => ⟨rfl, ?_⟩) (by simp)
        fun hheld => ⟨hheld, by simp⟩
      have hclosing := hdone.isClosing h.fits
      simp only [tell, move_of_isClosing hclosing]
  | cancelled hcall =>
      exact .goOn hcall (by simp) rfl rfl (fun _ => ⟨rfl, rfl⟩) (by simp)
        fun hheld => ⟨hheld, by simp⟩
  | took hcall hhandle =>
      exact .goOn hcall (by simp) rfl rfl (fun _ => ⟨rfl, rfl⟩) (by simp) fun hheld =>
        absurd hhandle hheld
  | refused hcall hhandle =>
      refine .goOn hcall (by simp) rfl rfl (fun _ => ⟨rfl, rfl⟩) ?_ fun hheld => ⟨hheld, by simp⟩
      rintro since time outcome heq -
      injection heq with _ _ houtcome
      exact houtcome.symm
  | saw hcall hhandle hstage =>
      refine .goOn hcall (by simp) rfl rfl (fun _ => ⟨rfl, rfl⟩) ?_ fun _ => ⟨by simp, by simp⟩
      rintro since time outcome heq -
      injection heq with _ _ houtcome
      have hstate : x.agent.state = .stopped := stopped_of_finished h.fits hstage
      rw [← houtcome, answer_of_stopped hstate, hstate]
  | gaveUp hcall hhandle hlate hstage =>
      have hnot (hdone : x.agent.IsDone) : False := hstage (h.finished_of_awaited hhandle hdone)
      exact .goOn hcall (by simp) rfl rfl (fun hdone => (hnot hdone).elim)
        (fun _ _ _ _ hdone => (hnot hdone).elim) fun _ => ⟨by simp, by simp⟩

/-- A step of a call that leaves the task to whom it belongs. -/
theorem Kept.goOn (h : x.Kept) (hlasts : x.Lasts y) (hfits : y.IsFitting)
    (horderly : y.Orderly x.agent.setup) (hnow : y.site.now = x.site.now)
    (hcall : x.calls[caller]? = some before) (hbefore : before.hasTaken = false)
    (hcalls : y.calls = x.calls.set caller phase)
    (hhandle : y.agent.handle = x.agent.handle) (hstage : y.agent.stage = x.agent.stage)
    (hcancelled : x.agent.isCancelled = true ∨ phase.hasCancelled = true →
      y.agent.isCancelled = true)
    (hlooked : phase.hasLooked = true → x.agent.handle ≠ .held)
    (hsaid : ∀ since time outcome, phase = .returned since time outcome →
      Says y.agent since outcome ∧ time ≤ x.site.now) : y.Kept := by
  have hkept (other : StopPhase) (hmem : other ∈ x.calls) (htaken : other.hasTaken = true) :
      other ∈ y.calls := by
    rw [hcalls]
    refine mem_set_of_ne hcall hmem ?_
    rintro rfl
    exact Bool.false_ne_true (hbefore.symm.trans htaken)
  have hsplit (other : StopPhase) (hmem : other ∈ y.calls) : other ∈ x.calls ∨ other = phase :=
    List.mem_or_eq_of_mem_set (hcalls ▸ hmem)
  constructor
  case fits => exact hfits
  case orderly => exact horderly.setup_eq ▸ horderly
  case cancelled =>
    intro other hmem hother
    rcases hsplit other hmem with hold | rfl
    · exact hcancelled (.inl (h.cancelled other hold hother))
    · exact hcancelled (.inr hother)
  case looked =>
    intro other hmem hother
    rw [hhandle]
    rcases hsplit other hmem with hold | rfl
    · exact h.looked other hold hother
    · exact hlooked hother
  case taken =>
    intro hheld
    obtain ⟨other, hmem, htaken⟩ := h.taken (hhandle ▸ hheld)
    exact ⟨other, hkept other hmem htaken, htaken⟩
  case awaited =>
    intro deadline hdeadline
    obtain ⟨since, hmem⟩ := h.awaited deadline (hhandle ▸ hdeadline)
    exact ⟨since, hkept _ hmem rfl⟩
  case released =>
    intro clean hclean
    rw [hstage]
    exact h.released clean (hhandle ▸ hclean)
  case givenUp =>
    intro haborted
    rw [hhandle]
    exact h.givenUp (hstage ▸ haborted)
  case said =>
    intro since time outcome hmem
    rw [hnow]
    rcases hsplit _ hmem with hold | hnew
    · obtain ⟨htold, hpast⟩ := h.said since time outcome hold
      exact ⟨htold.lasts hlasts, hpast⟩
    · exact hsaid since time outcome hnew.symm

/-- The call that takes the task, or the one that returns having waited for it. -/
theorem Kept.turnOver (h : x.Kept) (hlasts : x.Lasts y) (hfits : y.IsFitting)
    (horderly : y.Orderly x.agent.setup) (hnow : y.site.now = x.site.now)
    (hcall : x.calls[caller]? = some before) (hbefore : before.hasCancelled = true)
    (hcalls : y.calls = x.calls.set caller phase) (htaken : phase.hasTaken = true)
    (hcancelled : y.agent.isCancelled = x.agent.isCancelled) (hheld : y.agent.handle ≠ .held)
    (hawaited : ∀ deadline, y.agent.handle = .awaited deadline → ∃ since, phase = .waiting since)
    (hreleased : ∀ clean, y.agent.handle = .released clean →
      y.agent.stage = if clean then .finished else .aborted)
    (hgivenUp : y.agent.stage = .aborted → y.agent.handle = .released false)
    (hsaid : ∀ since time outcome, phase = .returned since time outcome →
      Says y.agent since outcome ∧ time ≤ x.site.now) : y.Kept := by
  have hlt : caller < x.calls.length := (List.getElem?_eq_some_iff.1 hcall).1
  have hmem : phase ∈ y.calls := hcalls ▸ List.mem_set hlt phase
  constructor
  case fits => exact hfits
  case orderly => exact horderly.setup_eq ▸ horderly
  case cancelled =>
    intro other hother _
    rw [hcancelled]
    exact h.cancelled before (List.mem_of_getElem? hcall) hbefore
  case looked => exact fun _ _ _ => hheld
  case taken => exact fun _ => ⟨phase, hmem, htaken⟩
  case awaited =>
    intro deadline hdeadline
    obtain ⟨since, rfl⟩ := hawaited deadline hdeadline
    exact ⟨since, hmem⟩
  case released => exact hreleased
  case givenUp => exact hgivenUp
  case said =>
    intro since time outcome hother
    rw [hnow]
    rcases List.mem_or_eq_of_mem_set (hcalls ▸ hother) with hold | hnew
    · obtain ⟨htold, hpast⟩ := h.said since time outcome hold
      exact ⟨htold.lasts hlasts, hpast⟩
    · exact hsaid since time outcome hnew.symm

theorem Kept.proceed (h : x.Kept) (caller : Nat) : (x.proceed caller).Kept := by
  have hlasts := h.lasts_proceed caller
  have hfits := h.fits.proceed caller
  have horderly := h.orderly.proceed h.fits caller
  generalize hy : x.proceed caller = y at *
  have hstep : x.CallStep caller y := hy ▸ x.proceed_step caller
  cases hstep with
  | rested => exact h
  | told hcall =>
      exact h.goOn hlasts hfits horderly rfl hcall rfl rfl rfl rfl
        (fun hor => hor.resolve_right nofun) nofun nofun
  | cancelled hcall =>
      exact h.goOn hlasts hfits horderly rfl hcall rfl rfl rfl rfl (fun _ => rfl) nofun nofun
  | took hcall hhandle =>
      refine h.turnOver hlasts hfits horderly rfl hcall rfl rfl rfl rfl nofun ?_ nofun ?_ nofun
      · exact fun _ _ => ⟨_, rfl⟩
      · intro haborted
        exact nomatch hhandle.symm.trans (h.givenUp haborted)
  | refused hcall hhandle =>
      obtain ⟨hcancelled, htold⟩ := h.state_of_taken hhandle
      refine h.goOn hlasts hfits horderly rfl hcall rfl rfl rfl rfl (fun _ => hcancelled)
        (fun _ => hhandle) ?_
      rintro since time outcome heq
      injection heq with hsince htime houtcome
      subst hsince htime houtcome
      refine ⟨?_, Nat.le_refl _⟩
      by_cases hstage : x.agent.stage = .finished
      · exact .inl ⟨.inl hstage, rfl⟩
      · -- The task is not done, or it was given up.
        exact .inr ⟨rfl, answer_of_terminating (terminating_of_told htold hstage)⟩
  | saw hcall hhandle hstage =>
      have hdone : x.agent.IsDone := .inl hstage
      refine h.turnOver hlasts hfits horderly rfl hcall rfl rfl rfl rfl nofun nofun ?_ ?_ ?_
      · intro clean hclean
        obtain rfl := TaskHandle.released.inj hclean
        exact hstage
      · intro haborted
        exact nomatch hstage.symm.trans haborted
      · rintro since time outcome heq
        injection heq with hsince htime houtcome
        subst hsince htime houtcome
        have hstate : x.agent.state = .stopped := stopped_of_finished h.fits hstage
        have houtcome := congrArg (StopOutcome.mk x.agent.name true) hstate
        exact ⟨.inl ⟨hdone, houtcome.trans (answer_of_stopped hstate).symm⟩, Nat.le_refl _⟩
  | gaveUp hcall hhandle hlate hstage =>
      obtain ⟨-, htold⟩ := h.state_of_taken (by simp [hhandle])
      refine h.turnOver hlasts hfits horderly rfl hcall rfl rfl rfl rfl nofun nofun ?_
        (fun _ => rfl) ?_
      · intro clean hclean
        obtain rfl := TaskHandle.released.inj hclean
        rfl
      · rintro since time outcome heq
        injection heq with hsince htime houtcome
        subst hsince htime houtcome
        have hstate : x.agent.state = .terminating := terminating_of_told htold hstage
        have houtcome := congrArg (StopOutcome.mk x.agent.name false) hstate
        exact ⟨.inl ⟨.inr rfl, houtcome.trans (answer_of_terminating hstate).symm⟩, Nat.le_refl _⟩

/-! ### What else happens -/

theorem act_stage_ne_aborted {a : Agent} {site : Site} {actor : Actor} (hactor : actor ≠ .stopper)
    (hstage : a.stage ≠ .aborted) : (a.act actor site).1.stage ≠ .aborted := by
  have hstep := a.act_step site actor
  generalize a.act actor site = later at hstep ⊢
  cases hstep with
  | taskIdle | heartbeatIdle | statusSyncIdle => exact hstage
  | @settled attempt call =>
      cases (site.settleRegister call attempt.identity a.setup.profile).1 <;> exact nofun
  | released | abandoned => exact absurd rfl hactor
  | _ => exact nofun

/-- What is no step of a stop call leaves the task to whom it belongs, and as it is once it is
done. -/
theorem happen_other (x : Attended) (move : Move) (hother : move.isStop = false) :
    let y := x.happen (.other move hother)
    y.calls = x.calls ∧ y.agent.name = x.agent.name ∧ y.agent.handle = x.agent.handle ∧
      y.agent.isCancelled = x.agent.isCancelled ∧ x.site.now ≤ y.site.now ∧
      (x.agent.IsDone → y.agent.stage = x.agent.stage ∧ y.agent.state = x.agent.state) ∧
      (y.agent.stage = .aborted → x.agent.stage = .aborted) := by
  have hsame (stage : Stage) : stage = .aborted → stage = .aborted := id
  cases move with
  | act actor =>
      have hactor := Move.ne_stopper hother
      obtain ⟨tracker, stage, reregistration, hact⟩ := x.agent.act_eq x.site actor hactor
      have hname : (x.agent.act actor x.site).1.name = x.agent.name := by rw [hact]; rfl
      have hhandle : (x.agent.act actor x.site).1.handle = x.agent.handle := by rw [hact]
      have hcancelled : (x.agent.act actor x.site).1.isCancelled = x.agent.isCancelled := by
        rw [hact]
      refine ⟨rfl, hname, hhandle, hcancelled, (x.agent.act_now x.site actor).ge, fun hdone => ?_,
        not_imp_not.1 (act_stage_ne_aborted hactor)⟩
      show (x.agent.act actor x.site).1.stage = _ ∧ (x.agent.act actor x.site).1.state = _
      rw [x.agent.act_of_over x.site hactor hdone]
      exact ⟨rfl, rfl⟩
  | release workload =>
      have hnow := congrArg Prod.fst (x.agent.frame_release x.site workload)
      exact ⟨rfl, rfl, rfl, rfl, hnow.ge, fun _ => ⟨rfl, rfl⟩, hsame _⟩
  | wait instant => exact ⟨rfl, rfl, rfl, rfl, Nat.le_max_left _ _, fun _ => ⟨rfl, rfl⟩, hsame _⟩
  | stop => exact absurd hother (by decide)
  | _ => exact ⟨rfl, rfl, rfl, rfl, Nat.le_refl _, fun _ => ⟨rfl, rfl⟩, hsame _⟩

theorem Kept.lasts_happen (h : x.Kept) (event : Event) : x.Lasts (x.happen event) := by
  cases event with
  | proceed caller => exact h.lasts_proceed caller
  | other move hother =>
      obtain ⟨hcalls, hname, hhandle, -, -, hdone, -⟩ := x.happen_other move hother
      generalize x.happen (.other move hother) = y at *
      refine ⟨hname, hdone, ?_, ?_, fun hheld => ⟨hhandle ▸ hheld, ?_⟩⟩ <;> rw [hcalls]
      · exact fun i since time outcome hi => hi
      · exact fun i since time outcome hi => .inl hi
      · exact fun i since hi => hi
  | call =>
      have hget (i : Nat) (phase : StopPhase) (hne : phase ≠ .called)
          (hi : (x.calls ++ [.called])[i]? = some phase) : x.calls[i]? = some phase := by
        simp only [List.getElem?_append, List.getElem?_singleton] at hi
        split_ifs at hi with hlt hlast
        · exact hi
        · exact absurd (Option.some.inj hi).symm hne
      refine ⟨rfl, fun _ => ⟨rfl, rfl⟩, fun i since time outcome hi => ?_,
        fun i since time outcome hi => .inl (hget i _ nofun hi),
        fun hheld => ⟨hheld, fun i since hi => hget i _ nofun hi⟩⟩
      exact List.getElem?_append_left (List.getElem?_eq_some_iff.1 hi).1 ▸ hi

theorem Kept.happen (h : x.Kept) (event : Event) : (x.happen event).Kept := by
  have hlasts := h.lasts_happen event
  have horderly := h.orderly.happen h.fits event
  cases event with
  | proceed caller => exact h.proceed caller
  | other move hother =>
      have hfits := h.fits.happen (.other move hother)
      obtain ⟨hcalls, -, hhandle, hcancelled, hnow, hdone, haborted⟩ := x.happen_other move hother
      generalize x.happen (.other move hother) = y at *
      constructor
      case fits => exact hfits
      case orderly => exact horderly.setup_eq ▸ horderly
      case cancelled => rw [hcalls, hcancelled]; exact h.cancelled
      case looked => rw [hcalls, hhandle]; exact h.looked
      case taken => rw [hcalls, hhandle]; exact h.taken
      case awaited => rw [hcalls, hhandle]; exact h.awaited
      case released =>
        intro clean hclean
        have hbefore : x.agent.handle = .released clean := hhandle ▸ hclean
        rw [(hdone (h.isDone_of_released hbefore)).1]
        exact h.released clean hbefore
      case givenUp =>
        intro hstage
        rw [hhandle]
        exact h.givenUp (haborted hstage)
      case said =>
        rw [hcalls]
        intro since time outcome hmem
        obtain ⟨htold, hpast⟩ := h.said since time outcome hmem
        exact ⟨htold.lasts hlasts, hpast.trans hnow⟩
  | call =>
      have hold (phase : StopPhase) (hmem : phase ∈ x.calls ++ [.called]) (hne : phase ≠ .called) :
          phase ∈ x.calls :=
        (List.mem_append.1 hmem).resolve_right fun hnew => hne (List.mem_singleton.1 hnew)
      refine ⟨h.fits.happen .call, horderly, fun phase hmem hphase => ?_,
        fun phase hmem hphase => ?_, fun hheld => ?_, fun deadline hdeadline => ?_, h.released, h.givenUp,
        fun since time outcome hmem => h.said since time outcome (hold _ hmem nofun)⟩
      · exact h.cancelled phase (hold phase hmem (by rintro rfl; exact nomatch hphase)) hphase
      · exact h.looked phase (hold phase hmem (by rintro rfl; exact nomatch hphase)) hphase
      · obtain ⟨phase, hmem, htaken⟩ := h.taken hheld
        exact ⟨phase, List.mem_append_left _ hmem, htaken⟩
      · obtain ⟨since, hmem⟩ := h.awaited deadline hdeadline
        exact ⟨since, List.mem_append_left _ hmem⟩

/-- Calls are not forgotten. -/
theorem length_le_happen (x : Attended) (event : Event) :
    x.calls.length ≤ (x.happen event).calls.length := by
  cases event with
  | other move hother => exact (congrArg List.length (x.happen_other move hother).1).ge
  | call => simp [Attended.happen]
  | proceed caller =>
      generalize hy : x.happen (.proceed caller) = y
      have hstep : x.CallStep caller y := hy ▸ x.proceed_step caller
      cases hstep with
      | rested => exact Nat.le_refl _
      | _ => exact List.length_set.ge

/-- What holds of a new agent. -/
theorem kept_create (setup : AgentSetup) (site : Site) (history : List Deed) :
    Kept ⟨⟨.create setup, site, history⟩, []⟩ where
  fits := List.mem_singleton_self _
  orderly := ⟨rfl, nofun, nofun⟩
  cancelled := nofun
  looked := nofun
  taken := fun hheld => absurd rfl hheld
  awaited := nofun
  released := nofun
  givenUp := nofun
  said := nofun

end Steps

end Attended

theorem attend_kept (setup : AgentSetup) (site : Site) (events : List Attended.Event) :
    (attend setup site events).Kept := by
  induction events using List.reverseRecOn with
  | nil => exact Attended.kept_create setup site []
  | append_singleton events event ih =>
      rw [attend_concat]
      exact ih.happen event

end NodeFleet.Agent
