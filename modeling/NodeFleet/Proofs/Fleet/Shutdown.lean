import NodeFleet.Proofs.Fleet.Schedule

/-!
# Shutdown

A shutdown may be called at any time: before the fleet is started, while its agents are launched,
or later, and while other shutdowns and stop calls are in progress.  Once it has cancelled the
launch no agent is launched, and once it has taken back readiness the fleet is not ready.  It can
come to its end from wherever it is called, and it reports each agent once (`Kept.stands`).

Who is reported as stopped has stopped for good.  Who is reported as failed was given up, or the
shutdown's own call to it was missed: another call had taken the task, and this one returned at
once.  Such an agent may stop after the report, and later reports then have it as stopped; they
differ in nothing else (`Kept.repeats`).  A report that has no such agent is for good (`Settles`),
and leaves nothing to do that could reach the control plane (`Kept.rests`).
-/

namespace NodeFleet.Fleet

open Agent (StopOutcome)

namespace Attended

variable {x y : Attended} {own : List (Nat × Nat)} {report : ShutdownReport}

/-! ## What a report comes to -/

/-- Whether a stop call has returned without waiting for the task. -/
def HasMissed (x : Attended) (position caller : Nat) : Prop :=
  ∃ time outcome, (x.calls position)[caller]? = some (.returned none time outcome)

/-- What holds of a report on certain stop calls, from then on. -/
structure Stands (x : Attended) (own : List (Nat × Nat)) (report : ShutdownReport) : Prop where
  /-- They are one for each agent. -/
  positions : own.map Prod.fst = List.range x.members.length
  covers : report.Covers x.names
  /-- An agent is on the list to which the state belongs that its call saw. -/
  listed : ∀ entry ∈ own, ∀ member, x.members[entry.1]? = some member →
    ∃ since time outcome, (x.calls entry.1)[entry.2]? = some (.returned since time outcome) ∧
      (member.agent.name ∈ report.stopped ↔ outcome.finalState = .stopped)
  stopped : ∀ member ∈ x.members, member.agent.name ∈ report.stopped →
    member.agent.state = .stopped
  failed : ∀ entry ∈ own, ∀ member, x.members[entry.1]? = some member →
    member.agent.name ∈ report.failed →
      member.agent.stage = .aborted ∧ member.agent.state = .terminating ∨
        x.HasMissed entry.1 entry.2

/-- What a report of one time means for the calls that are made after it, at a later one. -/
structure Repeats (x y : Attended) (report : ShutdownReport) : Prop where
  /-- Who had stopped is reported so again. -/
  stopped_subset : ∀ (i : Nat) other, x.shutdowns.length ≤ i →
    y.shutdowns[i]? = some (.reported other) → report.stopped ⊆ other.stopped
  /-- Another report has an agent as stopped that this one has as failed, or it is the same. -/
  eq_iff : ∀ (i : Nat) other, x.shutdowns.length ≤ i → y.shutdowns[i]? = some (.reported other) →
    (other = report ↔ ∀ name ∈ report.failed, name ∉ other.stopped)
  /-- The stop calls change nothing in the fleet. -/
  proceed : ∀ position caller, (x.calls position).length ≤ caller →
    (y.happen (.proceed position caller)).fleet = y.fleet
  /-- The shutdowns do not call the control plane. -/
  advance : ∀ caller, (y.happen (.advance caller)).fleet.site.plane = y.fleet.site.plane

/-- What is left after a report that is for good: at most a call that waits, for a task that has
ended. -/
structure Rests (x y : Attended) (report : ShutdownReport) : Prop where
  same : ∀ (i : Nat) other, x.shutdowns.length ≤ i → y.shutdowns[i]? = some (.reported other) →
    other = report
  due : ∀ member ∈ y.members, ∀ actor, actor ≠ .stopper → member.agent.due? actor = none
  request : ∀ member ∈ y.members, ∀ actor, member.agent.request? y.fleet.site actor = none

theorem Kept.stands (h : y.Kept) (hcome : x.HasCome y (.reported report)) :
    ∃ own, y.Stands own report := by
  have hcovers := h.covers hcome
  obtain ⟨own, outcomes, hpositions, houtcomes, rfl, -⟩ := hcome.exists_outcomes
  have hnodup : (own.map Prod.fst).Nodup := hpositions ▸ List.nodup_range
  have hreturned {entry : Nat × Nat} (hentry : entry ∈ own) {member : Member}
      (hmember : y.members[entry.1]? = some member) :
      ∃ since time outcome, (y.calls entry.1)[entry.2]? = some (.returned since time outcome) ∧
        (member.agent.name ∈ (ShutdownReport.ofOutcomes y.names outcomes).stopped ↔
          outcome.clean = true) ∧
        (member.agent.name ∈ (ShutdownReport.ofOutcomes y.names outcomes).failed ↔
          outcome.clean = false) := by
    obtain ⟨caller, since, time, outcome, hown, houtcome, hcall⟩ :=
      exists_returned hpositions houtcomes hmember
    have hsame : entry.2 = caller :=
      congrArg Prod.snd (List.inj_on_of_nodup_map hnodup hentry hown rfl)
    obtain ⟨htold, -⟩ := (h.agents entry.1 member hmember).said since time outcome
      (List.mem_of_getElem? hcall)
    have hlisted := h.listed_of_outcome hpositions houtcomes (List.mem_of_getElem? houtcome)
    rw [htold.name_eq] at hlisted
    exact ⟨since, time, outcome, hsame ▸ hcall, hlisted⟩
  refine ⟨own, hpositions, hcovers, fun entry hentry member hmember => ?_,
    fun member hmember hstopped => ?_, fun entry hentry member hmember hfailed => ?_⟩
  · obtain ⟨since, time, outcome, hcall, hclean, -⟩ := hreturned hentry hmember
    obtain ⟨htold, -⟩ := (h.agents entry.1 member hmember).said since time outcome
      (List.mem_of_getElem? hcall)
    exact ⟨since, time, outcome, hcall, hclean.trans htold.clean_iff⟩
  · obtain ⟨position, hposition⟩ := List.mem_iff_getElem?.1 hmember
    obtain ⟨since, time, outcome, hmem, hclean, -⟩ := h.listed hcome hposition
    obtain ⟨-, hstate, -⟩ := (h.agents position member hposition).of_clean hmem
      (hclean.1 hstopped)
    exact hstate
  · obtain ⟨since, time, outcome, hcall, -, hunclean⟩ := hreturned hentry hmember
    have hkept := h.agents entry.1 member hmember
    obtain ⟨-, hstage | rfl⟩ := hkept.of_unclean (List.mem_of_getElem? hcall) (hunclean.1 hfailed)
    · exact .inl ⟨hstage, Agent.terminating_of_aborted hkept.fits hstage⟩
    · exact .inr ⟨time, outcome, hcall⟩

/-! ## After a report -/

theorem plane_advance (x : Attended) (caller : Nat) :
    (x.advance caller).fleet.site.plane = x.fleet.site.plane := by
  simp only [advance]
  split
  · rfl
  · split_ifs <;> rfl
  · rfl
  · rfl
  · split <;> rfl
  · rfl
  · rfl

section Reported

variable {w : Attended} (hx : x.Kept) (hfirst : w.HasCome x (.reported report))
  (hcancelled : x.fleet.cohort.launchCancelled = true) (hy : y.Kept) (hsince : x.Since y)

include hx hfirst hcancelled hy hsince

theorem Kept.repeats : x.Repeats y report where
  stopped_subset := fun i other hlater hother =>
    Follows.stopped_subset hx hfirst hsince.follows (hsince.hasCome i _ hlater hother)
  eq_iff := by
    intro i other hlater hother
    have hcome := hsince.hasCome i _ hlater hother
    have hcovers := hx.covers hfirst
    rw [← hsince.follows.names_eq hcancelled] at hcovers
    exact hcovers.eq_iff (hy.covers hcome)
      (Follows.stopped_subset hx hfirst hsince.follows hcome)
  proceed := fun position caller hlate =>
    Follows.happen_proceed hx hfirst hcancelled hy hsince.follows hlate
  advance := y.plane_advance

omit hx hfirst hy in
/-- Who was given up stays so. -/
theorem Settles.since (hsettles : x.Settles report) : y.Settles report := by
  intro later hlater hfailed
  obtain ⟨position, hposition⟩ := List.mem_iff_getElem?.1 hlater
  obtain ⟨member, hmember, hlasts⟩ := hsince.follows.exists_earlier hcancelled hposition
  have hname : later.agent.name = member.agent.name := hlasts.name_eq
  have hstage := hsettles member (List.mem_of_getElem? hmember) (hname ▸ hfailed)
  exact (hlasts.isDone (.inr hstage)).1.trans hstage

omit hy in
/-- A report that is for good finds all tasks done. -/
theorem Kept.isDone (hsettles : x.Settles report) : ∀ member ∈ y.members, member.agent.IsDone := by
  intro later hlater
  obtain ⟨position, hposition⟩ := List.mem_iff_getElem?.1 hlater
  obtain ⟨member, hmember, hlasts⟩ := hsince.follows.exists_earlier hcancelled hposition
  obtain ⟨since, time, outcome, hmem, -, hfailed⟩ := hx.listed hfirst hmember
  have hdone : member.agent.IsDone := by
    cases hclean : outcome.clean with
    | true => exact ((hx.agents position member hmember).of_clean hmem hclean).1
    | false => exact .inr (hsettles member (List.mem_of_getElem? hmember) (hfailed.2 hclean))
  exact (hlasts.answer_eq hdone).1

theorem Kept.rests (hsettles : x.Settles report) : x.Rests y report := by
  have hdone := hx.isDone hfirst hcancelled hsince hsettles
  have hstill := hsettles.since hcancelled hsince
  refine ⟨fun i other hlater hother => ?_,
    fun member hmember actor hactor => (hdone member hmember).due?_eq_none hactor,
    fun member hmember actor => (hdone member hmember).request?_eq_none _ actor⟩
  have hrepeats := hx.repeats hfirst hcancelled hy hsince
  have hcome := hsince.hasCome i _ hlater hother
  obtain ⟨own, hstands⟩ := hy.stands hcome
  refine (hrepeats.eq_iff i other hlater hother).2 fun name hfailed hstopped => ?_
  have hname : name ∈ y.names := hstands.covers.perm.mem_iff.1 (List.mem_append_left _ hstopped)
  obtain ⟨member, hmember, rfl⟩ := List.mem_map.1 hname
  obtain ⟨position, hposition⟩ := List.mem_iff_getElem?.1 hmember
  have hterminating := Agent.terminating_of_aborted (hy.agents position member hposition).fits
    (hstill member hmember hfailed)
  exact nomatch (hstands.stopped member hmember hstopped).symm.trans hterminating

end Reported

/-- When all tasks are done, whoever calls the control plane is not of the fleet. -/
theorem Kept.happen_plane (h : x.Kept) (hdone : ∀ member ∈ x.members, member.agent.IsDone)
    {event : Event} (hevent : ∀ plane, event ≠ .other (.control plane)) :
    (x.happen event).fleet.site.plane = x.fleet.site.plane := by
  cases event with
  | stop position =>
      simp only [Attended.happen]
      split_ifs <;> rfl
  | proceed position caller =>
      simp only [Attended.happen]
      split
      · exact (Agent.Attended.proceed_frame _ caller).2
      · rfl
  | shutdown => rfl
  | advance caller => exact x.plane_advance caller
  | other m =>
      show (x.fleet.move m).site.plane = x.fleet.site.plane
      cases m with
      | control plane => exact absurd rfl (hevent plane)
      | start draw =>
          simp only [move]
          split
          · obtain ⟨-, -, -, -, hplane⟩ := h.inOrder.launches.start ‹_› ‹_›
            exact hplane
          · rfl
      | launch =>
          simp only [move]
          split_ifs with hready
          · obtain ⟨due, hdue, -⟩ := (Option.any_eq_true _ _).1 hready
            have hstep := h.inOrder.launches.perform_launch hdue
            show (x.fleet.cohort.perform .launch).site.plane = _
            generalize x.fleet.cohort.perform .launch = c at hstep
            cases hstep <;> rfl
          · rfl
      | act position actor =>
          simp only [move]
          split_ifs with hready
          · obtain ⟨due, hdue, -⟩ := (Option.any_eq_true _ _).1 hready.2
            obtain ⟨member, hmember, hacts⟩ := Option.bind_eq_some_iff.1 hdue
            have hnone := (hdone member (List.mem_of_getElem? hmember)).due?_eq_none hready.1
            exact absurd (hacts.symm.trans hnone) (Option.some_ne_none due)
          · rfl
      | submit name workload request =>
          simp only [move, Fleet.submit]
          cases x.fleet.agent name <;> rfl
      | release name workload =>
          simp only [move, Fleet.release]
          cases x.fleet.agent name with
          | error error => rfl
          | ok found =>
              obtain ⟨position, agent⟩ := found
              show (agent.release workload x.fleet.site).2.2.plane = x.fleet.site.plane
              simp only [Agent.release]
              split_ifs <;> rfl
      | wait instant => rfl

theorem Kept.run_plane (h : x.Kept) (hcancelled : x.fleet.cohort.launchCancelled = true)
    (hdone : ∀ member ∈ x.members, member.agent.IsDone) {events : List Event}
    (hevents : ∀ event ∈ events, ∀ plane, event ≠ .other (.control plane)) :
    (events.foldl Attended.happen x).fleet.site.plane = x.fleet.site.plane := by
  induction events generalizing x with
  | nil => rfl
  | cons event events ih =>
      obtain ⟨hevent, hevents⟩ := List.forall_mem_cons.1 hevents
      have hfollows := h.follows_happen event
      have hlater : ∀ member ∈ (x.happen event).members, member.agent.IsDone := by
        intro later hlater
        obtain ⟨position, hposition⟩ := List.mem_iff_getElem?.1 hlater
        obtain ⟨member, hmember, hlasts⟩ := hfollows.exists_earlier hcancelled hposition
        exact (hlasts.answer_eq (hdone member (List.mem_of_getElem? hmember))).1
      exact (ih (h.happen event) (hfollows.cancelled hcancelled).1 hlater hevents).trans
        (h.happen_plane hdone hevent)

end Attended

/-- Shutdowns at any time, with other shutdowns and stop calls in progress.

* Once one of them has cancelled the launch no agent is launched, and once one has taken back
  readiness the fleet is not ready.
* A report has each agent once, on the list to which the state belongs that the shutdown's own call
  has seen.  Who is reported as stopped stays so, and who is reported as failed does so too unless
  that call was missed.
* Calls that are made after a report do nothing to the control plane, and later reports differ only
  in who has stopped since then.  If all that failed were given up, they are the same, and only the
  outside changes the control plane any more.
* A shutdown can come to its end, as `Fleet.shutdown` does, and if no stop call waits when it is
  called its report is for good. -/
theorem shutdown_complete_unless_missed {config : FleetConfig} {site : Site} {f : Fleet}
    (hcreate : create config site = .ok f) (events : List Attended.Event) :
    let x := f.attend events
    (∀ stage ∈ x.shutdowns, stage ≠ .called →
        ∀ later, (f.attend (events ++ later)).names = x.names) ∧
      (x.isCleared = true → ∀ later,
        (f.attend (events ++ later)).fleet.site.telemetry.health.readiness.ready = false) ∧
      (∀ report, .reported report ∈ x.shutdowns →
        (∃ own, x.Stands own report) ∧
        ∀ later, let y := f.attend (events ++ later)
          x.Repeats y report ∧
          (x.Settles report → x.Rests y report ∧
            ((∀ event ∈ later, ∀ plane, event ≠ .other (.control plane)) →
              y.fleet.site.plane = x.fleet.site.plane))) ∧
      ∃ y, (x.happen .shutdown).Reaches y ∧ y.fleet = x.fleet.shutdown.2 ∧
        y.shutdowns = x.shutdowns ++ [.reported x.fleet.shutdown.1] ∧
        (x.fleet.cohort.isStopping = false → y.Settles x.fleet.shutdown.1) := by
  intro x
  have hx : x.Kept := attend_kept hcreate events
  have hsince (later : List Attended.Event) : x.Since (f.attend (events ++ later)) :=
    attend_since hcreate events later
  have hy (later : List Attended.Event) : (f.attend (events ++ later)).Kept :=
    attend_kept hcreate (events ++ later)
  refine ⟨fun stage hstage hcalled later => ?_, fun hcleared later => ?_,
    fun report hreport => ⟨?_, fun later => ⟨?_, fun hsettles => ⟨?_, fun hlater => ?_⟩⟩⟩, ?_⟩
  · exact (hsince later).follows.names_eq (hx.inOrder.cancelled stage hstage hcalled)
  · exact ((hy later).closed ((hsince later).cleared hcleared)).not_ready
  · exact hx.stands (attend_hasCome hcreate events hreport)
  · exact hx.repeats (attend_hasCome hcreate events hreport)
      (hx.inOrder.cancelled _ hreport nofun) (hy later) (hsince later)
  · exact hx.rests (attend_hasCome hcreate events hreport)
      (hx.inOrder.cancelled _ hreport nofun) (hy later) (hsince later) hsettles
  · have hcancelled := hx.inOrder.cancelled _ hreport nofun
    rw [attend_append]
    exact hx.run_plane hcancelled
      (hx.isDone (attend_hasCome hcreate events hreport) hcancelled (.refl x) hsettles) hlater
  · obtain ⟨y, hreach, hfleet, hshutdowns, -, hsettles⟩ := hx.reaches_shutdown
    exact ⟨y, hreach, hfleet, hshutdowns, hsettles⟩

/-- An agent that does not stop in time is given up, and every shutdown reports so. -/
theorem shutdown_repeats_after_deadline :
    let config : FleetConfig := { fleetSize := 1 }
    let node := config.agentName 0
    let task : Attended.Event := .other (.act 0 .task)
    let first : List Attended.Event :=
      [.other (.start fun _ => 0), .other .launch, task, task,
        .shutdown, .advance 0, .advance 0, .advance 0, .advance 0,
        .proceed 0 0, .proceed 0 0, .proceed 0 0, .other (.wait config.shutdownTimeout),
        .proceed 0 0, .advance 0]
    let again : List Attended.Event :=
      [task, .shutdown, .advance 1, .advance 1, .advance 1, .advance 1,
        .proceed 0 1, .proceed 0 1, .proceed 0 1, .advance 1]
    ∃ f, create config (.create (.empty 0) ⟨0, 0⟩) = .ok f ∧
      (f.attend first).shutdowns = [.reported ⟨[], [node]⟩] ∧
      (f.attend (first ++ again)).shutdowns[1]? = some (.reported ⟨[], [node]⟩) ∧
      (f.attend (first ++ again)).names = (f.attend first).names ∧
      (f.attend (first ++ again)).fleet.site.plane = (f.attend first).fleet.site.plane := by
  intro config node task first again
  have hchecked : (create config (.create (.empty 0) ⟨0, 0⟩)).toOption.any (fun f =>
      decide ((f.attend first).shutdowns = [.reported ⟨[], [node]⟩]) &&
        (f.attend first).members.all (fun member => member.agent.handle == .released false) &&
        decide ((f.attend (first ++ again)).shutdowns[1]? =
          some (.reported ⟨[], [node]⟩))) = true := by
    decide +kernel
  obtain ⟨f, hcreate, hfleet⟩ := exists_create_of_any hchecked
  simp only [Bool.and_eq_true, decide_eq_true_eq, List.all_eq_true, beq_iff_eq] at hfleet
  obtain ⟨⟨hfirst, hhandles⟩, hagain⟩ := hfleet
  have hreport : .reported ⟨[], [node]⟩ ∈ (f.attend first).shutdowns := by
    rw [hfirst]
    exact List.mem_singleton_self _
  have hsettles : (f.attend first).Settles ⟨[], [node]⟩ := by
    intro member hmember _
    obtain ⟨position, hposition⟩ := List.mem_iff_getElem?.1 hmember
    exact ((attend_kept hcreate first).agents position member hposition).released false
      (hhandles member hmember)
  obtain ⟨hlaunch, -, hreports, -⟩ := shutdown_complete_unless_missed hcreate first
  obtain ⟨-, hlater⟩ := hreports _ hreport
  obtain ⟨-, hplane⟩ := (hlater again).2 hsettles
  refine ⟨f, hcreate, hfirst, hagain, hlaunch _ hreport nofun again, hplane fun event hevent => ?_⟩
  rintro plane rfl
  simp [again, task] at hevent

/-- A shutdown that finds another stop call waiting reports the agent as failed.  The agent stops
all the same, and the next shutdown reports it as stopped. -/
theorem shutdown_reports_otherwise_when_repeated :
    let config : FleetConfig := { fleetSize := 1 }
    let node := config.agentName 0
    let task : Attended.Event := .other (.act 0 .task)
    let first : List Attended.Event :=
      [.other (.start fun _ => 0), .other .launch, task, task,
        .stop 0, .proceed 0 0, .proceed 0 0, .proceed 0 0,
        .shutdown, .advance 0, .advance 0, .advance 0, .advance 0,
        .proceed 0 1, .proceed 0 1, .proceed 0 1, .advance 0]
    let ending : List Attended.Event :=
      [.other (.act 0 .heartbeat), .other (.act 0 .statusSync), task, task, .proceed 0 0]
    let again : List Attended.Event :=
      [.shutdown, .advance 1, .advance 1, .advance 1, .advance 1,
        .proceed 0 2, .proceed 0 2, .proceed 0 2, .advance 1]
    ∃ f, create config (.create (.empty 0) ⟨0, 0⟩) = .ok f ∧
      (f.attend first).shutdowns = [.reported ⟨[], [node]⟩] ∧
      (f.attend (first ++ ending)).calls 0 =
        [.returned (some 0) 0 ⟨node, true, .stopped⟩,
          .returned none 0 ⟨node, false, .terminating⟩] ∧
      ((f.attend (first ++ ending)).members.map fun member => member.agent.state) = [.stopped] ∧
      (f.attend (first ++ ending ++ again)).shutdowns =
        [.reported ⟨[], [node]⟩, .reported ⟨[node], []⟩] := by
  intro config node task first ending again
  have hchecked : (create config (.create (.empty 0) ⟨0, 0⟩)).toOption.any (fun f =>
      decide ((f.attend first).shutdowns = [.reported ⟨[], [node]⟩]) &&
        decide ((f.attend (first ++ ending)).calls 0 =
          [.returned (some 0) 0 ⟨node, true, .stopped⟩,
            .returned none 0 ⟨node, false, .terminating⟩]) &&
        decide (((f.attend (first ++ ending)).members.map fun member => member.agent.state) =
          [.stopped]) &&
        decide ((f.attend (first ++ ending ++ again)).shutdowns =
          [.reported ⟨[], [node]⟩, .reported ⟨[node], []⟩])) = true := by
    decide +kernel
  obtain ⟨f, hcreate, hfleet⟩ := exists_create_of_any hchecked
  simp only [Bool.and_eq_true, decide_eq_true_eq] at hfleet
  obtain ⟨⟨⟨hfirst, hcalls⟩, hstates⟩, hagain⟩ := hfleet
  exact ⟨f, hcreate, hfirst, hcalls, hstates, hagain⟩

end NodeFleet.Fleet
