import NodeFleet.Proofs.Cohort.Schedule
import NodeFleet.Proofs.Fleet.Reports

/-!
# Shutdowns on schedule

Whatever other calls there are, a shutdown can come to its end from where it is called, and
`Fleet.shutdown` is one run of it.  It ends the launch, lets each of its stop calls in turn take its
first three steps, follows the schedule until no call waits, and reports.

`Attended.Reaches` says that there is such a run.  It is put together from the steps of the
launcher (`reaches_stopping`), of one stop call (`reaches_beginStop`) and of the schedule
(`Kept.reaches_performAt`); `Kept.reaches_shutdown` is the whole.
-/

namespace NodeFleet

/-- A filter that keeps everything. -/
theorem map_some_filterMap {α β : Type} {f : α → Option β} {values : List α}
    (h : ∀ value ∈ values, (f value).isSome = true) :
    (values.filterMap f).map some = values.map f := by
  induction values with
  | nil => rfl
  | cons value values ih =>
      obtain ⟨hvalue, hvalues⟩ := List.forall_mem_cons.1 h
      obtain ⟨result, hresult⟩ := Option.isSome_iff_exists.1 hvalue
      rw [List.filterMap_cons_some hresult, List.map_cons, List.map_cons, ih hvalues, hresult]

namespace Fleet.Attended

open Agent (StopCall StopPhase StopOutcome)

/-- Whether an event belongs to the calls that were made or to the work that they wait for. -/
def Event.IsOwn : Event → Prop
  | .other .launch => True
  | .other (.act _ _) => True
  | .other (.wait _) => True
  | .proceed _ _ => True
  | .advance _ => True
  | _ => False

/-- Whether such events lead from one point to another. -/
def Reaches (x y : Attended) : Prop :=
  ∃ events : List Event, (∀ event ∈ events, event.IsOwn) ∧ events.foldl happen x = y

variable {x y z : Attended} {position : Nat} {member : Member}

theorem Reaches.refl (x : Attended) : x.Reaches x := ⟨[], nofun, rfl⟩

theorem Reaches.trans (h : x.Reaches y) (hnext : y.Reaches z) : x.Reaches z := by
  obtain ⟨first, hfirst, rfl⟩ := h
  obtain ⟨rest, hrest, rfl⟩ := hnext
  refine ⟨first ++ rest, fun event hevent => ?_, List.foldl_append⟩
  exact (List.mem_append.1 hevent).elim (hfirst event) (hrest event)

theorem reaches_happen (event : Event) (hown : event.IsOwn) : x.Reaches (x.happen event) :=
  ⟨[event], fun _ hmem => List.mem_singleton.1 hmem ▸ hown, rfl⟩

theorem Kept.reaches (h : x.Kept) (hreach : x.Reaches y) : y.Kept := by
  obtain ⟨events, -, rfl⟩ := hreach
  exact h.run events

/-- What is done for one number after the other. -/
theorem exists_reaches_of_lt {P : Nat → Attended → Prop} {count : Nat}
    (hstep : ∀ number < count, ∀ y, x.Reaches y → P number y → ∃ z, y.Reaches z ∧ P (number + 1) z)
    (hfirst : P 0 x) : ∃ y, x.Reaches y ∧ P count y := by
  induction count with
  | zero => exact ⟨x, .refl x, hfirst⟩
  | succ count ih =>
      obtain ⟨y, hreach, hy⟩ := ih fun number hlt => hstep number (Nat.lt_succ_of_lt hlt)
      obtain ⟨z, hnext, hz⟩ := hstep count (Nat.lt_succ_self count) y hreach hy
      exact ⟨z, hreach.trans hnext, hz⟩

/-! ## The end of the launch -/

/-- A fleet with one shutdown more, which has come to a stage. -/
def joined (x : Attended) (stage : ShutdownStage) : Attended :=
  { x with shutdowns := x.shutdowns ++ [stage] }

theorem getElem?_joined (x : Attended) (stage : ShutdownStage) :
    (x.joined stage).shutdowns[x.shutdowns.length]? = some stage :=
  List.getElem?_concat_length

theorem set_joined (x : Attended) (stage next : ShutdownStage) :
    (x.joined stage).shutdowns.set x.shutdowns.length next = x.shutdowns ++ [next] := by
  simp [joined]

/-- A fleet in which every agent is called to stop. -/
def summoned (x : Attended) : Attended :=
  { x with calls := fun position =>
      if position < x.members.length then x.calls position ++ [.called] else x.calls position }

/-! ### The steps of the last shutdown -/

theorem advance_called (x : Attended) :
    (x.joined .called).happen (.advance x.shutdowns.length) =
      { x with fleet := { x.fleet with
        cohort := { x.fleet.cohort with launchCancelled := true } } }.joined .cancelled := by
  simp only [happen, advance, getElem?_joined, set_joined]
  rfl

theorem advance_cancelled (hfree : (x.fleet.holdsLauncher && x.fleet.cohort.isLaunching) = false) :
    (x.joined .cancelled).happen (.advance x.shutdowns.length) =
      { x with fleet := { x.fleet with holdsLauncher := false } }.joined .released := by
  have hstill : ((x.joined .cancelled).fleet.holdsLauncher &&
      (x.joined .cancelled).fleet.cohort.isLaunching) = false := hfree
  simp only [happen, advance, getElem?_joined, set_joined, hstill, Bool.false_eq_true, if_false]
  rfl

theorem advance_released (x : Attended) :
    (x.joined .released).happen (.advance x.shutdowns.length) =
      { x with fleet := { x.fleet with cohort := { x.fleet.cohort with
        site := { x.fleet.site with
          telemetry := x.fleet.site.telemetry.setReady false } } } }.joined .cleared := by
  simp only [happen, advance, getElem?_joined, set_joined]
  rfl

theorem advance_cleared (x : Attended) :
    (x.joined .cleared).happen (.advance x.shutdowns.length) =
      x.summoned.joined (.stopping x.newCalls) := by
  simp only [happen, advance, getElem?_joined, set_joined]
  rfl

theorem advance_stopping {own : List (Nat × Nat)} {outcomes : List StopOutcome}
    {report : ShutdownReport} (houtcomes : x.outcomes? own = some outcomes)
    (hreport : ShutdownReport.ofOutcomes x.names outcomes = report) :
    (x.joined (.stopping own)).happen (.advance x.shutdowns.length) =
      { x with fleet := { x.fleet with cohort := { x.fleet.cohort with
        site := x.fleet.site.note (.fleetStopped report.stopped.length report.failed) } } }.joined
          (.reported report) := by
  have hstill : (x.joined (.stopping own)).outcomes? own = some outcomes := houtcomes
  simp only [happen, advance, getElem?_joined, set_joined, hstill, ← hreport]
  rfl

/-- A launch that was cancelled is over after one step of the launcher at most. -/
theorem reaches_launchOver (hcancelled : x.fleet.cohort.launchCancelled = true) :
    let c : Cohort := if x.fleet.holdsLauncher then x.fleet.cohort.endLaunch else x.fleet.cohort
    (x.fleet.holdsLauncher && c.isLaunching) = false ∧
      x.Reaches { x with fleet := { x.fleet with cohort := c } } := by
  obtain ⟨hended, hidle, hdue⟩ := Cohort.endLaunch_eq hcancelled
  cases hholds : x.fleet.holdsLauncher with
  | false => exact ⟨rfl, .refl x⟩
  | true =>
      refine ⟨hidle, ?_⟩
      simp only [if_true]
      rw [hended]
      by_cases hlaunching : x.fleet.cohort.isLaunching = true
      · rw [if_pos hlaunching]
        have hready : x.fleet.isDue .launch = true := by
          show (x.fleet.cohort.launchDue?).any (· ≤ x.fleet.site.now) = true
          rw [hdue hlaunching]
          exact decide_eq_true (Nat.zero_le x.fleet.site.now)
        have hmove : x.fleet.move .launch =
            { x.fleet with cohort := x.fleet.cohort.perform .launch } := by
          simp only [move, hready, if_true]
        have hstep : x.happen (.other .launch) =
            { x with fleet := { x.fleet with cohort := x.fleet.cohort.perform .launch } } := by
          rw [← hmove]
          rfl
        exact hstep ▸ reaches_happen (.other .launch) trivial
      · rw [if_neg hlaunching]
        exact .refl x

/-- A shutdown that begins waits for the launcher, and then calls for every agent to stop. -/
theorem reaches_stopping (x : Attended) :
    let closed : Attended := { x with fleet := x.fleet.endLaunch }
    (x.joined .called).Reaches (closed.summoned.joined (.stopping closed.newCalls)) := by
  intro closed
  let caller := x.shutdowns.length
  let cancelled : Attended :=
    { x with fleet := { x.fleet with cohort := { x.fleet.cohort with launchCancelled := true } } }
  obtain ⟨hfree, hended⟩ := reaches_launchOver (x := cancelled.joined .cancelled) rfl
  let ended : Attended := { x with fleet := { x.fleet with
    cohort := if x.fleet.holdsLauncher then cancelled.fleet.cohort.endLaunch
      else cancelled.fleet.cohort } }
  let released : Attended := { ended with fleet := { ended.fleet with holdsLauncher := false } }
  have hcancel : (x.joined .called).happen (.advance caller) = cancelled.joined .cancelled :=
    advance_called x
  have hrelease : (ended.joined .cancelled).happen (.advance caller) = released.joined .released :=
    advance_cancelled (x := ended) hfree
  have hclear : (released.joined .released).happen (.advance caller) = closed.joined .cleared :=
    advance_released released
  have hsummon : (closed.joined .cleared).happen (.advance caller) =
      closed.summoned.joined (.stopping closed.newCalls) := advance_cleared closed
  have hfirst := reaches_happen (x := x.joined .called) (.advance caller) trivial
  have hsecond := reaches_happen (x := ended.joined .cancelled) (.advance caller) trivial
  have hthird := reaches_happen (x := released.joined .released) (.advance caller) trivial
  have hfourth := reaches_happen (x := closed.joined .cleared) (.advance caller) trivial
  rw [hcancel] at hfirst
  rw [hrelease] at hsecond
  rw [hclear] at hthird
  rw [hsummon] at hfourth
  exact (((hfirst.trans hended).trans hsecond).trans hthird).trans hfourth

/-! ## One stop call -/

theorem put_tended (hmember : x.members[position]? = some member) :
    x.put position (x.tended position member) = x := by
  have hcalls : Function.update x.calls position (x.calls position) = x.calls :=
    Function.update_eq_self position x.calls
  simp only [put, tended, setAgent_self hmember, hcalls]

theorem put_put (hmember : x.members[position]? = some member) (y z : Agent.Attended) :
    (x.put position y).put position z = x.put position z := by
  have hlt : position < x.members.length := (List.getElem?_eq_some_iff.1 hmember).1
  have hfound : (x.fleet.cohort.setAgent position y.agent y.site).members[position]? =
      some { member with agent := y.agent } := by
    rw [Cohort.setAgent_eq hmember]
    exact List.getElem?_set_self hlt
  have hcohort : (x.fleet.cohort.setAgent position y.agent y.site).setAgent position z.agent
      z.site = x.fleet.cohort.setAgent position z.agent z.site := by
    rw [Cohort.setAgent_eq hfound, Cohort.setAgent_eq hmember, Cohort.setAgent_eq hmember]
    simp only [List.set_set]
  simp only [put, Fleet.setAgent, hcohort, Function.update_idem]

/-- A step of a stop call, at any point of its agent. -/
theorem reaches_proceed (hmember : x.members[position]? = some member) (y : Agent.Attended)
    (hhistory : y.history = []) (caller : Nat) :
    (x.put position y).Reaches (x.put position (y.proceed caller)) := by
  have hlt : position < x.members.length := (List.getElem?_eq_some_iff.1 hmember).1
  have hfound : (x.put position y).fleet.cohort.members[position]? =
      some { member with agent := y.agent } := by
    show (x.fleet.cohort.setAgent position y.agent y.site).members[position]? = _
    rw [Cohort.setAgent_eq hmember]
    exact List.getElem?_set_self hlt
  have htended : (x.put position y).tended position { member with agent := y.agent } = y := by
    have hcalls : Function.update x.calls position y.calls position = y.calls :=
      Function.update_self ..
    simp only [tended, put, hcalls, ← hhistory]
    rfl
  have hstep : (x.put position y).happen (.proceed position caller) =
      x.put position (y.proceed caller) := by
    simp only [happen, hfound]
    show (x.put position y).put position (((x.put position y).tended position
      { member with agent := y.agent }).proceed caller) = _
    rw [put_put hmember, htended]
  exact hstep ▸ reaches_happen (.proceed position caller) trivial

/-- Three steps of a stop call are what `Agent.stop` does. -/
theorem reaches_beginStop {caller : Nat} (hmember : x.members[position]? = some member)
    (hcall : (x.calls position)[caller]? = some .called) :
    let stopped := member.agent.stop x.fleet.site
    let phase : StopPhase := match stopped.1 with
      | .pending => .waiting x.fleet.site.now
      | .answered outcome => .returned none x.fleet.site.now outcome
    x.Reaches { x with
      fleet := x.fleet.setAgent position stopped.2.1 stopped.2.2
      calls := Function.update x.calls position ((x.calls position).set caller phase) } := by
  intro stopped phase
  let y := x.tended position member
  have hthird : ((y.proceed caller).proceed caller).proceed caller =
      { y with
        agent := stopped.2.1
        site := stopped.2.2
        calls := (x.calls position).set caller phase } :=
    Agent.Attended.proceed_uninterrupted hcall
  have htold := reaches_proceed hmember y rfl caller
  have hfirst : (y.proceed caller).history = [] := (y.proceed_frame caller).1
  have hsecond : ((y.proceed caller).proceed caller).history = [] :=
    ((y.proceed caller).proceed_frame caller).1.trans hfirst
  have hcancelled := reaches_proceed hmember _ hfirst caller
  have htook := reaches_proceed hmember _ hsecond caller
  rw [put_tended hmember] at htold
  rw [hthird] at htook
  exact (htold.trans hcancelled).trans htook

/-! ## The schedule -/

/-- Whether the stop calls are as they were, but that some that waited have returned. -/
def IsWoken (x y : Attended) : Prop :=
  ∀ position caller : Nat, (y.calls position)[caller]? = (x.calls position)[caller]? ∨
    ∃ since now outcome, (x.calls position)[caller]? = some (.waiting since) ∧
      (y.calls position)[caller]? = some (.returned (some since) now outcome)

theorem isWoken_of_returned {caller : Nat} {since now : Instant} {outcome : StopOutcome}
    (hcall : (x.calls position)[caller]? = some (.waiting since))
    (hcalls : y.calls = Function.update x.calls position ((x.calls position).set caller
      (.returned (some since) now outcome))) : x.IsWoken y := by
  intro place number
  rw [hcalls]
  by_cases hplace : place = position
  · subst hplace
    rw [Function.update_self]
    by_cases hnumber : caller = number
    · subst hnumber
      have hlt := (List.getElem?_eq_some_iff.1 hcall).1
      exact .inr ⟨since, now, outcome, hcall, List.getElem?_set_self hlt⟩
    · exact .inl (List.getElem?_set_ne hnumber)
  · rw [Function.update_of_ne hplace]
    exact .inl rfl

/-- When the stopper is due, the call that waits for the agent takes its last step. -/
theorem Kept.happen_proceed_stopper (h : x.Kept) (hmember : x.members[position]? = some member)
    {due : Instant} (hdue : member.agent.due? .stopper = some due)
    (hready : due ≤ x.fleet.site.now) :
    ∃ (caller : Nat) (since : Instant) (outcome : StopOutcome),
      (x.calls position)[caller]? = some (.waiting since) ∧
      x.happen (.proceed position caller) = { x with
        fleet := x.fleet.setAgent position (member.agent.act .stopper x.fleet.site).1 x.fleet.site
        calls := Function.update x.calls position ((x.calls position).set caller
          (.returned (some since) x.fleet.site.now outcome)) } := by
  obtain ⟨deadline, hhandle⟩ : ∃ deadline, member.agent.handle = .awaited deadline := by
    cases hhandle : member.agent.handle with
    | awaited deadline => exact ⟨deadline, rfl⟩
    | _ => simp [Agent.due?, hhandle] at hdue
  obtain ⟨since, hmem⟩ := (h.agents position member hmember).awaited deadline hhandle
  obtain ⟨caller, hcall⟩ := List.mem_iff_getElem?.1 hmem
  have hawake : (x.tended position member).isAwake = true := by
    show (member.agent.due? .stopper).any (· ≤ x.fleet.site.now) = true
    rw [hdue]
    exact decide_eq_true hready
  obtain ⟨outcome, -, hwake⟩ := (x.tended position member).wake_eq caller since
  have hproceed : (x.tended position member).proceed caller =
      (x.tended position member).wake caller since := by
    simp only [Agent.Attended.proceed, hcall, hawake, if_true]
  refine ⟨caller, since, outcome, hcall, ?_⟩
  have hfound : x.fleet.cohort.members[position]? = some member := hmember
  simp only [Attended.happen, hfound]
  show x.put position ((x.tended position member).proceed caller) = _
  rw [hproceed, hwake]
  rfl

/-- What the next event of the schedule does to the agents, an event of the calls does as well. -/
theorem Kept.reaches_performAt (h : x.Kept) {time : Instant} {event : Cohort.Event}
    (hnext : x.fleet.cohort.nextEvent? = some (time, event)) :
    ∃ y, x.Reaches y ∧
      y.fleet = { x.fleet with cohort := x.fleet.cohort.performAt time event } ∧
      y.shutdowns = x.shutdowns ∧ x.IsWoken y := by
  obtain ⟨⟨due, hdue, htime⟩, -⟩ := Cohort.nextEvent?_eq_some hnext
  let later : Attended := x.happen (.other (.wait time))
  have hwait : x.Reaches later := reaches_happen (.other (.wait time)) trivial
  have hlate : due ≤ max x.fleet.cohort.site.now time := by
    rw [htime]
    lia
  have hready : later.fleet.isDue event = true := by
    have hsame : later.fleet.cohort.due? event = some due := by
      cases event <;> exact hdue
    show (later.fleet.cohort.due? event).any (· ≤ max x.fleet.cohort.site.now time) = true
    rw [hsame]
    exact decide_eq_true hlate
  cases event with
  | launch =>
      have hmove : later.fleet.move .launch =
          { x.fleet with cohort := x.fleet.cohort.performAt time .launch } := by
        simp only [move, hready, if_true]
        rfl
      exact ⟨later.happen (.other .launch), hwait.trans (reaches_happen (.other .launch) trivial),
        hmove, rfl, fun _ _ => .inl rfl⟩
  | agent position actor =>
      by_cases hactor : actor = .stopper
      · subst hactor
        obtain ⟨member, hmember, hawaited⟩ := Option.bind_eq_some_iff.1 hdue
        obtain ⟨caller, since, outcome, hcall, hstep⟩ :=
          (h.reaches hwait).happen_proceed_stopper (x := later) hmember hawaited hlate
        refine ⟨later.happen (.proceed position caller),
          hwait.trans (reaches_happen (.proceed position caller) trivial), ?_⟩
        rw [hstep]
        refine ⟨?_, rfl, isWoken_of_returned hcall rfl⟩
        have hfound : (x.fleet.cohort.advanceTo time).members[position]? = some member := hmember
        simp only [Cohort.performAt, Cohort.perform, hfound]
        rfl
      · have hmove : later.fleet.move (.act position actor) =
            { x.fleet with
              cohort := x.fleet.cohort.performAt time (.agent position actor) } := by
          simp only [move, hactor, hready, ne_eq, not_false_eq_true, and_self, if_true]
          rfl
        exact ⟨later.happen (.other (.act position actor)),
          hwait.trans (reaches_happen (.other (.act position actor)) trivial), hmove, rfl,
          fun _ _ => .inl rfl⟩

/-! ## All stop calls -/

/-- Whether a stop call of the schedule and one in steps have come equally far. -/
def Agrees : StopCall → Option StopPhase → Prop
  | .answered outcome, some (.returned none _ later) => later = outcome
  | .pending, some (.waiting _) => True
  | .pending, some (.returned (some _) _ _) => True
  | _, _ => False

theorem Agrees.of_waiting {call : StopCall} {since told now : Instant} {outcome : StopOutcome}
    (h : Agrees call (some (.waiting since))) :
    Agrees call (some (.returned (some told) now outcome)) := by
  cases call with
  | pending => trivial
  | answered outcome => exact h.elim

/-- What stands when the schedule, which began at one point, has come to a cohort and has made some
stop calls; `number` has the numbers of the calls. -/
structure Made (x : Attended) (number : Nat → Nat) (calls : List (Nat × StopCall)) (c : Cohort)
    (y : Attended) : Prop where
  fleet_eq : y.fleet = { x.fleet with cohort := c }
  shutdowns_eq : y.shutdowns = x.shutdowns
  length_eq : c.members.length = x.members.length
  agrees : ∀ entry ∈ calls, Agrees entry.2 (y.calls entry.1)[number entry.1]?

/-- One agent is told to end after others. -/
def beginNext (begun : List (Nat × StopCall) × Cohort) (position : Nat) :
    List (Nat × StopCall) × Cohort :=
  match begun.2.members[position]? with
  | some member =>
      let (call, c) := begun.2.beginStop position member.agent
      (begun.1 ++ [(position, call)], c)
  | none => begun

theorem pending_of_held {a : Agent} (hhandle : a.handle = .held) (site : Site) :
    (a.stop site).1 = .pending := by
  have hmoved : (a.move .terminating site).1.handle = .held := hhandle
  simp only [Agent.stop, hmoved]

/-- What stands when the first agents have been told to end. -/
structure Begun (x : Attended) (number : Nat → Nat) (count : Nat)
    (begun : List (Nat × StopCall) × Cohort) (y : Attended) : Prop where
  made : x.Made number begun.1 begun.2 y
  positions : begun.1.map Prod.fst = List.range count
  /-- Who finds the task waits for it. -/
  pending : ∀ entry ∈ begun.1, ∀ member, x.members[entry.1]? = some member →
    member.agent.handle = .held → entry.2 = .pending
  calls_eq : ∀ position, count ≤ position → y.calls position = x.calls position
  members_eq : ∀ position, count ≤ position → begun.2.members[position]? = x.members[position]?

/-- The next agent is told to end, in the three steps of its call. -/
theorem Begun.next {number : Nat → Nat} {count : Nat} {begun : List (Nat × StopCall) × Cohort}
    (h : x.Begun number count begun y) (hlt : count < x.members.length)
    (hcall : (x.calls count)[number count]? = some .called) :
    ∃ z, y.Reaches z ∧ x.Begun number (count + 1) (beginNext begun count) z := by
  obtain ⟨calls, c⟩ := begun
  obtain ⟨member, hmember⟩ : ∃ member, c.members[count]? = some member :=
    ⟨_, List.getElem?_eq_getElem (h.made.length_eq.symm ▸ hlt)⟩
  have hfound : y.members[count]? = some member := by
    rw [members, h.made.fleet_eq]
    exact hmember
  have hsite : y.fleet.site = c.site := by
    rw [h.made.fleet_eq]
    rfl
  rw [← h.calls_eq count (Nat.le_refl count)] at hcall
  have hreach := reaches_beginStop hfound hcall
  rw [hsite] at hreach
  refine ⟨_, hreach, ?_⟩
  simp only [beginNext, hmember]
  refine ⟨⟨?_, h.made.shutdowns_eq, ?_, fun entry hentry => ?_⟩, ?_, fun entry hentry => ?_,
    fun position hposition => ?_, fun position hposition => ?_⟩
  · show y.fleet.setAgent count _ _ = _
    rw [h.made.fleet_eq]
    rfl
  · show (c.setAgent count _ _).members.length = _
    rw [Cohort.setAgent_eq hmember, ← h.made.length_eq]
    exact List.length_set
  · show Agrees entry.2 (Function.update y.calls count _ entry.1)[number entry.1]?
    rcases List.mem_append.1 hentry with hold | hnew
    · have hbelow : entry.1 < count :=
        List.mem_range.1 (h.positions ▸ List.mem_map_of_mem hold)
      rw [Function.update_of_ne (Nat.ne_of_lt hbelow)]
      exact h.made.agrees entry hold
    · obtain rfl := List.mem_singleton.1 hnew
      have hmade := (List.getElem?_eq_some_iff.1 hcall).1
      rw [Function.update_self, List.getElem?_set_self hmade]
      show Agrees (member.agent.stop c.site).1 _
      cases (member.agent.stop c.site).1 with
      | pending => trivial
      | answered outcome => rfl
  · rw [List.map_append, List.range_succ]
    exact congrArg (· ++ [count]) h.positions
  · rcases List.mem_append.1 hentry with hold | hnew
    · exact h.pending entry hold
    · obtain rfl := List.mem_singleton.1 hnew
      intro other hother hhandle
      rw [← h.members_eq count (Nat.le_refl count)] at hother
      obtain rfl := Option.some.inj (hmember.symm.trans hother)
      exact pending_of_held hhandle c.site
  · show Function.update y.calls count _ position = _
    rw [Function.update_of_ne (by omega)]
    exact h.calls_eq position (Nat.le_of_succ_le hposition)
  · show (c.setAgent count _ _).members[position]? = _
    rw [Cohort.setAgent_eq hmember, ← h.members_eq position (Nat.le_of_succ_le hposition)]
    exact List.getElem?_set_ne (by omega)

/-- All agents are told to end, one after the other. -/
theorem reaches_beginStops {number : Nat → Nat}
    (hcalls : ∀ position < x.members.length, (x.calls position)[number position]? = some .called) :
    ∃ y, x.Reaches y ∧ x.Begun number x.members.length x.fleet.cohort.beginStops y := by
  let begun (count : Nat) := (List.range count).foldl beginNext ([], x.fleet.cohort)
  have hfirst : x.Begun number 0 (begun 0) x :=
    ⟨⟨rfl, rfl, rfl, nofun⟩, rfl, nofun, fun _ _ => rfl, fun _ _ => rfl⟩
  have hstep : ∀ count < x.members.length, ∀ y, x.Reaches y → x.Begun number count (begun count) y →
      ∃ z, y.Reaches z ∧ x.Begun number (count + 1) (begun (count + 1)) z := by
    intro count hlt y _ hbegun
    have hlast : begun (count + 1) = beginNext (begun count) count := by
      simp only [begun, List.range_succ, List.foldl_append, List.foldl_cons, List.foldl_nil]
    rw [hlast]
    exact hbegun.next hlt (hcalls count hlt)
  exact exists_reaches_of_lt hstep hfirst

theorem exists_call_of_lt {calls : List (Nat × StopCall)} {count : Nat}
    (hpositions : calls.map Prod.fst = List.range count) (hlt : position < count) :
    ∃ call, (position, call) ∈ calls := by
  have hmem : position ∈ calls.map Prod.fst := by
    rw [hpositions]
    exact List.mem_range.2 hlt
  obtain ⟨entry, hentry, rfl⟩ := List.mem_map.1 hmem
  exact ⟨entry.2, hentry⟩

/-- The next event of the schedule keeps step with the calls. -/
theorem Made.performAt {number : Nat → Nat} {calls : List (Nat × StopCall)} {c : Cohort}
    (h : x.Made number calls c y) (hy : y.Kept) (hending : c.IsEnding) {time : Instant}
    {event : Cohort.Event} (hnext : c.nextEvent? = some (time, event)) :
    ∃ z, y.Reaches z ∧ x.Made number calls (c.performAt time event) z := by
  have hcohort : y.fleet.cohort = c := by rw [h.fleet_eq]
  obtain ⟨-, hindexes, -⟩ := hending.performAt hnext
  obtain ⟨z, hreach, hfleet, hshutdowns, hwoken⟩ := hy.reaches_performAt (hcohort ▸ hnext)
  refine ⟨z, hreach, ?_, hshutdowns.trans h.shutdowns_eq, ?_, fun entry hentry => ?_⟩
  · rw [hfleet, h.fleet_eq]
  · have hlength := congrArg List.length hindexes
    rw [List.length_map, List.length_map] at hlength
    exact hlength.trans h.length_eq
  · have hagrees := h.agrees entry hentry
    rcases hwoken entry.1 (number entry.1) with hsame | ⟨since, now, outcome, hwaited, hreturned⟩
    · rw [hsame]
      exact hagrees
    · rw [hreturned]
      exact (hwaited ▸ hagrees).of_waiting

/-- The schedule follows the stop calls that wait until there are none. -/
theorem Kept.reaches_awaitStops (h : x.Kept) {number : Nat → Nat} {calls : List (Nat × StopCall)}
    (hmade : x.Made number calls x.fleet.cohort x) (hending : x.fleet.cohort.IsEnding) :
    ∃ y, x.Reaches y ∧ x.Made number calls x.fleet.cohort.awaitStops y ∧
      x.fleet.cohort.awaitStops.isStopping = false := by
  let HasCome (c : Cohort) : Prop := c.IsEnding ∧ ∃ y, x.Reaches y ∧ x.Made number calls c y
  have hstep : ∀ c, HasCome c → c.isStopping = true →
      ∃ time event, c.nextEvent? = some (time, event) ∧ HasCome (c.performAt time event) ∧
        (c.performAt time event).remaining < c.remaining := by
    rintro c ⟨hending, y, hreach, hmade⟩ hstopping
    obtain ⟨position, actor, due, hdue⟩ := Cohort.exists_awaited hstopping
    obtain ⟨time, event, hnext⟩ := Cohort.exists_nextEvent? hdue
    obtain ⟨hlater, -, hless⟩ := hending.performAt hnext
    obtain ⟨z, hreached, hmade⟩ := hmade.performAt (h.reaches hreach) hending hnext
    exact ⟨time, event, hnext, ⟨hlater, z, hreach.trans hreached, hmade⟩, hless⟩
  obtain ⟨⟨-, y, hreach, hawaited⟩, hdone⟩ := Cohort.runWhile_ends HasCome Cohort.remaining hstep
    ⟨hending, x, .refl x, hmade⟩ (x.fleet.cohort.remaining_le_fuelFor x.fleet.cohort.stopTime)
  exact ⟨y, hreach, hawaited, hdone⟩

/-- A call of the schedule has told the agent to end, and has looked for the task. -/
theorem Agrees.exists_phase {call : StopCall} {phase : Option StopPhase} (h : Agrees call phase) :
    ∃ place, phase = some place ∧ place.hasCancelled = true ∧ place.hasLooked = true := by
  unfold Agrees at h
  split at h
  · exact ⟨_, rfl, rfl, rfl⟩
  · exact ⟨_, rfl, rfl, rfl⟩
  · exact ⟨_, rfl, rfl, rfl⟩
  · exact h.elim

/-- When every agent has been told to end and the launcher is gone, things only end. -/
theorem Kept.isEnding (h : x.Kept) (hreleased : x.fleet.holdsLauncher = false)
    {number : Nat → Nat} {calls : List (Nat × StopCall)}
    (hpositions : calls.map Prod.fst = List.range x.members.length)
    (hagrees : ∀ entry ∈ calls, Agrees entry.2 (x.calls entry.1)[number entry.1]?) :
    x.fleet.cohort.IsEnding := by
  constructor
  · have hidle : x.fleet.cohort.isLaunching = false := h.inOrder.launches.released hreleased
    unfold Cohort.isLaunching at hidle
    unfold Cohort.launchDue?
    cases hlauncher : x.fleet.cohort.launcher with
    | none => rfl
    | some launcher =>
        have hdone : launcher.isDone = true := by simpa [hlauncher] using hidle
        simp only [hdone, if_true]
  · intro member hmember
    obtain ⟨position, hposition⟩ := List.mem_iff_getElem?.1 hmember
    have hlt := (List.getElem?_eq_some_iff.1 hposition).1
    obtain ⟨call, hcall⟩ := exists_call_of_lt hpositions hlt
    obtain ⟨phase, hphase, hcancelled, -⟩ := (hagrees _ hcall).exists_phase
    exact (h.agents position member hposition).cancelled phase (List.mem_of_getElem? hphase)
      hcancelled

/-- Where no call waits, a task that was taken is released. -/
theorem exists_released (hidle : x.fleet.cohort.isStopping = false) (hmember : member ∈ x.members)
    (hheld : member.agent.handle ≠ .held) : ∃ clean, member.agent.handle = .released clean := by
  cases hhandle : member.agent.handle with
  | held => exact absurd hhandle hheld
  | awaited deadline =>
      have hall := List.any_eq_false.1 hidle member hmember
      exact absurd (by simp only [Cohort.isAwaited, hhandle]) hall
  | released clean => exact ⟨clean, rfl⟩

/-- A call of the schedule that does not wait any more has the outcome of the one in steps, and one
that has waited returned then. -/
theorem Kept.outcomeAt_eq (h : x.Kept) (hidle : x.fleet.cohort.isStopping = false)
    (hmember : x.members[position]? = some member) {caller : Nat} {call : StopCall}
    (hagrees : Agrees call (x.calls position)[caller]?) :
    x.outcomeAt (position, caller) = some (Cohort.outcomeOf member.agent call) ∧
      (call = .pending → ∃ since now outcome,
        (x.calls position)[caller]? = some (.returned (some since) now outcome)) := by
  have hkept := h.agents position member hmember
  generalize hphase : (x.calls position)[caller]? = phase at hagrees
  unfold Agrees at hagrees
  split at hagrees
  · subst hagrees
    exact ⟨outcomeAt_eq_some_iff.2 ⟨_, _, hphase⟩, nofun⟩
  · have hmem := List.mem_of_getElem? hphase
    have hawaited := hkept.orderly.promises _ hmem
    obtain ⟨clean, hclean⟩ := exists_released hidle (List.mem_of_getElem? hmember)
      (hkept.looked _ hmem rfl)
    exact nomatch hclean.symm.trans hawaited
  · rename_i since time outcome
    have hmem := List.mem_of_getElem? hphase
    obtain ⟨htold, -⟩ := hkept.said _ time outcome hmem
    obtain ⟨-, houtcome⟩ := htold.resolve_right fun hnone => nomatch hnone.1
    obtain ⟨clean, hclean⟩ := exists_released hidle (List.mem_of_getElem? hmember)
      (hkept.looked _ hmem rfl)
    have hanswer : member.agent.outcome? = some member.agent.answer := hkept.outcome?_eq hclean
    rw [Cohort.outcomeOf, hanswer]
    exact ⟨outcomeAt_eq_some_iff.2 ⟨_, _, houtcome ▸ hphase⟩, fun _ => ⟨_, _, _, rfl⟩⟩
  · exact hagrees.elim

/-- Where no call waits, the calls of a shutdown have the outcomes of the schedule. -/
theorem Kept.outcomes?_eq (hy : y.Kept) (hidle : y.fleet.cohort.isStopping = false)
    {number : Nat → Nat} {calls : List (Nat × StopCall)} {c : Cohort}
    (hmade : x.Made number calls c y)
    (hpositions : calls.map Prod.fst = List.range y.members.length) :
    y.outcomes? ((List.range y.members.length).map fun position => (position, number position)) =
      some (calls.filterMap fun entry =>
        y.members[entry.1]?.map fun member => Cohort.outcomeOf member.agent entry.2) := by
  let outcomeFor (entry : Nat × StopCall) : Option StopOutcome :=
    y.members[entry.1]?.map fun member => Cohort.outcomeOf member.agent entry.2
  have hfound : ∀ entry ∈ calls, outcomeFor entry = y.outcomeAt (entry.1, number entry.1) ∧
      (outcomeFor entry).isSome = true := by
    intro entry hentry
    have hlt : entry.1 < y.members.length := by
      rw [← List.mem_range, ← hpositions]
      exact List.mem_map_of_mem hentry
    have hmember := List.getElem?_eq_getElem hlt
    obtain ⟨houtcome, -⟩ := hy.outcomeAt_eq hidle hmember (hmade.agrees entry hentry)
    simp only [outcomeFor, hmember]
    exact ⟨houtcome.symm, rfl⟩
  rw [outcomes?_eq_some_iff, ← hpositions, List.map_map, List.map_map]
  calc
    _ = calls.map outcomeFor := List.map_congr_left fun entry hentry => (hfound entry hentry).1.symm
    _ = (calls.filterMap outcomeFor).map some :=
      (map_some_filterMap fun entry hentry => (hfound entry hentry).2).symm

/-- To stop all agents on schedule leaves the calls of a shutdown with the outcomes of the schedule,
and all tasks done. -/
theorem Kept.reaches_stopAll (h : x.Kept) (hreleased : x.fleet.holdsLauncher = false)
    {number : Nat → Nat}
    (hcalls : ∀ position < x.members.length, (x.calls position)[number position]? = some .called) :
    ∃ y, x.Reaches y ∧ y.fleet = { x.fleet with cohort := x.fleet.cohort.stopAll.2 } ∧
      y.shutdowns = x.shutdowns ∧
      y.outcomes? ((List.range x.members.length).map fun position => (position, number position)) =
        some x.fleet.cohort.stopAll.1 ∧
      (∀ member ∈ y.members, member.agent.IsDone) ∧
      ∀ (position : Nat) member, x.members[position]? = some member →
        member.agent.handle = .held → ∃ since now outcome,
          (y.calls position)[number position]? = some (.returned (some since) now outcome) := by
  obtain ⟨y, hreach, ⟨hbegun, hpositions, hpending, -, -⟩⟩ := reaches_beginStops hcalls
  have hy := h.reaches hreach
  have hcohort : y.fleet.cohort = x.fleet.cohort.beginStops.2 := by rw [hbegun.fleet_eq]
  have hlength : y.members.length = x.members.length := by
    rw [members, hcohort]
    exact hbegun.length_eq
  have hending : y.fleet.cohort.IsEnding := by
    refine hy.isEnding ?_ (hlength ▸ hpositions) hbegun.agrees
    rw [hbegun.fleet_eq]
    exact hreleased
  obtain ⟨z, hreached, hawaited, hdone⟩ :=
    hy.reaches_awaitStops ⟨rfl, rfl, rfl, hbegun.agrees⟩ hending
  have hz := hy.reaches hreached
  have hlast : z.fleet.cohort = x.fleet.cohort.beginStops.2.awaitStops := by
    rw [hawaited.fleet_eq, hcohort]
  have hidle : z.fleet.cohort.isStopping = false := by
    rw [hlast, ← hcohort]
    exact hdone
  have hfinal : z.members.length = x.members.length := by
    rw [members, hawaited.fleet_eq]
    exact hawaited.length_eq.trans hlength
  refine ⟨z, hreach.trans hreached, ?_, hawaited.shutdowns_eq.trans hbegun.shutdowns_eq, ?_,
    fun member hmember => ?_, fun position member hmember hhandle => ?_⟩
  · rw [hawaited.fleet_eq, hbegun.fleet_eq]
    rfl
  · have houtcomes := hz.outcomes?_eq hidle hawaited (hfinal ▸ hpositions)
    rw [hfinal] at houtcomes
    rw [houtcomes]
    simp only [members, hlast]
    rfl
  · obtain ⟨position, hposition⟩ := List.mem_iff_getElem?.1 hmember
    have hlt := (List.getElem?_eq_some_iff.1 hposition).1
    obtain ⟨call, hcall⟩ := exists_call_of_lt hpositions (hfinal ▸ hlt)
    obtain ⟨phase, hphase, -, hlooked⟩ := (hawaited.agrees _ hcall).exists_phase
    have hkept := hz.agents position member hposition
    obtain ⟨clean, hclean⟩ := exists_released hidle hmember
      (hkept.looked phase (List.mem_of_getElem? hphase) hlooked)
    exact hkept.isDone_of_released hclean
  · have hlt := (List.getElem?_eq_some_iff.1 hmember).1
    obtain ⟨call, hcall⟩ := exists_call_of_lt hpositions hlt
    have hlater := List.getElem?_eq_getElem (l := z.members) (hfinal.symm ▸ hlt)
    obtain ⟨-, hreturned⟩ := hz.outcomeAt_eq hidle hlater (hawaited.agrees _ hcall)
    exact hreturned (hpending _ hcall member hmember hhandle)

/-- If no call waited before the calls of a shutdown, its report is for good. -/
theorem Kept.settles (hx : x.Kept) (hy : y.Kept) (hfollows : x.Follows y)
    (hcancelled : x.fleet.cohort.launchCancelled = true)
    (hidle : x.fleet.cohort.isStopping = false) {number : Nat → Nat}
    (hcalls : ∀ position < x.members.length, (x.calls position)[number position]? = some .called)
    {outcomes : List StopOutcome}
    (houtcomes : y.outcomes? ((List.range x.members.length).map fun position =>
      (position, number position)) = some outcomes)
    (htook : ∀ (position : Nat) member, x.members[position]? = some member →
      member.agent.handle = .held → ∃ since now outcome,
        (y.calls position)[number position]? = some (.returned (some since) now outcome)) :
    y.Settles (.ofOutcomes y.names outcomes) := by
  intro later hlater hfailed
  obtain ⟨position, hposition⟩ := List.mem_iff_getElem?.1 hlater
  have hkept := hy.agents position later hposition
  obtain ⟨member, hmember, hlasts⟩ := hfollows.exists_earlier hcancelled hposition
  have hpositions : ((List.range x.members.length).map fun position =>
      (position, number position)).map Prod.fst = List.range y.members.length := by
    rw [(hfollows.cancelled hcancelled).2, List.map_map]
    exact List.map_id _
  obtain ⟨caller, since, time, outcome, hown, houtcome, hcall⟩ :=
    exists_returned hpositions houtcomes hposition
  obtain ⟨place, -, heq⟩ := List.mem_map.1 hown
  obtain ⟨rfl, rfl⟩ := Prod.mk.inj heq
  have hmem := List.mem_of_getElem? hcall
  obtain ⟨htold, -⟩ := hkept.said since time outcome hmem
  have hunclean : outcome.clean = false := by
    obtain ⟨-, hlisted⟩ := hy.listed_of_outcome hpositions houtcomes
      (List.mem_of_getElem? houtcome)
    rw [htold.name_eq] at hlisted
    exact hlisted.1 hfailed
  by_cases hheld : member.agent.handle = .held
  · obtain ⟨start, now, said, hwaited⟩ := htook place member hmember hheld
    obtain ⟨-, hstage⟩ := hkept.of_unclean hmem hunclean
    refine hstage.resolve_right ?_
    rintro rfl
    exact nomatch hcall.symm.trans hwaited
  · -- The task was done before the call, which says so.
    obtain ⟨clean, hclean⟩ := exists_released hidle (List.mem_of_getElem? hmember) hheld
    have hearlier := hx.agents place member hmember
    have hdone : member.agent.IsDone := hearlier.isDone_of_released hclean
    have hcalled := hcalls place (List.getElem?_eq_some_iff.1 hmember).1
    exact hlasts.aborted_of_unclean hearlier.fits hdone hcall
      (fun hold => nomatch hcalled.symm.trans hold) hunclean

/-! ## The whole shutdown -/

theorem members_endLaunch (f : Fleet) : f.endLaunch.cohort.members = f.cohort.members := by
  let c : Cohort := { f.cohort with launchCancelled := true }
  obtain ⟨hended, -⟩ := Cohort.endLaunch_eq (c := c) rfl
  have hperform : (c.perform .launch).members = f.cohort.members := by
    simp only [Cohort.perform]
    split
    · simp only [Cohort.actLauncher]
      split <;> rfl
    · rfl
  show (if f.holdsLauncher then c.endLaunch else c).members = _
  rw [hended]
  split_ifs
  · exact hperform
  · rfl
  · rfl

/-- `Fleet.shutdown` is a run of a shutdown that is called at any point.  It leaves nothing to do,
and if no call waited before it its report is for good. -/
theorem Kept.reaches_shutdown (h : x.Kept) :
    ∃ y, (x.happen .shutdown).Reaches y ∧ y.fleet = x.fleet.shutdown.2 ∧
      y.shutdowns = x.shutdowns ++ [.reported x.fleet.shutdown.1] ∧
      (∀ member ∈ y.members, member.agent.IsDone) ∧
      (x.fleet.cohort.isStopping = false → y.Settles x.fleet.shutdown.1) := by
  let closed : Attended := { x with fleet := x.fleet.endLaunch }
  let begun : Attended := closed.summoned.joined (.stopping closed.newCalls)
  have hbegin : (x.happen .shutdown).Reaches begun := reaches_stopping x
  have hbegun : begun.Kept := (h.happen .shutdown).reaches hbegin
  have hcalls : ∀ position < begun.members.length,
      (begun.calls position)[(x.calls position).length]? = some .called := by
    intro position hlt
    have hcalled : begun.calls position = x.calls position ++ [.called] := if_pos hlt
    rw [hcalled]
    exact List.getElem?_concat_length
  obtain ⟨y, hstop, hfleet, hshutdowns, houtcomes, hdone, htook⟩ :=
    hbegun.reaches_stopAll rfl hcalls
  have hy := hbegun.reaches hstop
  have hcancelled : begun.fleet.cohort.launchCancelled = true :=
    hbegun.inOrder.cancelled_at (getElem?_joined closed.summoned _) nofun
  have hfollows : begun.Follows y := by
    obtain ⟨events, -, rfl⟩ := hstop
    exact (hbegun.since_run events).follows
  have hnames : y.names = begun.names := hfollows.names_eq hcancelled
  -- The fleet as it would be without the shutdown that joined it.
  let before : Attended := { y with shutdowns := x.shutdowns }
  have hjoined : before.joined (.stopping closed.newCalls) = y := by
    have hstages : x.shutdowns ++ [.stopping closed.newCalls] = y.shutdowns := hshutdowns.symm
    simp only [before, joined, hstages]
  have hreport : ShutdownReport.ofOutcomes y.names begun.fleet.cohort.stopAll.1 =
      x.fleet.shutdown.1 := by
    rw [hnames]
    rfl
  have hlast : y.happen (.advance x.shutdowns.length) = _ :=
    hjoined ▸ advance_stopping (x := before) houtcomes hreport
  refine ⟨y.happen (.advance x.shutdowns.length),
    (hbegin.trans hstop).trans (reaches_happen (.advance x.shutdowns.length) trivial), ?_⟩
  rw [hlast]
  refine ⟨?_, rfl, hdone, fun hidle => ?_⟩
  · simp only [joined, before, hfleet]
    rw [Fleet.shutdown, Fleet.stopAll]
    rfl
  · have hstill : begun.fleet.cohort.isStopping = false := by
      show x.fleet.endLaunch.cohort.members.any Cohort.isAwaited = false
      rw [members_endLaunch]
      exact hidle
    have hsettles := hbegun.settles hy hfollows hcancelled hstill hcalls houtcomes htook
    exact hreport ▸ hsettles

end Fleet.Attended

end NodeFleet
