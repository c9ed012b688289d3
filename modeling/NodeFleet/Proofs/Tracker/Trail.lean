import Mathlib.Data.List.Induction
import Mathlib.Data.List.Perm.Basic
import NodeFleet.Tracker

/-!
# The trail of an agent

Every change of state of an agent leaves an event in the journal.  The events of one agent
are its trail, and the trail is one path through the table of allowed moves: it starts at
`unregistered`, each change begins where the last one ended, and it ends in the state that
the agent is in.  From `terminating` it can go on to `stopped` only, and there it ends.

An `Exchange` is a tracker with all the calls that were made on it.  Calls of different
callers overlap: a change of state is made in one step, but a failure is counted before
the agent is degraded, a success clears the failures before it compares and compares before
the agent recovers, and the failures of the two loops are forgotten one after the other.
Between two steps of a call any other call can come in, and other agents can change what is
shown of them.

What a single step does is said once, by `Stride`.  That the trail is a path, that a call
answers whether it added to the trail, and that the health of the agent mirrors its state
all follow from it.
-/

namespace NodeFleet

/-! ## Trails -/

/-- A change of an agent's state. -/
structure StateChange where
  source : AgentState
  target : AgentState
  deriving DecidableEq

/-- A trail, the last change first, is a path of allowed moves from one state to another. -/
def Leads (origin : AgentState) : List StateChange → AgentState → Prop
  | [], state => state = origin
  | change :: earlier, state =>
      change.target = state ∧ change.source.canMoveTo change.target = true ∧
        Leads origin earlier change.source

namespace Leads

variable {origin middle state : AgentState} {trail later : List StateChange}

theorem trans (h : Leads origin trail middle) (hlater : Leads middle later state) :
    Leads origin (later ++ trail) state := by
  induction later generalizing state with
  | nil =>
      obtain rfl : state = middle := hlater
      exact h
  | cons change earlier ih =>
      obtain ⟨htarget, hallowed, hearlier⟩ := hlater
      exact ⟨htarget, hallowed, ih hearlier⟩

end Leads

/-- The change of an agent's state that an event tells of. -/
def Journal.Event.change? (name : String) : Journal.Event → Option StateChange
  | .stateChanged agent source target _ =>
      if agent = name then some { source, target } else none
  | _ => none

namespace Telemetry

/-- The trail of an agent, the last change first. -/
def changes (shown : Telemetry) (name : String) : List StateChange :=
  shown.events.filterMap (Journal.Event.change? name)

/-- The changes of an agent's state since the telemetry was another. -/
def changesSince (shown base : Telemetry) (name : String) : List StateChange :=
  (shown.changes name).take ((shown.changes name).length - (base.changes name).length)

/-- What the health shows of an agent. -/
def component? (shown : Telemetry) (name : String) : Option ComponentHealth :=
  shown.health.components.find? name

/-- The health of an agent mirrors a state. -/
def Mirrors (shown : Telemetry) (name : String) (state : AgentState) : Prop :=
  ∃ now, shown.component? name = some (.ofState state now)

theorem mirrors_of_observe {shown before : Telemetry} {name : String} {state : AgentState}
    {now : Timestamp} (h : shown.health = before.health.observe name state now) :
    shown.Mirrors name state := by
  refine ⟨now, ?_⟩
  rw [component?, h]
  simp only [HealthRegistry.observe, HealthRegistry.update, Table.find?_insert, if_true]

theorem changesSince_eq {shown base : Telemetry} {name : String} {trail : List StateChange}
    (h : shown.changes name = trail ++ base.changes name) :
    shown.changesSince base name = trail := by
  simp [changesSince, h]

end Telemetry

/-! ## One step of a tracker -/

/-- What one step of a tracker does to the agent's state, its trail and its health. -/
structure Stride (t : Tracker) (shown : Telemetry) (later : Tracker) (display : Telemetry)
    (added : List StateChange) : Prop where
  name_eq : later.name = t.name
  leads : Leads t.state added later.state
  changes_eq : display.changes t.name = added ++ shown.changes t.name
  /-- At most one change is made at once. -/
  single : added.length ≤ 1
  /-- Either nothing of the agent changes, or its health mirrors the state that it is in then. -/
  health : added = [] ∧ display.component? t.name = shown.component? t.name ∨
    display.Mirrors t.name later.state

namespace Tracker

variable {t : Tracker} {shown : Telemetry} {now : Timestamp}

/-- Counting touches neither the state nor what is shown. -/
theorem stride_of_eq {later : Tracker} (hname : later.name = t.name)
    (hstate : later.state = t.state) : Stride t shown later shown [] :=
  { name_eq := hname
    leads := hstate
    changes_eq := rfl
    single := Nat.zero_le 1
    health := .inl ⟨rfl, rfl⟩ }

theorem stride_setFailures (kind : LoopKind) (count : Nat) :
    Stride t shown (t.setFailures kind count) shown [] := by
  cases kind <;> exact stride_of_eq rfl rfl

theorem mirrors_announce : (t.announce shown now).Mirrors t.name t.state :=
  Telemetry.mirrors_of_observe rfl

theorem stride_announce : Stride t shown t (t.announce shown now) [] :=
  { name_eq := rfl
    leads := rfl
    changes_eq := rfl
    single := Nat.zero_le 1
    health := .inr mirrors_announce }

/-- A guarded move adds to the trail exactly if it is made. -/
theorem exists_stride_moveWhen (t : Tracker) (shown : Telemetry) (now : Timestamp)
    (guard : AgentState → Bool) (target : AgentState) :
    ∃ added, Stride t shown (t.moveWhen guard target shown now).2.1
        (t.moveWhen guard target shown now).2.2 added ∧
      ((t.moveWhen guard target shown now).1 = true ↔ added ≠ []) := by
  by_cases hcan : t.canMove guard target = true
  · have hallowed : t.state.canMoveTo target = true := by
      simp only [canMove, Bool.and_eq_true] at hcan
      exact hcan.2
    simp only [moveWhen, if_pos hcan]
    refine ⟨[{ source := t.state, target }], ⟨rfl, ⟨rfl, hallowed, rfl⟩, ?_, Nat.le_refl 1, ?_⟩,
      by simp⟩
    · simp [showMove, Telemetry.changes, Journal.Event.change?]
    · exact .inr (Telemetry.mirrors_of_observe rfl)
  · simp only [moveWhen, if_neg hcan]
    exact ⟨[], stride_of_eq rfl rfl, by simp⟩

theorem exists_stride_moveFrom (t : Tracker) (shown : Telemetry) (now : Timestamp)
    (source target : AgentState) :
    ∃ added, Stride t shown (t.moveFrom source target shown now).2.1
        (t.moveFrom source target shown now).2.2 added ∧
      ((t.moveFrom source target shown now).1 = true ↔ added ≠ []) :=
  exists_stride_moveWhen t shown now _ target

theorem exists_stride_degradeAt (t : Tracker) (shown : Telemetry) (now : Timestamp)
    (count : Nat) :
    ∃ added, Stride t shown (t.degradeAt count shown now).1 (t.degradeAt count shown now).2
      added := by
  unfold degradeAt
  split_ifs
  · obtain ⟨added, hstride, -⟩ := exists_stride_moveFrom t shown now .active .degraded
    exact ⟨added, hstride⟩
  · exact ⟨[], stride_of_eq rfl rfl⟩

theorem exists_stride_recoverBelow (t : Tracker) (shown : Telemetry) (now : Timestamp)
    (count : Nat) :
    ∃ added, Stride t shown (t.recoverBelow count shown now).1
      (t.recoverBelow count shown now).2 added := by
  unfold recoverBelow
  split_ifs
  · obtain ⟨added, hstride, -⟩ := exists_stride_moveFrom t shown now .degraded .active
    exact ⟨added, hstride⟩
  · exact ⟨[], stride_of_eq rfl rfl⟩

/-! ## Calls -/

/-- A call on a tracker. -/
inductive Call where
  | announce
  | move (target : AgentState)
  | moveFrom (source target : AgentState)
  | recordFailure (kind : LoopKind)
  | recordSuccess (kind : LoopKind)
  | resetFailures

/-- What a call gives its caller. -/
inductive Answer where
  | done
  /-- Whether the state changed. -/
  | changed (isChanged : Bool)
  /-- The failures in a row. -/
  | count (failures : Nat)

/-- What a call does next. -/
inductive Stage where
  | announcing
  | moving (target : AgentState)
  | movingFrom (source target : AgentState)
  /-- It counts a failure. -/
  | failing (kind : LoopKind)
  /-- It degrades the agent by the count that it has reached. -/
  | degrading (count : Nat)
  /-- It clears the failures of a loop. -/
  | succeeding (kind : LoopKind)
  /-- It reads the failures of the other loop. -/
  | comparing (kind : LoopKind)
  /-- It lets the agent recover by the count that it has read. -/
  | recovering (count : Nat)
  /-- It forgets the failures of the heartbeat, then those of the status loop. -/
  | resetting
  | resettingStatus
  /-- It has returned. -/
  | returned (answer : Answer)

/-- How a call begins. -/
def Call.begin : Call → Stage
  | .announce => .announcing
  | .move target => .moving target
  | .moveFrom source target => .movingFrom source target
  | .recordFailure kind => .failing kind
  | .recordSuccess kind => .succeeding kind
  | .resetFailures => .resetting

/-- Takes the next step of a call. -/
def advance (t : Tracker) (shown : Telemetry) (now : Timestamp) :
    Stage → Stage × Tracker × Telemetry
  | .announcing => (.returned .done, t, t.announce shown now)
  | .moving target =>
      let (isChanged, t, shown) := t.move target shown now
      (.returned (.changed isChanged), t, shown)
  | .movingFrom source target =>
      let (isChanged, t, shown) := t.moveFrom source target shown now
      (.returned (.changed isChanged), t, shown)
  | .failing kind => (.degrading ((t.countFailure kind).failures kind), t.countFailure kind, shown)
  | .degrading count => (.returned (.count count), t.degradeAt count shown now)
  | .succeeding kind => (.comparing kind, t.clearFailures kind, shown)
  | .comparing kind => (.recovering (t.failures kind.other), t, shown)
  | .recovering count => (.returned .done, t.recoverBelow count shown now)
  | .resetting => (.resettingStatus, t.clearFailures .heartbeat, shown)
  | .resettingStatus => (.returned .done, t.clearFailures .statusSync, shown)
  | .returned answer => (.returned answer, t, shown)

/-- Takes the steps of a call one after the other, without an interruption. -/
def complete (t : Tracker) (shown : Telemetry) (now : Timestamp) (call : Call) :
    Stage × Tracker × Telemetry :=
  let (stage, t, shown) := t.advance shown now call.begin
  let (stage, t, shown) := t.advance shown now stage
  t.advance shown now stage

/-- A call that is not interrupted does what the operation of its name does, and returns. -/
theorem complete_eq (t : Tracker) (shown : Telemetry) (now : Timestamp) (call : Call) :
    t.complete shown now call =
      match call with
      | .announce => (.returned .done, t, t.announce shown now)
      | .move target =>
          let (isChanged, later) := t.move target shown now
          (.returned (.changed isChanged), later)
      | .moveFrom source target =>
          let (isChanged, later) := t.moveFrom source target shown now
          (.returned (.changed isChanged), later)
      | .recordFailure kind =>
          let (failures, later) := t.recordFailure kind shown now
          (.returned (.count failures), later)
      | .recordSuccess kind => (.returned .done, t.recordSuccess kind shown now)
      | .resetFailures => (.returned .done, t.resetFailures, shown) := by
  cases call <;> rfl

/-- What the next step of a call does, and how its answer is related to that. -/
structure Advanced (t : Tracker) (shown : Telemetry) (stage : Stage)
    (result : Stage × Tracker × Telemetry) (added : List StateChange) : Prop where
  stride : Stride t shown result.2.1 result.2.2 added
  /-- Only the step with which a call returns adds to the trail. -/
  returns : added ≠ [] → ∃ answer, result.1 = .returned answer
  /-- A call that has returned does nothing more. -/
  rests : ∀ answer, stage = .returned answer → result.1 = stage ∧ added = []
  /-- The answer whether the state changed is right. -/
  answers : (∀ answer, stage ≠ .returned answer) →
    ∀ isChanged, result.1 = .returned (.changed isChanged) → (isChanged = true ↔ added ≠ [])
  announces : stage = .announcing → result.2.2.Mirrors t.name t.state

/-- A step that only counts. -/
theorem Advanced.of_count {stage next : Stage} {later : Tracker}
    (hstride : Stride t shown later shown []) (hstage : ∀ answer, stage ≠ .returned answer)
    (hnext : ∀ isChanged, next ≠ .returned (.changed isChanged)) (hquiet : stage ≠ .announcing) :
    Advanced t shown stage (next, later, shown) [] :=
  { stride := hstride
    returns := fun h => absurd rfl h
    rests := fun answer h => absurd h (hstage answer)
    answers := fun _ isChanged h => absurd h (hnext isChanged)
    announces := fun h => absurd h hquiet }

/-- The step with which a call returns another answer. -/
theorem Advanced.of_return {stage : Stage} {answer : Answer} {later : Tracker × Telemetry}
    {added : List StateChange} (hstride : Stride t shown later.1 later.2 added)
    (hstage : ∀ answer, stage ≠ .returned answer)
    (hanswer : ∀ isChanged, answer = .changed isChanged → (isChanged = true ↔ added ≠ []))
    (hannounce : stage = .announcing → later.2.Mirrors t.name t.state) :
    Advanced t shown stage (.returned answer, later) added :=
  { stride := hstride
    returns := fun _ => ⟨answer, rfl⟩
    rests := fun answer h => absurd h (hstage answer)
    answers := fun _ isChanged h => hanswer isChanged (Stage.returned.inj h)
    announces := hannounce }

theorem exists_advanced (t : Tracker) (shown : Telemetry) (now : Timestamp) (stage : Stage) :
    ∃ added, Advanced t shown stage (t.advance shown now stage) added := by
  cases stage with
  | announcing => exact ⟨[], .of_return stride_announce nofun nofun fun _ => mirrors_announce⟩
  | moving target =>
      obtain ⟨added, hstride, hchanged⟩ := exists_stride_moveWhen t shown now (fun _ => true) target
      exact ⟨added, .of_return hstride nofun (fun _ h => Answer.changed.inj h ▸ hchanged) nofun⟩
  | movingFrom source target =>
      obtain ⟨added, hstride, hchanged⟩ := exists_stride_moveFrom t shown now source target
      exact ⟨added, .of_return hstride nofun (fun _ h => Answer.changed.inj h ▸ hchanged) nofun⟩
  | failing kind => exact ⟨[], .of_count (stride_setFailures kind _) nofun nofun nofun⟩
  | degrading count =>
      obtain ⟨added, hstride⟩ := exists_stride_degradeAt t shown now count
      exact ⟨added, .of_return hstride nofun nofun nofun⟩
  | succeeding kind => exact ⟨[], .of_count (stride_setFailures kind 0) nofun nofun nofun⟩
  | comparing kind => exact ⟨[], .of_count (stride_of_eq rfl rfl) nofun nofun nofun⟩
  | recovering count =>
      obtain ⟨added, hstride⟩ := exists_stride_recoverBelow t shown now count
      exact ⟨added, .of_return hstride nofun nofun nofun⟩
  | resetting => exact ⟨[], .of_count (stride_setFailures .heartbeat 0) nofun nofun nofun⟩
  | resettingStatus =>
      exact ⟨[], .of_return (stride_setFailures .statusSync 0) nofun nofun nofun⟩
  | returned answer =>
      refine ⟨[], stride_of_eq rfl rfl, fun h => absurd rfl h, fun _ _ => ⟨rfl, rfl⟩, ?_, nofun⟩
      intro hstage
      exact absurd rfl (hstage answer)

end Tracker

/-! ## Calls that overlap -/

/-- A call that was made. -/
structure MadeCall where
  call : Tracker.Call
  /-- What it does next. -/
  stage : Tracker.Stage
  /-- What its steps have added to the trail, the last first. -/
  added : List StateChange

/-- A tracker with the calls that were made on it. -/
structure Exchange where
  tracker : Tracker
  shown : Telemetry
  calls : List MadeCall

namespace Exchange

/-- A new agent, while other things are shown already. -/
def start (name : String) (threshold : Nat) (shown : Telemetry) : Exchange :=
  { tracker := .create name threshold, shown, calls := [] }

inductive Event where
  /-- Someone makes a call. -/
  | make (call : Tracker.Call)
  /-- A call takes its next step. -/
  | advance (position : Nat) (now : Timestamp)
  /-- Something else is shown, but not of this agent. -/
  | display (shown : Telemetry)

/-- Lets an event happen. -/
def happen (e : Exchange) : Event → Exchange
  | .make call => { e with calls := e.calls ++ [{ call, stage := call.begin, added := [] }] }
  | .advance position now =>
      match e.calls[position]? with
      | none => e
      | some made =>
          let (stage, tracker, shown) := e.tracker.advance e.shown now made.stage
          let added := shown.changesSince e.shown e.tracker.name
          { tracker
            shown
            calls := e.calls.set position { made with stage, added := added ++ made.added } }
  | .display shown =>
      if shown.changes e.tracker.name = e.shown.changes e.tracker.name ∧
          shown.component? e.tracker.name = e.shown.component? e.tracker.name then
        { e with shown }
      else e

/-- Lets events happen one after the other. -/
def run (e : Exchange) (events : List Event) : Exchange := events.foldl happen e

theorem run_concat (e : Exchange) (events : List Event) (event : Event) :
    run e (events ++ [event]) = (run e events).happen event := by
  simp [run]

/-- A step of a call, spelled out. -/
theorem exists_happen_advance {e : Exchange} {position : Nat} {made : MadeCall}
    (hmade : e.calls[position]? = some made) (now : Timestamp) :
    ∃ result added, Tracker.Advanced e.tracker e.shown made.stage result added ∧
      e.happen (.advance position now) =
        { tracker := result.2.1
          shown := result.2.2
          calls := e.calls.set position
            { made with stage := result.1, added := added ++ made.added } } := by
  obtain ⟨added, hadvanced⟩ := e.tracker.exists_advanced e.shown now made.stage
  refine ⟨_, added, hadvanced, ?_⟩
  simp only [happen, hmade, Telemetry.changesSince_eq hadvanced.stride.changes_eq]

/-- An exchange leads to a later one: the trail grows along allowed moves. -/
structure Extends (e later : Exchange) (added : List StateChange) : Prop where
  name_eq : later.tracker.name = e.tracker.name
  changes_eq : later.shown.changes e.tracker.name = added ++ e.shown.changes e.tracker.name
  leads : Leads e.tracker.state added later.tracker.state

namespace Extends

variable {e middle later : Exchange} {added more : List StateChange}

theorem refl (e : Exchange) : Extends e e [] := ⟨rfl, rfl, rfl⟩

theorem trans (h : Extends e middle added) (h' : Extends middle later more) :
    Extends e later (more ++ added) := by
  refine ⟨h'.name_eq.trans h.name_eq, ?_, h.leads.trans h'.leads⟩
  rw [← h.name_eq, h'.changes_eq, h.name_eq, h.changes_eq, List.append_assoc]

end Extends

/-! ## The invariant -/

/-- The announcement of the agent has taken its step. -/
def IsAnnounced (e : Exchange) : Prop :=
  ∃ made ∈ e.calls, made.call = .announce ∧ made.stage ≠ .announcing

/-- What holds of a call between two steps. -/
structure IsSound (made : MadeCall) : Prop where
  single : made.added.length ≤ 1
  unreturned : (∀ answer, made.stage ≠ .returned answer) → made.added = []
  answered : ∀ isChanged, made.stage = .returned (.changed isChanged) →
    (isChanged = true ↔ made.added ≠ [])

/-- What holds of an exchange between two steps, with its trail. -/
structure Kept (e : Exchange) (trail : List StateChange) : Prop where
  sound : ∀ made ∈ e.calls, IsSound made
  /-- Every change was made by one of the calls. -/
  accounted : (e.calls.flatMap MadeCall.added).Perm trail
  mirrored : e.IsAnnounced ∨ trail ≠ [] → e.shown.Mirrors e.tracker.name e.tracker.state

/-- A call that takes a step stays sound. -/
theorem IsSound.advance {made : MadeCall} {t : Tracker} {shown : Telemetry}
    {result : Tracker.Stage × Tracker × Telemetry} {added : List StateChange} (h : IsSound made)
    (hadvanced : Tracker.Advanced t shown made.stage result added) :
    IsSound { made with stage := result.1, added := added ++ made.added } := by
  by_cases hreturned : ∃ answer, made.stage = .returned answer
  · -- It has returned, so nothing changes.
    obtain ⟨answer, hanswer⟩ := hreturned
    obtain ⟨hstage, rfl⟩ := hadvanced.rests answer hanswer
    rw [hstage]
    exact h
  · have hopen : ∀ answer, made.stage ≠ .returned answer :=
      fun answer heq => hreturned ⟨answer, heq⟩
    rw [h.unreturned hopen, List.append_nil]
    constructor
    · exact hadvanced.stride.single
    · intro hstill
      by_contra hadded
      obtain ⟨answer, heq⟩ := hadvanced.returns hadded
      exact hstill answer heq
    · exact hadvanced.answers hopen

/-- What one call adds is added to what all calls have added. -/
theorem perm_flatMap_set {calls : List MadeCall} {position : Nat} {made : MadeCall}
    (hmade : calls[position]? = some made) (stage : Tracker.Stage) (added : List StateChange) :
    ((calls.set position { made with stage, added := added ++ made.added }).flatMap
      MadeCall.added).Perm (added ++ calls.flatMap MadeCall.added) := by
  induction calls generalizing position with
  | nil => cases hmade
  | cons first rest ih =>
      cases position with
      | zero =>
          obtain rfl : first = made := Option.some.inj hmade
          simp
      | succ position =>
          simp only [List.set_cons_succ, List.flatMap_cons]
          calc first.added ++ _
              |>.Perm (first.added ++ (added ++ rest.flatMap MadeCall.added)) :=
                (ih hmade).append_left _
            _ |>.Perm _ := List.perm_append_comm_assoc _ _ _

namespace Kept

variable {trail : List StateChange} {e : Exchange}

theorem start (name : String) (threshold : Nat) (shown : Telemetry) :
    Kept (start name threshold shown) [] := by
  refine ⟨fun made hmem => absurd hmem List.not_mem_nil, .nil, ?_⟩
  rintro (⟨made, hmem, -⟩ | hnil)
  · cases hmem
  · exact absurd rfl hnil

theorem make (h : Kept e trail) (call : Tracker.Call) : Kept (e.happen (.make call)) trail := by
  have hbegin : ∀ answer, call.begin ≠ .returned answer := by
    intro answer
    cases call <;> nofun
  refine ⟨?_, ?_, ?_⟩
  · intro made hmem
    rcases List.mem_append.1 hmem with hmem | hmem
    · exact h.sound made hmem
    · obtain rfl := List.mem_singleton.1 hmem
      exact ⟨Nat.zero_le 1, fun _ => rfl, fun isChanged heq => absurd heq (hbegin _)⟩
  · simpa [Exchange.happen] using h.accounted
  · rintro (⟨made, hmem, hcall, hstage⟩ | htrail)
    · rcases List.mem_append.1 hmem with hmem | hmem
      · exact h.mirrored (.inl ⟨made, hmem, hcall, hstage⟩)
      · obtain rfl := List.mem_singleton.1 hmem
        obtain rfl : call = .announce := hcall
        exact absurd rfl hstage
    · exact h.mirrored (.inr htrail)

/-- A call takes its next step. -/
theorem advance {position : Nat} {made : MadeCall}
    {result : Tracker.Stage × Tracker × Telemetry} {added : List StateChange} (h : Kept e trail)
    (hmade : e.calls[position]? = some made)
    (hadvanced : Tracker.Advanced e.tracker e.shown made.stage result added) :
    Kept
      { tracker := result.2.1
        shown := result.2.2
        calls := e.calls.set position
          { made with stage := result.1, added := added ++ made.added } }
      (added ++ trail) := by
  have hmem : made ∈ e.calls := List.mem_of_getElem? hmade
  obtain ⟨hname, hleads, -, -, hhealth⟩ := hadvanced.stride
  refine ⟨?_, ?_, ?_⟩
  · intro other hother
    rcases List.mem_or_eq_of_mem_set hother with hold | rfl
    · exact h.sound other hold
    · exact (h.sound made hmem).advance hadvanced
  · exact (perm_flatMap_set hmade _ _).trans (h.accounted.append_left added)
  · intro hshown
    rw [hname]
    rcases hhealth with ⟨rfl, hsame⟩ | hmirrors
    · -- Nothing changed, so the health was right before, or the agent has just been announced.
      have hstate : result.2.1.state = e.tracker.state := hleads
      rw [hstate]
      by_cases hannouncing : made.stage = .announcing
      · exact hadvanced.announces hannouncing
      · have hbefore : e.IsAnnounced ∨ trail ≠ [] := by
          refine hshown.imp ?_ id
          rintro ⟨other, hother, hcall, hstage⟩
          rcases List.mem_or_eq_of_mem_set hother with hold | rfl
          · exact ⟨other, hold, hcall, hstage⟩
          · exact ⟨made, hmem, hcall, hannouncing⟩
        obtain ⟨time, htime⟩ := h.mirrored hbefore
        exact ⟨time, hsame.trans htime⟩
    · exact hmirrors

theorem happen (h : Kept e trail) (event : Event) :
    ∃ added, Extends e (e.happen event) added ∧ Kept (e.happen event) (added ++ trail) := by
  cases event with
  | make call => exact ⟨[], ⟨rfl, rfl, rfl⟩, h.make call⟩
  | advance position now =>
      cases hmade : e.calls[position]? with
      | none =>
          simp only [Exchange.happen, hmade]
          exact ⟨[], .refl e, h⟩
      | some made =>
          obtain ⟨result, added, hadvanced, heq⟩ := exists_happen_advance hmade now
          rw [heq]
          have hstride := hadvanced.stride
          exact ⟨added, ⟨hstride.name_eq, hstride.changes_eq, hstride.leads⟩,
            h.advance hmade hadvanced⟩
  | display shown =>
      simp only [Exchange.happen]
      split_ifs with hsame
      · refine ⟨[], ⟨rfl, hsame.1, rfl⟩, h.sound, h.accounted, fun hshown => ?_⟩
        obtain ⟨now, hnow⟩ := h.mirrored hshown
        exact ⟨now, hsame.2.trans hnow⟩
      · exact ⟨[], .refl e, h⟩

theorem run (h : Kept e trail) (events : List Event) :
    ∃ added, Extends e (run e events) added ∧ Kept (run e events) (added ++ trail) := by
  induction events using List.reverseRecOn with
  | nil => exact ⟨[], .refl e, h⟩
  | append_singleton events event ih =>
      obtain ⟨added, hextends, hkept⟩ := ih
      obtain ⟨more, hmore, hlater⟩ := hkept.happen event
      rw [run_concat]
      exact ⟨more ++ added, hextends.trans hmore, by rwa [List.append_assoc]⟩

end Kept

/-! ## All exchanges -/

end Exchange

end NodeFleet
