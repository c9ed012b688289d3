import NodeFleet.Proofs.Agent.Run

/-!
# Stop calls that overlap

Any number of stop calls can be made to an agent, and none of them waits for the others.
Before a call can wait it moves the agent to `terminating`, tells the parts of the agent to
end, and takes the task.  Between two of these steps the agent and the other calls can
come in.  One call finds the task: it waits for the task to end, and gives it up at a
deadline.  Every other call returns at once with what it finds.

An `Attended` agent is one together with the places that its stop calls have reached, and
`Attended.happen` is one step of a call or of anything else.  `proceed_uninterrupted` says
that the first three steps of a call, taken in a row, are what `Agent.stop` does, and
`wake_eq` that the last one is what the stopper does.  `CallStep` has all that one step of
a call can do; the proofs about overlapping calls go by its cases.
-/

namespace NodeFleet.Agent

/-- How far a stop call has come. -/
inductive StopPhase where
  | called
  /-- It has moved the agent to `terminating`. -/
  | told
  /-- It has told the parts of the agent to end. -/
  | cancelled
  /-- It took the task, and has waited for it since then. -/
  | waiting (since : Instant)
  /-- It returned at `time`; `since` is when it took the task, if it did. -/
  | returned (since : Option Instant) (time : Instant) (outcome : StopOutcome)
  deriving DecidableEq

/-- Whether a move is a step of a stop call. -/
def Move.isStop : Move → Bool
  | .stop => true
  | .act .stopper => true
  | _ => false

theorem Move.ne_stopper {actor : Actor} (hother : Move.isStop (.act actor) = false) :
    actor ≠ .stopper := by
  rintro rfl
  exact absurd hother (by decide)

/-- What a stop call returns that does not find the task. -/
def answer (a : Agent) : StopOutcome :=
  { name := a.name, clean := a.state = .stopped, finalState := a.state }

/-- An agent with what it has done, and with the stop calls that were made to it. -/
structure Attended extends Recorded where
  /-- How far each call has come, in the order in which they were made. -/
  calls : List StopPhase

namespace Attended

/-- A call moves the agent to `terminating`. -/
def tell (x : Attended) (caller : Nat) : Attended :=
  let (agent, site) := x.agent.move .terminating x.site
  { x with agent, site, calls := x.calls.set caller .told }

/-- A call tells the parts of the agent to end. -/
def cancel (x : Attended) (caller : Nat) : Attended :=
  { x with
    agent := { x.agent with isCancelled := true }
    calls := x.calls.set caller .cancelled }

/-- A call takes the task, or returns because another call has taken it. -/
def take (x : Attended) (caller : Nat) : Attended :=
  match x.agent.handle with
  | .held =>
      let deadline := x.site.now + x.agent.setup.shutdownTimeout
      { x with
        agent := { x.agent with handle := .awaited deadline }
        calls := x.calls.set caller (.waiting x.site.now) }
  | _ => { x with calls := x.calls.set caller (.returned none x.site.now x.agent.answer) }

/-- The call that waits sees that the task has ended, or gives it up. -/
def wake (x : Attended) (caller : Nat) (since : Instant) : Attended :=
  let agent := x.agent.actStopper
  let outcome : StopOutcome :=
    { name := agent.name, clean := x.agent.isFinished, finalState := agent.state }
  { x with agent, calls := x.calls.set caller (.returned (some since) x.site.now outcome) }

/-- Whether the call that waits has something to do. -/
def isAwake (x : Attended) : Bool :=
  (x.agent.due? .stopper).any (· ≤ x.site.now)

/-- A call goes on by one step. -/
def proceed (x : Attended) (caller : Nat) : Attended :=
  match x.calls[caller]? with
  | some .called => x.tell caller
  | some .told => x.cancel caller
  | some .cancelled => x.take caller
  | some (.waiting since) => if x.isAwake then x.wake caller since else x
  | some (.returned _ _ _) => x
  | none => x

/-- Something that happens to an agent and its stop calls. -/
inductive Event where
  /-- Something that is no step of a stop call. -/
  | other (move : Move) (hother : move.isStop = false)
  | call
  | proceed (caller : Nat)

/-- Lets something happen. -/
def happen (x : Attended) : Event → Attended
  | .other move _ => { x with toRecorded := x.toRecorded.move move }
  | .call => { x with calls := x.calls ++ [.called] }
  | .proceed caller => x.proceed caller

/-- Whether a stop call has moved the agent to `terminating`. -/
def isTold (x : Attended) : Bool := x.calls.any (· ≠ .called)

end Attended

/-- Lets things happen to a new agent, one after the other. -/
def attend (setup : AgentSetup) (site : Site) (events : List Attended.Event) : Attended :=
  events.foldl Attended.happen { agent := .create setup, site, history := [], calls := [] }

theorem attend_concat (setup : AgentSetup) (site : Site) (events : List Attended.Event)
    (event : Attended.Event) :
    attend setup site (events ++ [event]) = (attend setup site events).happen event := by
  simp [attend]

namespace Attended

variable {x : Attended} {caller : Nat}

/-! ## Calls that are not interrupted -/

/-- Three steps in a row are the stop call of the agent: it is left waiting if the call of the
agent is pending, and it has returned with the same outcome otherwise. -/
theorem proceed_uninterrupted (hcall : x.calls[caller]? = some .called) :
    let stopped := x.agent.stop x.site
    let phase : StopPhase := match stopped.1 with
      | .pending => .waiting x.site.now
      | .answered outcome => .returned none x.site.now outcome
    ((x.proceed caller).proceed caller).proceed caller =
      { x with
        agent := stopped.2.1
        site := stopped.2.2
        calls := x.calls.set caller phase } := by
  intro stopped phase
  have hlt : caller < x.calls.length := (List.getElem?_eq_some_iff.1 hcall).1
  have htell : x.proceed caller = x.tell caller := by
    simp only [proceed, hcall]
  have hcancel : (x.tell caller).proceed caller = (x.tell caller).cancel caller := by
    have htold : (x.tell caller).calls[caller]? = some .told := List.getElem?_set_self hlt
    simp only [proceed, htold]
  have htake : ((x.tell caller).cancel caller).proceed caller =
      ((x.tell caller).cancel caller).take caller := by
    have hcancelled : ((x.tell caller).cancel caller).calls[caller]? = some .cancelled := by
      simp [cancel, tell, hlt]
    simp only [proceed, hcancelled]
  rw [htell, hcancel, htake]
  simp only [take, cancel, tell, List.set_set, phase, stopped, stop]
  cases (x.agent.move .terminating x.site).1.handle <;> rfl

/-- The step of the call that waits is the one of the stopper, and it returns what the agent then
has for it. -/
theorem wake_eq (x : Attended) (caller : Nat) (since : Instant) :
    ∃ outcome, (x.wake caller since).agent.outcome? = some outcome ∧
      x.wake caller since =
        { x with
          agent := (x.agent.act .stopper x.site).1
          calls := x.calls.set caller (.returned (some since) x.site.now outcome) } := by
  refine ⟨⟨x.agent.actStopper.name, x.agent.isFinished, x.agent.actStopper.state⟩, ?_, rfl⟩
  simp only [wake, actStopper]
  cases hfinished : x.agent.isFinished <;> rfl

/-! ## What a step of a call can do -/

/-- What a step of a call can do. -/
inductive CallStep (x : Attended) (caller : Nat) : Attended → Prop where
  /-- There is no such call, or it has returned, or it goes on waiting. -/
  | rested : CallStep x caller x
  | told (hcall : x.calls[caller]? = some .called) : CallStep x caller (x.tell caller)
  | cancelled (hcall : x.calls[caller]? = some .told) : CallStep x caller (x.cancel caller)
  | took (hcall : x.calls[caller]? = some .cancelled) (hhandle : x.agent.handle = .held) :
      CallStep x caller
        { x with
          agent :=
            { x.agent with handle := .awaited (x.site.now + x.agent.setup.shutdownTimeout) }
          calls := x.calls.set caller (.waiting x.site.now) }
  /-- Another call has taken the task. -/
  | refused (hcall : x.calls[caller]? = some .cancelled) (hhandle : x.agent.handle ≠ .held) :
      CallStep x caller
        { x with calls := x.calls.set caller (.returned none x.site.now x.agent.answer) }
  /-- The task has ended. -/
  | saw {since deadline : Instant} (hcall : x.calls[caller]? = some (.waiting since))
      (hhandle : x.agent.handle = .awaited deadline) (hstage : x.agent.stage = .finished) :
      CallStep x caller
        { x with
          agent := { x.agent with handle := .released true }
          calls := x.calls.set caller
            (.returned (some since) x.site.now ⟨x.agent.name, true, x.agent.state⟩) }
  | gaveUp {since deadline : Instant} (hcall : x.calls[caller]? = some (.waiting since))
      (hhandle : x.agent.handle = .awaited deadline) (hlate : deadline ≤ x.site.now)
      (hstage : x.agent.stage ≠ .finished) :
      CallStep x caller
        { x with
          agent := { x.agent with handle := .released false, stage := .aborted }
          calls := x.calls.set caller
            (.returned (some since) x.site.now ⟨x.agent.name, false, x.agent.state⟩) }

theorem isFinished_eq_true_iff {a : Agent} : a.isFinished = true ↔ a.stage = .finished := by
  unfold isFinished
  split
  · simp [*]
  · rename_i hstage
    simpa using hstage

theorem wake_step {since : Instant} (hcall : x.calls[caller]? = some (.waiting since))
    (hawake : x.isAwake = true) : x.CallStep caller (x.wake caller since) := by
  cases hhandle : x.agent.handle with
  | awaited deadline =>
      simp only [isAwake, due?, hhandle, Option.any_some, decide_eq_true_eq] at hawake
      cases hfinished : x.agent.isFinished with
      | true =>
          have hstage := isFinished_eq_true_iff.1 hfinished
          simp only [wake, actStopper, hfinished, if_true]
          exact .saw hcall hhandle hstage
      | false =>
          have hstage : x.agent.stage ≠ .finished := fun h => by
            simp [isFinished_eq_true_iff.2 h] at hfinished
          simp only [hfinished, Bool.false_eq_true, if_false] at hawake
          simp only [wake, actStopper, hfinished, Bool.false_eq_true, if_false]
          exact .gaveUp hcall hhandle hawake hstage
  | held => simp [isAwake, due?, hhandle] at hawake
  | released clean => simp [isAwake, due?, hhandle] at hawake

theorem proceed_step (x : Attended) (caller : Nat) : x.CallStep caller (x.proceed caller) := by
  unfold proceed
  split
  · exact .told ‹_›
  · exact .cancelled ‹_›
  · rename_i hcall
    unfold take
    split
    · exact .took hcall ‹_›
    · exact .refused hcall ‹_›
  · rename_i since hcall
    split_ifs with hawake
    · exact wake_step hcall hawake
    · exact .rested
  · exact .rested
  · exact .rested

end Attended

end NodeFleet.Agent
