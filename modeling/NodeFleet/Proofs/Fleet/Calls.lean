import NodeFleet.Proofs.Fleet.Moves

/-!
# Fleets that are called at any time

Any number of shutdowns and of stop calls are made to a fleet at any time, and each takes its
steps when it likes.  A shutdown cancels the launch, waits for the launcher and lets go of it,
takes back readiness, calls for every agent to stop, and reports once its own calls have returned.
Waiting for the launcher it keeps other shutdowns from looking for one.

An `Attended` fleet is one together with the places that its calls have reached.  `InOrder` is what
the launch and the shutdowns keep to.
-/

namespace NodeFleet

open Agent (StopPhase StopOutcome)

theorem any_set {α : Type} {p : α → Bool} {values : List α} {place : Nat} {before after : α}
    (hbefore : values[place]? = some before) (hkept : p before = true → p after = true) :
    (values.set place after).any p = (values.any p || p after) := by
  induction values generalizing place with
  | nil => exact nomatch hbefore
  | cons first rest ih =>
      cases place with
      | zero =>
          obtain rfl : first = before := Option.some.inj hbefore
          simp only [List.set_cons_zero, List.any_cons]
          grind
      | succ place =>
          simp only [List.set_cons_succ, List.any_cons, ih hbefore, Bool.or_assoc]

namespace Fleet

/-! ## Runs -/

/-- How far a shutdown has come. -/
inductive ShutdownStage where
  | called
  /-- It has cancelled the launch, and waits for the launcher. -/
  | cancelled
  /-- It has let go of the launcher. -/
  | released
  /-- It has taken back readiness. -/
  | cleared
  /-- It waits for its stop calls: the positions of the agents, each with the number of the call. -/
  | stopping (own : List (Nat × Nat))
  | reported (report : ShutdownReport)
  deriving DecidableEq

/-- Whether a shutdown has taken back readiness. -/
def ShutdownStage.hasCleared : ShutdownStage → Bool
  | .called => false
  | .cancelled => false
  | .released => false
  | _ => true

/-- A fleet with the stop calls to the agents at each position and the shutdowns that were called,
in the order in which they were. -/
structure Attended where
  fleet : Fleet
  calls : Nat → List StopPhase
  shutdowns : List ShutdownStage

namespace Attended

/-- The outcomes of certain stop calls, once they have all returned. -/
def outcomes? (x : Attended) (own : List (Nat × Nat)) : Option (List StopOutcome) :=
  own.mapM fun (position, caller) =>
    match (x.calls position)[caller]? with
    | some (.returned _ _ outcome) => some outcome
    | _ => none

/-- A shutdown goes on by one step. -/
def advance (x : Attended) (caller : Nat) : Attended :=
  let f := x.fleet
  match x.shutdowns[caller]? with
  | some .called =>
      { x with
        fleet := { f with cohort := { f.cohort with launchCancelled := true } }
        shutdowns := x.shutdowns.set caller .cancelled }
  | some .cancelled =>
      if f.holdsLauncher && f.cohort.isLaunching then x
      else
        { x with
          fleet := { f with holdsLauncher := false }
          shutdowns := x.shutdowns.set caller .released }
  | some .released =>
      let site := { f.site with telemetry := f.site.telemetry.setReady false }
      { x with
        fleet := { f with cohort := { f.cohort with site } }
        shutdowns := x.shutdowns.set caller .cleared }
  | some .cleared =>
      let positions := List.range f.cohort.members.length
      { x with
        calls := fun position =>
          if position < f.cohort.members.length then x.calls position ++ [.called]
          else x.calls position
        shutdowns := x.shutdowns.set caller
          (.stopping (positions.map fun position => (position, (x.calls position).length))) }
  | some (.stopping own) =>
      match x.outcomes? own with
      | some outcomes =>
          let names := f.cohort.members.map fun member => member.agent.name
          let report := ShutdownReport.ofOutcomes names outcomes
          let site := f.site.note (.fleetStopped report.stopped.length report.failed)
          { x with
            fleet := { f with cohort := { f.cohort with site } }
            shutdowns := x.shutdowns.set caller (.reported report) }
      | none => x
  | some (.reported _) => x
  | none => x

/-- Whether a shutdown has taken back readiness. -/
def isCleared (x : Attended) : Bool := x.shutdowns.any ShutdownStage.hasCleared

/-- Something that happens to a fleet, to its stop calls or to its shutdowns. -/
inductive Event where
  /-- Something that is part of no call. -/
  | other (m : Move)
  /-- The agent at a position is called to stop. -/
  | stop (position : Nat)
  /-- A stop call to the agent at a position takes a step. -/
  | proceed (position caller : Nat)
  | shutdown
  /-- A shutdown takes a step. -/
  | advance (caller : Nat)

/-- Lets something happen. -/
def happen (x : Attended) : Event → Attended
  | .other m => { x with fleet := x.fleet.move m }
  | .stop position =>
      if position < x.fleet.cohort.members.length then
        { x with calls := Function.update x.calls position (x.calls position ++ [.called]) }
      else x
  | .proceed position caller =>
      match x.fleet.cohort.members[position]? with
      | some member =>
          let y :=
            Agent.Attended.proceed ⟨⟨member.agent, x.fleet.site, []⟩, x.calls position⟩ caller
          { x with
            fleet := x.fleet.setAgent position y.agent y.site
            calls := Function.update x.calls position y.calls }
      | none => x
  | .shutdown => { x with shutdowns := x.shutdowns ++ [.called] }
  | .advance caller => x.advance caller

/-- Whether a shutdown takes back readiness in an event. -/
def clears (x : Attended) : Event → Bool
  | .advance caller =>
      match x.shutdowns[caller]? with
      | some .released => true
      | _ => false
  | _ => false

/-- The call that an event is to the ledger of an agent, with the agent's name. -/
def call? (x : Attended) : Event → Option (String × Ledger.Call)
  | .other m => x.fleet.call? m
  | _ => none

end Attended

/-- Lets things happen to a fleet, one after the other. -/
def attend (f : Fleet) (events : List Attended.Event) : Attended :=
  events.foldl Attended.happen { fleet := f, calls := fun _ => [], shutdowns := [] }

theorem attend_concat (f : Fleet) (events : List Attended.Event) (event : Attended.Event) :
    attend f (events ++ [event]) = (attend f events).happen event := by
  simp [attend]

theorem attend_append (f : Fleet) (events more : List Attended.Event) :
    attend f (events ++ more) = more.foldl Attended.happen (attend f events) :=
  List.foldl_append

/-! ## Invariants -/

namespace Attended

/-- What holds of a fleet that is called at any time. -/
structure InOrder (x : Attended) : Prop where
  launches : x.fleet.Launches
  /-- A shutdown cancels the launch before it does anything else. -/
  cancelled : ∀ stage ∈ x.shutdowns, stage ≠ .called → x.fleet.cohort.launchCancelled = true

variable {x : Attended}

theorem InOrder.cancelled_at (h : x.InOrder) {caller : Nat} {stage : ShutdownStage}
    (hstage : x.shutdowns[caller]? = some stage) (hlater : stage ≠ .called) :
    x.fleet.cohort.launchCancelled = true :=
  h.cancelled stage (List.mem_of_getElem? hstage) hlater

theorem InOrder.advance_step (h : x.InOrder) (caller : Nat) :
    Step x.fleet (x.clears (.advance caller)) none (x.advance caller).fleet := by
  cases hstage : x.shutdowns[caller]? with
  | none =>
      simp only [clears, advance, hstage]
      exact .rested
  | some stage =>
      cases stage with
      | called =>
          simp only [clears, advance, hstage]
          exact .cancelled
      | cancelled =>
          simp only [clears, advance, hstage]
          split_ifs with hbusy
          · exact .rested
          · exact .released (h.cancelled_at hstage nofun) (Bool.eq_false_iff.2 hbusy)
      | released =>
          simp only [clears, advance, hstage]
          exact .cleared (h.cancelled_at hstage nofun)
      | cleared =>
          simp only [clears, advance, hstage]
          exact .rested
      | stopping own =>
          simp only [clears, advance, hstage]
          split
          · exact .shifted rfl (Nat.le_refl _)
          · exact .rested
      | reported report =>
          simp only [clears, advance, hstage]
          exact .rested

theorem InOrder.happen_step (h : x.InOrder) (event : Event) :
    Step x.fleet (x.clears event) (x.call? event) (x.happen event).fleet := by
  cases event with
  | other m => exact x.fleet.move_step m
  | stop position =>
      simp only [happen]
      split_ifs <;> exact .rested
  | proceed position caller =>
      simp only [happen]
      cases hmember : x.fleet.cohort.members[position]? with
      | none => exact .rested
      | some member => exact .changed hmember (.proceeded _ caller)
  | shutdown => exact .rested
  | advance caller => exact h.advance_step caller

/-- A shutdown that takes a step leaves all stages as they are, or replaces its own by the next. -/
theorem shutdowns_advance (x : Attended) (caller : Nat) :
    (x.advance caller).shutdowns = x.shutdowns ∧ x.clears (.advance caller) = false ∨
      ∃ stage next, x.shutdowns[caller]? = some stage ∧
        (x.advance caller).shutdowns = x.shutdowns.set caller next ∧
        (stage = .called → (x.advance caller).fleet.cohort.launchCancelled = true) ∧
        next.hasCleared = (stage.hasCleared || x.clears (.advance caller)) := by
  cases hstage : x.shutdowns[caller]? with
  | none =>
      simp only [clears, advance, hstage]
      exact .inl ⟨trivial, trivial⟩
  | some stage =>
      cases stage with
      | called =>
          simp only [clears, advance, hstage]
          exact .inr ⟨_, _, rfl, rfl, fun _ => trivial, rfl⟩
      | cancelled =>
          simp only [clears, advance, hstage]
          split_ifs
          · exact .inl ⟨rfl, trivial⟩
          · exact .inr ⟨_, _, rfl, rfl, nofun, rfl⟩
      | released =>
          simp only [clears, advance, hstage]
          exact .inr ⟨_, _, rfl, rfl, nofun, rfl⟩
      | cleared =>
          simp only [clears, advance, hstage]
          exact .inr ⟨_, _, rfl, rfl, nofun, rfl⟩
      | stopping own =>
          simp only [clears, advance, hstage]
          split
          · exact .inr ⟨_, _, rfl, rfl, nofun, rfl⟩
          · exact .inl ⟨rfl, trivial⟩
      | reported report =>
          simp only [clears, advance, hstage]
          exact .inl ⟨trivial, trivial⟩

/-- Readiness stays taken back. -/
theorem isCleared_happen (x : Attended) (event : Event) :
    (x.happen event).isCleared = (x.isCleared || x.clears event) := by
  cases event with
  | other m => exact (Bool.or_false _).symm
  | stop position =>
      simp only [happen]
      split_ifs <;> exact (Bool.or_false _).symm
  | proceed position caller =>
      simp only [happen]
      split <;> exact (Bool.or_false _).symm
  | shutdown => simp [happen, isCleared, clears, ShutdownStage.hasCleared]
  | advance caller =>
      show (x.advance caller).isCleared = _
      rcases x.shutdowns_advance caller with
        ⟨hsame, hclears⟩ | ⟨before, next, hbefore, hset, -, hnext⟩
      · rw [isCleared, hsame, hclears, Bool.or_false, isCleared]
      · have hkept : before.hasCleared = true → next.hasCleared = true := by
          intro h
          rw [hnext, h, Bool.true_or]
        have hmem : before.hasCleared = true → x.isCleared = true := fun h =>
          List.any_eq_true.2 ⟨before, List.mem_of_getElem? hbefore, h⟩
        rw [isCleared, hset, any_set hbefore hkept, hnext]
        change (x.isCleared || _) = _
        cases hcleared : before.hasCleared with
        | false => rw [Bool.false_or]
        | true => rw [hmem hcleared, Bool.true_or, Bool.true_or]

theorem InOrder.happen (h : x.InOrder) (event : Event) : (x.happen event).InOrder := by
  have hstep := h.happen_step event
  have hkept := hstep.launchCancelled h.launches
  refine ⟨hstep.launches h.launches, ?_⟩
  cases event with
  | other m => exact fun stage hstage hlater => hkept (h.cancelled stage hstage hlater)
  | stop position =>
      simp only [Attended.happen]
      split_ifs <;> exact h.cancelled
  | proceed position caller =>
      intro stage hstage hlater
      refine hkept (h.cancelled stage ?_ hlater)
      simp only [Attended.happen] at hstage
      split at hstage <;> exact hstage
  | shutdown =>
      intro stage hstage hlater
      rcases List.mem_append.1 hstage with hold | hnew
      · exact h.cancelled stage hold hlater
      · exact absurd (List.mem_singleton.1 hnew) hlater
  | advance caller =>
      intro stage hstage hlater
      rcases x.shutdowns_advance caller with
        ⟨hsame, -⟩ | ⟨before, next, hbefore, hset, hfirst, -⟩
      · exact hkept (h.cancelled stage (hsame ▸ hstage) hlater)
      · rcases List.mem_or_eq_of_mem_set (hset ▸ hstage) with hold | -
        · exact hkept (h.cancelled stage hold hlater)
        · by_cases hcalled : before = .called
          · exact hfirst hcalled
          · exact hkept (h.cancelled_at hbefore hcalled)

end Attended

theorem attend_inOrder {config : FleetConfig} {site : Site} {f : Fleet}
    (hcreate : create config site = .ok f) (events : List Attended.Event) :
    (f.attend events).InOrder := by
  induction events using List.reverseRecOn with
  | nil => exact ⟨(launches_create hcreate).1, fun _ hstage => absurd hstage List.not_mem_nil⟩
  | append_singleton events event ih =>
      rw [attend_concat]
      exact ih.happen event

end Fleet

end NodeFleet
