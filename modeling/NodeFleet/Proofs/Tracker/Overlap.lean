import Mathlib.Data.List.Induction
import Mathlib.Data.Nat.Basic
import Mathlib.Logic.Function.Basic
import Mathlib.Order.Basic
import NodeFleet.Tracker

/-!
# Results recorded at the same time

The two loops of an agent record their results in one tracker, and neither waits for the
other.  Recording a failure takes two steps and recording a success takes three, and
between two steps of one loop the other can come in.  A `Duet` is a tracker with the
places that its loops have reached, and `Duet.take` is one step of one of them.

While no loop is recording, a degraded agent has a loop at the threshold.  An active one
may have such a loop too, and this happens in one way only: a success compares while the
other loop is below the threshold, that loop then reaches the threshold and finds the
agent degraded already, and the success lets the agent recover all the same.  The failures
of that loop are then overlooked, until it records again or the state changes.
`Recorded.overlooked` remembers this beside the duet.

The invariant `Coherent` says what holds between two steps.  A loop at the threshold of an
active agent is about to degrade it, or is overlooked; and a degraded agent has a loop at
the threshold, or a loop that is about to let it recover.
-/

namespace NodeFleet

/-- How far a loop has come in recording a result. -/
inductive Phase where
  /-- It is not recording. -/
  | idle
  /-- It has counted a failure, and this is its count. -/
  | counted (count : Nat)
  /-- It has cleared its failures. -/
  | cleared
  /-- It has cleared its failures and then read the count of the other loop. -/
  | compared (count : Nat)
  deriving DecidableEq

/-- A tracker in which two loops record their results. -/
structure Duet where
  tracker : Tracker
  shown : Telemetry
  /-- How far each loop has come. -/
  phase : LoopKind → Phase

namespace Duet

/-- One step of a recording; a loop begins a recording only when it is done with the last one. -/
inductive Step where
  /-- A loop begins to record a failure: it counts it. -/
  | fail (kind : LoopKind)
  /-- A loop begins to record a success: it clears its failures. -/
  | succeed (kind : LoopKind)
  /-- A loop goes on with the result that it is recording. -/
  | proceed (kind : LoopKind) (now : Timestamp)

/-- A loop goes on: after a failure it degrades the agent, after a success it first reads the
count of the other loop and then lets the agent recover. -/
def proceed (d : Duet) (kind : LoopKind) (now : Timestamp) : Duet :=
  match d.phase kind with
  | .idle => d
  | .counted count =>
      let (tracker, shown) := d.tracker.degradeAt count d.shown now
      { tracker, shown, phase := Function.update d.phase kind .idle }
  | .cleared =>
      { d with
        phase := Function.update d.phase kind (.compared (d.tracker.failures kind.other)) }
  | .compared count =>
      let (tracker, shown) := d.tracker.recoverBelow count d.shown now
      { tracker, shown, phase := Function.update d.phase kind .idle }

/-- Takes a step. -/
def take (d : Duet) : Step → Duet
  | .fail kind =>
      if d.phase kind = .idle then
        let tracker := d.tracker.countFailure kind
        { d with
          tracker
          phase := Function.update d.phase kind (.counted (tracker.failures kind)) }
      else d
  | .succeed kind =>
      if d.phase kind = .idle then
        { d with
          tracker := d.tracker.clearFailures kind
          phase := Function.update d.phase kind .cleared }
      else d
  | .proceed kind now => d.proceed kind now

/-- No loop is recording. -/
def IsAtRest (d : Duet) : Prop := ∀ kind, d.phase kind = .idle

/-! ## Recordings that are not interrupted -/

section Uninterrupted

variable {d : Duet} {kind : LoopKind}

/-- A loop that is done is where it was before it began. -/
theorem update_phase_idle (hidle : d.phase kind = .idle) :
    Function.update d.phase kind .idle = d.phase := by
  rw [← hidle, Function.update_eq_self]

/-- Two steps without an interruption record a failure. -/
theorem take_fail_proceed (hidle : d.phase kind = .idle) (now : Timestamp) :
    (d.take (.fail kind)).take (.proceed kind now) =
      { d with
        tracker := (d.tracker.recordFailure kind d.shown now).2.1
        shown := (d.tracker.recordFailure kind d.shown now).2.2 } := by
  simp only [take, if_pos hidle, proceed, Function.update_self, Function.update_idem,
    update_phase_idle hidle]
  rfl

/-- Three steps without an interruption record a success. -/
theorem take_succeed_proceed (hidle : d.phase kind = .idle) (read now : Timestamp) :
    ((d.take (.succeed kind)).take (.proceed kind read)).take (.proceed kind now) =
      { d with
        tracker := (d.tracker.recordSuccess kind d.shown now).1
        shown := (d.tracker.recordSuccess kind d.shown now).2 } := by
  simp only [take, if_pos hidle, proceed, Function.update_self, Function.update_idem,
    update_phase_idle hidle]
  rfl

end Uninterrupted

/-! ## Runs -/

/-- A duet with what is remembered of it. -/
structure Recorded where
  duet : Duet
  /-- The agent recovered although the failures of this loop were at the threshold. -/
  overlooked : LoopKind → Bool

/-- Whether a loop begins to record with a step. -/
def Step.begins (kind : LoopKind) : Step → Bool
  | .fail beginning => beginning = kind
  | .succeed beginning => beginning = kind
  | .proceed _ _ => false

namespace Recorded

/-- Takes a step.  At a recovery a loop is overlooked if it is at the threshold and not about to
degrade the agent again; it stays so until it begins to record or the state changes. -/
def take (r : Recorded) (step : Step) : Recorded :=
  let duet := r.duet.take step
  { duet
    overlooked := fun kind =>
      if duet.tracker.state = r.duet.tracker.state then
        r.overlooked kind && !step.begins kind
      else
        duet.tracker.state = .active && r.duet.phase kind = .idle &&
          r.duet.tracker.threshold ≤ r.duet.tracker.failures kind }

/-- Takes steps one after the other. -/
def run (d : Duet) (steps : List Step) : Recorded :=
  steps.foldl take { duet := d, overlooked := fun _ => false }

theorem run_concat (d : Duet) (steps : List Step) (step : Step) :
    run d (steps ++ [step]) = (run d steps).take step := by
  simp [run]

end Recorded

/-! ## The invariant -/

/-- What holds of one loop between two steps. -/
structure Sound (threshold : Nat) (state : AgentState) (failures : Nat) (phase : Phase)
    (overlooked : Bool) : Prop where
  /-- The count that a loop goes by is its own. -/
  counted : ∀ count, phase = .counted count → failures = count
  /-- A loop that is recording a success has no failures. -/
  cleared : phase = .cleared → failures = 0
  compared : ∀ count, phase = .compared count → failures = 0
  /-- A loop at the threshold of an active agent is about to degrade it, or is overlooked. -/
  active : state = .active → threshold ≤ failures →
    phase = .counted failures ∨ overlooked = true
  /-- A loop that is overlooked is at the threshold of an active agent. -/
  overlooked : overlooked = true → state = .active ∧ phase = .idle ∧ threshold ≤ failures

/-- A loop accounts for a degraded agent: it is at the threshold, or is about to let the agent
recover. -/
def Accounts (threshold failures : Nat) (phase : Phase) : Prop :=
  threshold ≤ failures ∨ phase = .cleared ∨ ∃ count < threshold, phase = .compared count

/-- What holds of a duet between two steps. -/
structure Coherent (r : Recorded) : Prop where
  threshold_pos : 1 ≤ r.duet.tracker.threshold
  state_eq : r.duet.tracker.state = .active ∨ r.duet.tracker.state = .degraded
  sound : ∀ kind, Sound r.duet.tracker.threshold r.duet.tracker.state
    (r.duet.tracker.failures kind) (r.duet.phase kind) (r.overlooked kind)
  degraded : r.duet.tracker.state = .degraded → ∃ kind,
    Accounts r.duet.tracker.threshold (r.duet.tracker.failures kind) (r.duet.phase kind)

section Loop

variable {threshold failures : Nat} {state : AgentState} {phase : Phase} {overlooked : Bool}

/-- The step of one loop and the other loop: only the state may have changed for it. -/
theorem Sound.other (h : Sound threshold state failures phase overlooked)
    (hpos : 1 ≤ threshold) (later : AgentState) :
    Sound threshold later failures phase
      (if later = state then overlooked
        else later = .active && phase = .idle && threshold ≤ failures) := by
  by_cases hlater : later = state
  · rw [if_pos hlater, hlater]
    exact h
  · rw [if_neg hlater]
    refine ⟨h.counted, h.cleared, h.compared, ?_, ?_⟩
    · intro hactive hfull
      cases hphase : phase with
      | idle => exact .inr (by simp [hactive, hfull])
      | counted count => exact .inl (by rw [h.counted count hphase])
      | cleared =>
          have hzero := h.cleared hphase
          omega
      | compared count =>
          have hzero := h.compared count hphase
          omega
    · intro hover
      simp only [Bool.and_eq_true, decide_eq_true_eq] at hover
      exact ⟨hover.1.1, hover.1.2, hover.2⟩

/-- A loop that is recording is not overlooked. -/
theorem Sound.not_overlooked (h : Sound threshold state failures phase overlooked)
    (hbusy : phase ≠ .idle) : overlooked = false :=
  Bool.eq_false_iff.2 fun hover => hbusy (h.overlooked hover).2.1

end Loop

variable {r : Recorded} {kind : LoopKind}

/-- What is left to show of a step: the loop that takes it is sound after it, and a degraded agent
is accounted for. -/
theorem Coherent.step {step : Step} (h : Coherent r) (kind : LoopKind) (place : Phase)
    (hbegins : ∀ other, other ≠ kind → step.begins other = false)
    (hphase : (r.duet.take step).phase = Function.update r.duet.phase kind place)
    (hthreshold : (r.duet.take step).tracker.threshold = r.duet.tracker.threshold)
    (hfailures : ∀ other, other ≠ kind →
      (r.duet.take step).tracker.failures other = r.duet.tracker.failures other)
    (hstate : (r.duet.take step).tracker.state = .active ∨
      (r.duet.take step).tracker.state = .degraded)
    (hsound : Sound r.duet.tracker.threshold (r.duet.take step).tracker.state
      ((r.duet.take step).tracker.failures kind) place ((r.take step).overlooked kind))
    (hdegraded : (r.duet.take step).tracker.state = .degraded →
      Accounts r.duet.tracker.threshold ((r.duet.take step).tracker.failures kind) place ∨
        ∃ other, other ≠ kind ∧ Accounts r.duet.tracker.threshold
          (r.duet.tracker.failures other) (r.duet.phase other)) :
    Coherent (r.take step) := by
  have hduet : (r.take step).duet = r.duet.take step := rfl
  constructor
  · rw [hduet, hthreshold]
    exact h.threshold_pos
  · rw [hduet]
    exact hstate
  · intro other
    rw [hduet, hthreshold, hphase]
    by_cases hother : other = kind
    · rw [hother, Function.update_self]
      exact hsound
    · rw [Function.update_of_ne hother, hfailures other hother]
      have hsame := (h.sound other).other h.threshold_pos (r.duet.take step).tracker.state
      simpa only [Recorded.take, hbegins other hother, Bool.not_false, Bool.and_true] using hsame
  · rw [hduet, hthreshold, hphase]
    intro hstill
    rcases hdegraded hstill with hkind | ⟨other, hother, haccounts⟩
    · exact ⟨kind, by rwa [Function.update_self]⟩
    · exact ⟨other, by rwa [Function.update_of_ne hother, hfailures other hother]⟩

/-- A loop that is recording begins nothing else. -/
theorem Coherent.busy {step : Step} (h : Coherent r) (htake : r.duet.take step = r.duet)
    (hbusy : ∀ kind, step.begins kind = true → r.duet.phase kind ≠ .idle) :
    Coherent (r.take step) := by
  have hoverlooked : (fun kind => r.overlooked kind && !step.begins kind) = r.overlooked := by
    funext kind
    cases hbegins : step.begins kind with
    | false => rw [Bool.not_false, Bool.and_true]
    | true => rw [(h.sound kind).not_overlooked (hbusy kind hbegins), Bool.false_and]
  have hsame : r.take step = r := by
    simp only [Recorded.take, htake, if_true, hoverlooked]
  rwa [hsame]

/-- A loop that goes on is not overlooked. -/
theorem Coherent.overlooked_proceed (h : Coherent r) (hbusy : r.duet.phase kind ≠ .idle)
    (now : Timestamp) : (r.take (.proceed kind now)).overlooked kind = false := by
  have hnone := (h.sound kind).not_overlooked hbusy
  simp [Recorded.take, hbusy, hnone]

/-! ## Steps -/

/-- Every loop that accounts for a degraded agent is another one, or `kind` itself does. -/
theorem Coherent.accounts (h : Coherent r) (hdegraded : r.duet.tracker.state = .degraded)
    (kind : LoopKind) :
    Accounts r.duet.tracker.threshold (r.duet.tracker.failures kind) (r.duet.phase kind) ∨
      ∃ other, other ≠ kind ∧ Accounts r.duet.tracker.threshold
        (r.duet.tracker.failures other) (r.duet.phase other) := by
  obtain ⟨found, haccounts⟩ := h.degraded hdegraded
  by_cases hfound : found = kind
  · exact .inl (hfound ▸ haccounts)
  · exact .inr ⟨found, hfound, haccounts⟩

theorem Coherent.fail (h : Coherent r) (hidle : r.duet.phase kind = .idle)
    (hfew : r.duet.tracker.failures kind + 1 < Tracker.countSpan) :
    Coherent (r.take (.fail kind)) := by
  have htake : (r.duet.take (.fail kind)).tracker = r.duet.tracker.countFailure kind := by
    simp only [Duet.take, if_pos hidle]
  have hcount : (r.duet.tracker.countFailure kind).failures kind =
      r.duet.tracker.failures kind + 1 := by
    rw [Tracker.countFailure, Tracker.failures_setFailures, if_pos rfl, Nat.mod_eq_of_lt hfew]
  have hstate : (r.duet.tracker.countFailure kind).state = r.duet.tracker.state :=
    r.duet.tracker.setFailures_state kind _
  have hover : (r.take (.fail kind)).overlooked kind = false := by
    simp [Recorded.take, htake, hstate, Step.begins]
  refine h.step kind (.counted ((r.duet.tracker.countFailure kind).failures kind))
    ?_ ?_ ?_ ?_ ?_ ?_ ?_
  · intro other hother
    exact decide_eq_false hother.symm
  · simp only [Duet.take, if_pos hidle]
  · rw [htake]
    exact r.duet.tracker.setFailures_threshold kind _
  · intro other hother
    rw [htake, Tracker.countFailure, Tracker.failures_setFailures, if_neg hother]
  · rw [htake, hstate]
    exact h.state_eq
  · rw [htake, hover]
    exact ⟨fun count heq => Phase.counted.inj heq, nofun, nofun, fun _ _ => .inl rfl, nofun⟩
  · intro hdegraded
    rw [htake, hstate] at hdegraded
    rw [htake, hcount]
    rcases h.accounts hdegraded kind with hkind | hothers
    · -- An idle loop that accounts for the state is at the threshold, and now above it.
      refine .inl (.inl ?_)
      rcases hkind with hfull | hcleared | ⟨count, -, hcompared⟩
      · omega
      · cases hidle.symm.trans hcleared
      · cases hidle.symm.trans hcompared
    · exact .inr hothers

theorem Coherent.succeed (h : Coherent r) (hidle : r.duet.phase kind = .idle) :
    Coherent (r.take (.succeed kind)) := by
  have htake : (r.duet.take (.succeed kind)).tracker = r.duet.tracker.clearFailures kind := by
    simp only [Duet.take, if_pos hidle]
  have hcount : (r.duet.tracker.clearFailures kind).failures kind = 0 := by
    rw [Tracker.clearFailures, Tracker.failures_setFailures, if_pos rfl]
  have hstate : (r.duet.tracker.clearFailures kind).state = r.duet.tracker.state :=
    r.duet.tracker.setFailures_state kind 0
  have hover : (r.take (.succeed kind)).overlooked kind = false := by
    simp [Recorded.take, htake, hstate, Step.begins]
  refine h.step kind .cleared ?_ ?_ ?_ ?_ ?_ ?_ ?_
  · intro other hother
    exact decide_eq_false hother.symm
  · simp only [Duet.take, if_pos hidle]
  · rw [htake]
    exact r.duet.tracker.setFailures_threshold kind _
  · intro other hother
    rw [htake, Tracker.clearFailures, Tracker.failures_setFailures, if_neg hother]
  · rw [htake, hstate]
    exact h.state_eq
  · rw [htake, hcount, hover]
    have hpos := h.threshold_pos
    exact ⟨nofun, fun _ => rfl, nofun, fun _ hfull => by omega, nofun⟩
  · exact fun _ => .inl (.inr (.inl rfl))

/-- A loop that has counted a failure degrades the agent if its count is at the threshold. -/
theorem Coherent.degrade {count : Nat} (h : Coherent r)
    (hphase : r.duet.phase kind = .counted count) (now : Timestamp) :
    Coherent (r.take (.proceed kind now)) := by
  have hown := (h.sound kind).counted count hphase
  have htake : (r.duet.take (.proceed kind now)).tracker =
      if r.duet.tracker.threshold ≤ count ∧ r.duet.tracker.state = .active then
        { r.duet.tracker with state := .degraded }
      else r.duet.tracker := by
    simp only [Duet.take, proceed, hphase]
    exact Tracker.degradeAt_fst _ _ _ _
  refine h.step kind .idle ?_ ?_ ?_ ?_ ?_ ?_ ?_
  · exact fun _ _ => rfl
  · simp only [Duet.take, proceed, hphase]
  · rw [htake]
    split_ifs <;> rfl
  · intro other _
    rw [htake]
    split_ifs <;> rfl
  · rw [htake]
    split_ifs
    · exact .inr rfl
    · exact h.state_eq
  · have hover := h.overlooked_proceed (by rw [hphase]; exact nofun) now
    rw [hover, htake]
    split_ifs with hdegrades
    · exact ⟨nofun, nofun, nofun, nofun, nofun⟩
    · refine ⟨nofun, nofun, nofun, fun hactive hfull => ?_, nofun⟩
      exact absurd ⟨hown ▸ hfull, hactive⟩ hdegrades
  · rw [htake]
    split_ifs with hdegrades
    · intro _
      exact .inl (.inl (hown.symm ▸ hdegrades.1))
    · intro hdegraded
      rcases h.accounts hdegraded kind with hkind | hothers
      · rcases hkind with hfull | hcleared | ⟨read, -, hcompared⟩
        · exact .inl (.inl hfull)
        · cases hphase.symm.trans hcleared
        · cases hphase.symm.trans hcompared
      · exact .inr hothers

/-- A loop that has cleared its failures reads the count of the other one. -/
theorem Coherent.compare (h : Coherent r) (hphase : r.duet.phase kind = .cleared)
    (now : Timestamp) : Coherent (r.take (.proceed kind now)) := by
  have hzero := (h.sound kind).cleared hphase
  have hpos := h.threshold_pos
  have htake : (r.duet.take (.proceed kind now)).tracker = r.duet.tracker := by
    simp only [Duet.take, proceed, hphase]
  refine h.step kind (.compared (r.duet.tracker.failures kind.other))
    ?_ ?_ ?_ ?_ ?_ ?_ ?_
  · exact fun _ _ => rfl
  · simp only [Duet.take, proceed, hphase]
  · rw [htake]
  · intro other _
    rw [htake]
  · rw [htake]
    exact h.state_eq
  · have hover := h.overlooked_proceed (by rw [hphase]; exact nofun) now
    rw [hover, htake]
    exact ⟨nofun, nofun, fun _ _ => hzero, fun _ hfull => by omega, nofun⟩
  · intro _
    rw [htake]
    by_cases hbelow : r.duet.tracker.failures kind.other < r.duet.tracker.threshold
    · exact .inl (.inr (.inr ⟨_, hbelow, rfl⟩))
    · refine .inr ⟨kind.other, ?_, .inl (Nat.le_of_not_lt hbelow)⟩
      cases kind <;> exact nofun

/-- A loop that has read the count of the other one lets the agent recover if that was below the
threshold. -/
theorem Coherent.recover {count : Nat} (h : Coherent r)
    (hphase : r.duet.phase kind = .compared count) (now : Timestamp) :
    Coherent (r.take (.proceed kind now)) := by
  have hzero := (h.sound kind).compared count hphase
  have hpos := h.threshold_pos
  have htake : (r.duet.take (.proceed kind now)).tracker =
      if count < r.duet.tracker.threshold ∧ r.duet.tracker.state = .degraded then
        { r.duet.tracker with state := .active }
      else r.duet.tracker := by
    simp only [Duet.take, proceed, hphase]
    exact Tracker.recoverBelow_fst _ _ _ _
  have hfailures : ∀ other, (r.duet.take (.proceed kind now)).tracker.failures other =
      r.duet.tracker.failures other := by
    intro other
    rw [htake]
    split_ifs <;> rfl
  refine h.step kind .idle ?_ ?_ ?_ ?_ ?_ ?_ ?_
  · exact fun _ _ => rfl
  · simp only [Duet.take, proceed, hphase]
  · rw [htake]
    split_ifs <;> rfl
  · exact fun other _ => hfailures other
  · rw [htake]
    split_ifs
    · exact .inl rfl
    · exact h.state_eq
  · have hover := h.overlooked_proceed (by rw [hphase]; exact nofun) now
    rw [hover, hfailures, hzero]
    exact ⟨nofun, nofun, nofun, fun _ hfull => by omega, nofun⟩
  · rw [hfailures, htake]
    split_ifs with hrecovers
    · exact nofun
    · intro hdegraded
      refine .inr ?_
      -- The loop itself does not account for the state: it has no failures, and has compared.
      refine (h.accounts hdegraded kind).resolve_left ?_
      rintro (hfull | hcleared | ⟨read, hread, hcompared⟩)
      · omega
      · cases hphase.symm.trans hcleared
      · obtain rfl := Phase.compared.inj (hphase.symm.trans hcompared)
        exact hrecovers ⟨hread, hdegraded⟩

/-- Whether a loop begins to record a failure with a step. -/
def Step.fails (kind : LoopKind) : Step → Bool
  | .fail failing => failing = kind
  | _ => false

theorem Coherent.take {step : Step} (h : Coherent r)
    (hfew : ∀ kind, step.fails kind = true →
      r.duet.tracker.failures kind + 1 < Tracker.countSpan) :
    Coherent (r.take step) := by
  cases step with
  | fail kind =>
      by_cases hidle : r.duet.phase kind = .idle
      · exact h.fail hidle (hfew kind (decide_eq_true rfl))
      · refine h.busy (by simp only [Duet.take, if_neg hidle]) fun other hbegins => ?_
        rwa [← of_decide_eq_true hbegins]
  | succeed kind =>
      by_cases hidle : r.duet.phase kind = .idle
      · exact h.succeed hidle
      · refine h.busy (by simp only [Duet.take, if_neg hidle]) fun other hbegins => ?_
        rwa [← of_decide_eq_true hbegins]
  | proceed kind now =>
      cases hphase : r.duet.phase kind with
      | idle => exact h.busy (by simp only [Duet.take, proceed, hphase]) nofun
      | counted count => exact h.degrade hphase now
      | cleared => exact h.compare hphase now
      | compared count => exact h.recover hphase now

/-- Going on adds no failure. -/
theorem failures_proceed (d : Duet) (proceeding kind : LoopKind) (now : Timestamp) :
    (d.proceed proceeding now).tracker.failures kind = d.tracker.failures kind := by
  unfold proceed
  split
  · rfl
  · exact Tracker.failures_degradeAt _ _ _ _ kind
  · rfl
  · exact Tracker.failures_recoverBelow _ _ _ _ kind

/-- A step adds at most one failure, and only to the loop that records it. -/
theorem failures_take_le (d : Duet) (step : Step) (kind : LoopKind) :
    (d.take step).tracker.failures kind ≤
      d.tracker.failures kind + if step.fails kind then 1 else 0 := by
  cases step with
  | fail failing =>
      by_cases hidle : d.phase failing = .idle
      · simp only [take, if_pos hidle, Tracker.countFailure, Tracker.failures_setFailures]
        by_cases hkind : kind = failing
        · subst hkind
          simpa [Step.fails] using Nat.mod_le (d.tracker.failures kind + 1) Tracker.countSpan
        · rw [if_neg hkind]
          exact Nat.le_add_right _ _
      · simp only [take, if_neg hidle]
        exact Nat.le_add_right _ _
  | succeed succeeding =>
      refine le_trans ?_ (Nat.le_add_right _ _)
      by_cases hidle : d.phase succeeding = .idle
      · simp only [take, if_pos hidle, Tracker.clearFailures, Tracker.failures_setFailures]
        split_ifs
        · exact Nat.zero_le _
        · exact le_rfl
      · simp only [take, if_neg hidle]
        exact le_rfl
  | proceed proceeding now =>
      exact (failures_proceed d proceeding kind now).le.trans (Nat.le_add_right _ _)

/-! ## Runs from an active agent without failures -/

/-- A duet whose loops are not recording. -/
def start (t : Tracker) (shown : Telemetry) : Duet :=
  { tracker := t, shown, phase := fun _ => .idle }

section Run

variable {t : Tracker} {steps : List Step}

theorem start_coherent (hactive : t.state = .active) (hclear : ∀ kind, t.failures kind = 0)
    (hpos : 1 ≤ t.threshold) (shown : Telemetry) :
    Coherent (Recorded.run (start t shown) []) := by
  refine ⟨hpos, .inl hactive, fun kind => ?_, fun hdegraded => ?_⟩
  · refine ⟨nofun, nofun, nofun, fun _ hfull => ?_, nofun⟩
    have hnone : t.threshold ≤ 0 := hclear kind ▸ hfull
    omega
  · cases hactive.symm.trans hdegraded

/-- As long as no count starts again, a run keeps the invariant. -/
theorem run_coherent (hactive : t.state = .active) (hclear : ∀ kind, t.failures kind = 0)
    (hpos : 1 ≤ t.threshold) (shown : Telemetry)
    (hfew : ∀ kind, steps.countP (Step.fails kind) < Tracker.countSpan) :
    Coherent (Recorded.run (start t shown) steps) ∧
      ∀ kind, (Recorded.run (start t shown) steps).duet.tracker.failures kind ≤
        steps.countP (Step.fails kind) := by
  induction steps using List.reverseRecOn with
  | nil => exact ⟨start_coherent hactive hclear hpos shown, fun kind => (hclear kind).le⟩
  | append_singleton steps step ih =>
      have hcount : ∀ kind, (steps ++ [step]).countP (Step.fails kind) =
          steps.countP (Step.fails kind) + if step.fails kind then 1 else 0 := by
        intro kind
        rw [List.countP_append, List.countP_singleton]
      obtain ⟨hcoherent, hle⟩ := ih fun kind =>
        lt_of_le_of_lt ((Nat.le_add_right _ _).trans (hcount kind).ge) (hfew kind)
      rw [Recorded.run_concat]
      refine ⟨hcoherent.take fun kind hfails => ?_, fun kind => ?_⟩
      · have hall := hfew kind
        rw [hcount, if_pos hfails] at hall
        exact (Nat.succ_le_succ (hle kind)).trans_lt hall
      · rw [hcount]
        exact (failures_take_le _ step kind).trans (Nat.add_le_add_right (hle kind) _)

end Run

/-! ## What holds at rest -/

/-- In whatever order two loops record their results: while no loop is recording, a degraded agent
has a loop at the threshold, and the loops at the threshold of an active agent are those that were
overlooked when a success of the other loop let the agent recover.  From there the steps of one
loop alone record a failure or a success as the tracker does. -/
theorem degraded_iff_at_threshold_unless_overlooked (t : Tracker) (shown : Telemetry)
    (hactive : t.state = .active) (hclear : ∀ kind, t.failures kind = 0)
    (hpos : 1 ≤ t.threshold) (steps : List Step)
    (hfew : ∀ kind, steps.countP (Step.fails kind) < Tracker.countSpan)
    (hrest : (Recorded.run (start t shown) steps).duet.IsAtRest) :
    let r := Recorded.run (start t shown) steps
    (r.duet.tracker.state = .degraded →
      ∃ kind, r.duet.tracker.threshold ≤ r.duet.tracker.failures kind) ∧
    (r.duet.tracker.state = .active → ∀ kind,
      r.duet.tracker.threshold ≤ r.duet.tracker.failures kind ↔ r.overlooked kind = true) ∧
    (r.duet.tracker.state = .active ∨ r.duet.tracker.state = .degraded) ∧
    ∀ kind read now,
      (r.duet.take (.fail kind)).take (.proceed kind now) =
        { r.duet with
          tracker := (r.duet.tracker.recordFailure kind r.duet.shown now).2.1
          shown := (r.duet.tracker.recordFailure kind r.duet.shown now).2.2 } ∧
      ((r.duet.take (.succeed kind)).take (.proceed kind read)).take (.proceed kind now) =
        { r.duet with
          tracker := (r.duet.tracker.recordSuccess kind r.duet.shown now).1
          shown := (r.duet.tracker.recordSuccess kind r.duet.shown now).2 } := by
  intro r
  obtain ⟨h, -⟩ := run_coherent hactive hclear hpos shown hfew
  refine ⟨fun hdegraded => ?_, fun hactive' kind => ⟨fun hfull => ?_, fun hover => ?_⟩, h.state_eq,
    fun kind read now => ⟨take_fail_proceed (hrest kind) now,
      take_succeed_proceed (hrest kind) read now⟩⟩
  · obtain ⟨kind, hfull | hcleared | ⟨count, -, hcompared⟩⟩ := h.degraded hdegraded
    · exact ⟨kind, hfull⟩
    · cases (hrest kind).symm.trans hcleared
    · cases (hrest kind).symm.trans hcompared
  · refine ((h.sound kind).active hactive' hfull).resolve_left fun hcounted => ?_
    cases (hrest kind).symm.trans hcounted
  · exact ((h.sound kind).overlooked hover).2.2

/-- An active agent whose loops have no failures. -/
def fresh (threshold : Nat) : Tracker := { Tracker.create "node" threshold with state := .active }

/-- The heartbeat fails twice while the other loop records a success, and the agent is degraded. -/
theorem degraded_after_overlap :
    let steps : List Step :=
      [.fail .heartbeat, .succeed .statusSync, .proceed .statusSync ⟨0, 0⟩,
        .proceed .heartbeat ⟨0, 0⟩, .fail .heartbeat, .proceed .statusSync ⟨0, 0⟩,
        .proceed .heartbeat ⟨0, 0⟩]
    let r := Recorded.run (start (fresh 2) .empty) steps
    r.duet.IsAtRest ∧ r.duet.tracker.state = .degraded ∧
      ∃ kind, r.duet.tracker.threshold ≤ r.duet.tracker.failures kind := by
  intro steps r
  have hrest : r.duet.IsAtRest := by
    intro kind
    cases kind <;> rfl
  have hdegraded : r.duet.tracker.state = .degraded := rfl
  have hclear : ∀ kind, (fresh 2).failures kind = 0 := by
    intro kind
    cases kind <;> rfl
  have hfew : ∀ kind, steps.countP (Step.fails kind) < Tracker.countSpan := by
    intro kind
    cases kind <;> decide
  exact ⟨hrest, hdegraded, (degraded_iff_at_threshold_unless_overlooked (fresh 2) .empty rfl hclear
    (by decide) steps hfew hrest).1 hdegraded⟩

/-- A status loop that failed records a success.  After it has read that the heartbeat has no
failures, the heartbeat fails and finds the agent degraded already, and then the status loop lets
the agent recover: it is active, no loop is recording, and the heartbeat is at the threshold. -/
theorem recovery_overlooks_heartbeat :
    let r := Recorded.run (start (fresh 1) .empty)
      [.fail .statusSync, .proceed .statusSync ⟨0, 0⟩, .succeed .statusSync,
        .proceed .statusSync ⟨0, 0⟩, .fail .heartbeat, .proceed .heartbeat ⟨0, 0⟩,
        .proceed .statusSync ⟨0, 0⟩]
    r.duet.IsAtRest ∧ r.duet.tracker.state = .active ∧ r.duet.tracker.threshold = 1 ∧
      r.duet.tracker.failures .heartbeat = 1 ∧ r.overlooked .heartbeat = true := by
  intro r
  refine ⟨fun kind => ?_, rfl, rfl, rfl, rfl⟩
  cases kind <;> rfl

end Duet

end NodeFleet
