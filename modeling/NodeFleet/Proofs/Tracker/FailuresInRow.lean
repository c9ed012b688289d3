import NodeFleet.Agent
import NodeFleet.Proofs.Tracker.Trail

/-!
# Failures in a row

Between a registration and the loss of the identity, or the stop of the agent, only the two loops
record in a tracker.  While their calls do not overlap, the count of a loop is the number of its
last results that were failures without a success between them, whatever the other loop does, and
whatever the counts were before the registration.

A failure degrades an agent only if it is active, and a success lets it recover only if it is
degraded, so the state changes at single results.  That it is `degraded` exactly while the larger
count is at the threshold is kept by every result all the same (`Tallies`): a failure of one loop
cannot bring the larger count below the threshold, and a success cannot bring it above.
-/

namespace NodeFleet

theorem LoopKind.other_ne (kind : LoopKind) : kind.other ≠ kind := by
  cases kind <;> decide

namespace Tracker

/-! ## Histories of calls -/

/-- A call that is not interrupted, with what is shown at that time. -/
structure WholeCall where
  call : Call
  shown : Telemetry
  now : Timestamp

/-- The tracker after some calls, the last of them first. -/
def after (t : Tracker) (calls : List WholeCall) : Tracker :=
  calls.foldr (fun c t => (t.complete c.shown c.now c.call).2.1) t

/-- What a loop has to record. -/
structure LoopResult where
  kind : LoopKind
  isFailure : Bool
  shown : Telemetry
  now : Timestamp

/-- The call with which a loop records a result. -/
def LoopResult.whole (result : LoopResult) : WholeCall :=
  { call := if result.isFailure then .recordFailure result.kind else .recordSuccess result.kind
    shown := result.shown
    now := result.now }

/-- The length of the current run of failures of a loop; the last result is the first. -/
def failuresInRow (kind : LoopKind) (results : List LoopResult) : Nat :=
  ((results.filter fun r => r.kind = kind).takeWhile LoopResult.isFailure).length

/-- Whether a result is a failure of a loop. -/
def LoopResult.isFailureOf (kind : LoopKind) (result : LoopResult) : Bool :=
  result.isFailure && result.kind = kind

theorem failuresInRow_failure {result : LoopResult} (hfailure : result.isFailure = true)
    (kind : LoopKind) (earlier : List LoopResult) :
    failuresInRow kind (result :: earlier) =
      failuresInRow kind earlier + if kind = result.kind then 1 else 0 := by
  by_cases hkind : result.kind = kind
  · simp [failuresInRow, hkind, hfailure]
  · simp [failuresInRow, hkind, Ne.symm hkind]

theorem failuresInRow_success {result : LoopResult} (hsuccess : result.isFailure = false)
    (kind : LoopKind) (earlier : List LoopResult) :
    failuresInRow kind (result :: earlier) =
      if kind = result.kind then 0 else failuresInRow kind earlier := by
  by_cases hkind : result.kind = kind
  · simp [failuresInRow, hkind, hsuccess]
  · simp [failuresInRow, hkind, Ne.symm hkind]

/-- There are no more failures in a row than failures. -/
theorem failuresInRow_le (kind : LoopKind) (results : List LoopResult) :
    failuresInRow kind results ≤ results.countP (LoopResult.isFailureOf kind) := by
  let own := results.filter fun r => r.kind = kind
  have hall : ∀ r ∈ own.takeWhile LoopResult.isFailure, r.isFailure = true :=
    List.all_eq_true.1 List.all_takeWhile
  calc failuresInRow kind results
      = (own.takeWhile LoopResult.isFailure).countP LoopResult.isFailure :=
        (List.countP_eq_length.2 hall).symm
    _ ≤ own.countP LoopResult.isFailure := (List.takeWhile_sublist _).countP_le
    _ = results.countP (LoopResult.isFailureOf kind) := List.countP_filter

/-! ## What a call changes -/

section Change

variable {t : Tracker} {shown : Telemetry} {now : Timestamp} {count : Nat}

theorem threshold_moveWhen (guard : AgentState → Bool) (target : AgentState) :
    (t.moveWhen guard target shown now).2.1.threshold = t.threshold := by
  unfold moveWhen
  split_ifs <;> rfl

theorem state_degradeAt : (t.degradeAt count shown now).1.state =
    if t.threshold ≤ count ∧ t.state = .active then .degraded else t.state := by
  rw [degradeAt_fst]
  split_ifs <;> rfl

theorem state_recoverBelow : (t.recoverBelow count shown now).1.state =
    if count < t.threshold ∧ t.state = .degraded then .active else t.state := by
  rw [recoverBelow_fst]
  split_ifs <;> rfl

/-- No call changes the threshold. -/
theorem threshold_advance (stage : Stage) :
    (t.advance shown now stage).2.1.threshold = t.threshold := by
  cases stage with
  | moving target => exact threshold_moveWhen _ target
  | movingFrom source target => exact threshold_moveWhen _ target
  | failing kind => exact t.setFailures_threshold kind _
  | degrading count => exact t.threshold_degradeAt count shown now
  | succeeding kind => exact t.setFailures_threshold kind _
  | recovering count => exact t.threshold_recoverBelow count shown now
  | announcing => rfl
  | comparing kind => rfl
  | resetting => rfl
  | resettingStatus => rfl
  | returned answer => rfl

theorem threshold_after (calls : List WholeCall) : (t.after calls).threshold = t.threshold := by
  induction calls with
  | nil => rfl
  | cons call earlier ih =>
      have hcall : ((t.after earlier).complete call.shown call.now call.call).2.1.threshold =
          (t.after earlier).threshold := by
        unfold complete
        simp only [threshold_advance]
      exact hcall.trans ih

end Change

/-! ## Results -/

/-- What holds of a tracker in which the loops have recorded some results since the registration:
each count is the length of the current run of failures, and the agent is degraded exactly while
the larger count is at the threshold. -/
structure Tallies (t : Tracker) (results : List LoopResult) : Prop where
  failures_eq : ∀ kind, t.failures kind = failuresInRow kind results
  state_eq : t.state = if t.threshold ≤ t.consecutiveFailures then .degraded else .active

variable {t : Tracker} {results : List LoopResult} {result : LoopResult}

theorem consecutiveFailures_eq (t : Tracker) (kind : LoopKind) :
    t.consecutiveFailures = max (t.failures kind) (t.failures kind.other) := by
  cases kind with
  | heartbeat => rfl
  | statusSync => exact Nat.max_comm _ _

theorem Tallies.state_cases (h : Tallies t results) :
    t.state = .active ∨ t.state = .degraded := by
  rw [h.state_eq]
  split_ifs
  · exact .inr rfl
  · exact .inl rfl

theorem failures_countFailure {kind : LoopKind} (hfew : t.failures kind + 1 < countSpan)
    (other : LoopKind) :
    (t.countFailure kind).failures other =
      t.failures other + if other = kind then 1 else 0 := by
  rw [countFailure, failures_setFailures, Nat.mod_eq_of_lt hfew]
  split_ifs with hother
  · rw [hother]
  · rfl

/-- A failure makes the run of its loop longer, and degrades an active agent at the threshold. -/
theorem Tallies.failure (h : Tallies t results) (hfailure : result.isFailure = true)
    (hfew : (result :: results).countP (LoopResult.isFailureOf result.kind) < countSpan) :
    (t.complete result.shown result.now result.whole.call).1 =
        .returned (.count (failuresInRow result.kind (result :: results))) ∧
      Tallies (t.complete result.shown result.now result.whole.call).2.1 (result :: results) := by
  have hcall : result.whole.call = .recordFailure result.kind := if_pos hfailure
  have hless : t.failures result.kind + 1 < countSpan := by
    have hle := failuresInRow_le result.kind (result :: results)
    rw [failuresInRow_failure hfailure, if_pos rfl, ← h.failures_eq] at hle
    omega
  have hcount := failures_countFailure hless
  have hown := hcount result.kind
  have hother := hcount result.kind.other
  rw [if_pos rfl] at hown
  rw [if_neg result.kind.other_ne, Nat.add_zero] at hother
  rw [hcall, complete_eq]
  simp only [recordFailure, hown]
  constructor
  · rw [failuresInRow_failure hfailure, if_pos rfl, h.failures_eq]
  constructor
  · intro kind
    rw [failures_degradeAt, hcount, failuresInRow_failure hfailure, h.failures_eq]
  · have hbefore := h.state_eq
    rw [consecutiveFailures_eq t result.kind] at hbefore
    rw [consecutiveFailures_eq _ result.kind, failures_degradeAt, failures_degradeAt, hown, hother,
      threshold_degradeAt, state_degradeAt, countFailure, setFailures_threshold, setFailures_state]
    by_cases hfull : t.threshold ≤ t.failures result.kind + 1
    · rw [if_pos (Nat.le_trans hfull (Nat.le_max_left _ _))]
      rcases h.state_cases with hactive | hdegraded
      · exact if_pos ⟨hfull, hactive⟩
      · rw [hdegraded, ite_self]
    · -- The run of this loop is too short to matter, before and after.
      have hiff : t.threshold ≤ max (t.failures result.kind + 1) (t.failures result.kind.other) ↔
          t.threshold ≤ max (t.failures result.kind) (t.failures result.kind.other) := by
        omega
      rw [if_neg fun hboth => hfull hboth.1, hbefore]
      simp only [hiff]

/-- A success ends the run of its loop, and lets a degraded agent recover unless the other loop is
at the threshold. -/
theorem Tallies.success (h : Tallies t results) (hsuccess : result.isFailure = false) :
    Tallies (t.complete result.shown result.now result.whole.call).2.1 (result :: results) := by
  have hcall : result.whole.call = .recordSuccess result.kind :=
    if_neg (Bool.eq_false_iff.1 hsuccess)
  have hclear : ∀ kind, (t.clearFailures result.kind).failures kind =
      if kind = result.kind then 0 else t.failures kind :=
    fun kind => failures_setFailures t result.kind kind 0
  have hown := hclear result.kind
  have hother := hclear result.kind.other
  rw [if_pos rfl] at hown
  rw [if_neg result.kind.other_ne] at hother
  rw [hcall, complete_eq]
  simp only [recordSuccess, hother]
  constructor
  · intro kind
    rw [failures_recoverBelow, hclear, failuresInRow_success hsuccess, h.failures_eq]
  · have hbefore := h.state_eq
    rw [consecutiveFailures_eq t result.kind] at hbefore
    rw [consecutiveFailures_eq _ result.kind, failures_recoverBelow, failures_recoverBelow, hown,
      hother, threshold_recoverBelow, state_recoverBelow, clearFailures, setFailures_threshold,
      setFailures_state, Nat.zero_max]
    by_cases hfull : t.threshold ≤ t.failures result.kind.other
    · rw [if_pos (Nat.le_trans hfull (Nat.le_max_right _ _))] at hbefore
      rw [if_pos hfull, if_neg fun hboth => Nat.not_lt.2 hfull hboth.1]
      exact hbefore
    · rw [if_neg hfull]
      rcases h.state_cases with hactive | hdegraded
      · rw [hactive, ite_self]
      · exact if_pos ⟨Nat.lt_of_not_le hfull, hdegraded⟩

/-! ## Registrations -/

/-- An agent that becomes active after all failures were forgotten starts at zero. -/
theorem tallies_activated (hpos : 1 ≤ t.threshold) (hstate : t.state = .registering)
    (shown : Telemetry) (now : Timestamp) :
    Tallies (t.resetFailures.move .active shown now).2.1 [] := by
  have hactive : (t.resetFailures.move .active shown now).2.1 =
      { t.resetFailures with state := .active } := by
    simp [move, moveWhen, canMove, resetFailures, hstate, AgentState.canMoveTo]
  rw [hactive]
  constructor
  · intro kind
    cases kind <;> rfl
  · exact (if_neg (Nat.not_le.2 hpos)).symm

theorem tallies_beginLoops {a : Agent} (hpos : 1 ≤ a.tracker.threshold)
    (hstate : a.state = .registering) (identity : Identity) (version : Nat) (site : Site) :
    Tallies (a.beginLoops identity version site).1.tracker [] :=
  tallies_activated (t := a.tracker.setRegistered identity _) hpos hstate _ site.wall

theorem threshold_beginLoops {a : Agent} (identity : Identity) (version : Nat) (site : Site) :
    (a.beginLoops identity version site).1.tracker.threshold = a.tracker.threshold :=
  threshold_moveWhen _ .active

/-- Every result keeps the counts exact and the state level with them. -/
theorem Tallies.run (h : Tallies t [])
    (hfew : ∀ kind, results.countP (LoopResult.isFailureOf kind) < countSpan) :
    Tallies (t.after (results.map LoopResult.whole)) results := by
  induction results with
  | nil => exact h
  | cons result earlier ih =>
      have hearlier : Tallies (t.after (earlier.map LoopResult.whole)) earlier := by
        apply ih
        intro kind
        exact Nat.lt_of_le_of_lt (List.sublist_cons_self result earlier).countP_le (hfew kind)
      cases hresult : result.isFailure with
      | true => exact (hearlier.failure hresult (hfew result.kind)).2
      | false => exact hearlier.success hresult

/-- The counts of an agent are its failures in a row, and its state follows them.  Whenever an
agent registers, whatever was recorded before, from then on each count is the length of the current
run of failures of its loop, a failure returns that length, and the agent is degraded if and only
if the longer of the two runs is at the threshold. -/
theorem failures_in_row_exact (a : Agent) (hpos : 1 ≤ a.tracker.threshold)
    (hstate : a.state = .registering) (identity : Identity) (version : Nat) (site : Site)
    (results : List LoopResult)
    (hfew : ∀ kind, results.countP (LoopResult.isFailureOf kind) < countSpan) :
    let registered := (a.beginLoops identity version site).1.tracker
    let reached (recorded : List LoopResult) := registered.after (recorded.map LoopResult.whole)
    ∀ recorded, recorded <:+ results →
      (∀ kind, (reached recorded).failures kind = failuresInRow kind recorded) ∧
      ((reached recorded).state = .degraded ↔ a.tracker.threshold ≤
        max (failuresInRow .heartbeat recorded) (failuresInRow .statusSync recorded)) ∧
      ((reached recorded).state = .active ∨ (reached recorded).state = .degraded) ∧
      ∀ result before, recorded = result :: before → result.isFailure = true →
        ((reached before).complete result.shown result.now (.recordFailure result.kind)).1 =
          .returned (.count (failuresInRow result.kind recorded)) := by
  intro registered reached recorded hsuffix
  have hregistered : Tallies registered [] := tallies_beginLoops hpos hstate identity version site
  have htallies : ∀ recorded, recorded <:+ results → Tallies (reached recorded) recorded := by
    intro recorded hsuffix
    apply hregistered.run
    intro kind
    exact Nat.lt_of_le_of_lt hsuffix.sublist.countP_le (hfew kind)
  have hrecorded := htallies recorded hsuffix
  refine ⟨hrecorded.failures_eq, ?_, hrecorded.state_cases, ?_⟩
  · have hcount : (reached recorded).consecutiveFailures =
        max (failuresInRow .heartbeat recorded) (failuresInRow .statusSync recorded) := by
      rw [← hrecorded.failures_eq, ← hrecorded.failures_eq]
      rfl
    rw [hrecorded.state_eq, hcount, threshold_after, threshold_beginLoops]
    split_ifs with hfull <;> simp [hfull]
  · rintro result before rfl hfailure
    have hbefore := htallies before ((List.suffix_cons result before).trans hsuffix)
    have hcall : result.whole.call = .recordFailure result.kind := if_pos hfailure
    rw [← hcall]
    exact (hbefore.failure hfailure
      (Nat.lt_of_le_of_lt hsuffix.sublist.countP_le (hfew result.kind))).1

/-- An agent that was degraded when it lost its identity starts again at zero.  Then the heartbeat
recovers, but the status loop goes on failing. -/
theorem failures_in_row_after_loss :
    let profile : Profile := ⟨1000, 1000, 0, 0, 10, ⟨0, 24⟩⟩
    let setup : AgentSetup := ⟨"node", profile, 10, ⟨10, 60, 1⟩, ⟨2, 1, 8, 5⟩, 30⟩
    let site := Site.create (.empty 0) ⟨0, 0⟩
    let fail (kind : LoopKind) : LoopResult := ⟨kind, true, .empty, ⟨0, 0⟩⟩
    let succeed (kind : LoopKind) : LoopResult := ⟨kind, false, .empty, ⟨0, 0⟩⟩
    let registering := ((Agent.create setup).move .registering site).1
    let working := (registering.beginLoops ⟨"node", "uid-0", 0⟩ 1 site).1
    let failures := [fail .heartbeat, fail .heartbeat].map LoopResult.whole
    let degraded := { working with tracker := working.tracker.after failures }
    let lost := (degraded.move .registering site).1
    let results := [fail .statusSync, succeed .heartbeat, fail .statusSync, fail .heartbeat]
    let t := (lost.beginLoops ⟨"node", "uid-1", 1⟩ 2 site).1.tracker.after
      (results.map LoopResult.whole)
    degraded.state = .degraded ∧ lost.tracker.failures .heartbeat = 2 ∧
      t.failures .heartbeat = 0 ∧ t.failures .statusSync = 2 ∧ t.state = .degraded := by
  intro profile setup site fail succeed registering working failures degraded lost results t
  have hfew : ∀ kind, results.countP (LoopResult.isFailureOf kind) < countSpan := by
    intro kind
    cases kind <;> decide
  have hthreshold : lost.tracker.threshold = 2 := by decide +kernel
  have hheartbeat : failuresInRow .heartbeat results = 0 := by decide +kernel
  have hstatus : failuresInRow .statusSync results = 2 := by decide +kernel
  obtain ⟨hfailures, hdegraded, -, -⟩ := failures_in_row_exact lost (by decide +kernel)
    (by decide +kernel) ⟨"node", "uid-1", 1⟩ 2 site results hfew results List.suffix_rfl
  rw [hthreshold, hheartbeat, hstatus] at hdegraded
  exact ⟨by decide +kernel, by decide +kernel, (hfailures .heartbeat).trans hheartbeat,
    (hfailures .statusSync).trans hstatus, hdegraded.2 (by decide)⟩

end Tracker

end NodeFleet
