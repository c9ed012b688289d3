import NodeFleet.Proofs.Agent.Frame
import NodeFleet.Proofs.Agent.Lifecycle
import NodeFleet.Proofs.Agent.Turn

/-!
# Agents that were told to end

Once an agent is told to end, nothing in it waits for an answer any more, except a
deregistration, and that is given up after the limit of a call.  So the clock stands still
until the task is deregistering or has ended (`exists_due`), and if a stop call has
waited for the task since some instant then the task has ended one limit later.

On the way each actor that is due does something that was left to do, and there is never
more left to do than seven steps (`act_remaining_lt`, `remaining_le`).
-/

namespace NodeFleet

namespace Agent

variable {a : Agent} {site : Site}

theorem isCancelled_act (h : a.isCancelled = true) (actor : Actor) (site : Site) :
    (a.act actor site).1.isCancelled = true :=
  (a.act_keeps site actor).2.2.trans h

end Agent

/-! ## The stage of a task that is waited for -/

/-- Whether a task that a stop call has waited for since an instant is on time.  The clock stands
still until the task deregisters. -/
def Stage.IsOnTime (limit : Duration) (since now : Instant) : Stage → Prop
  | .deregistering _ call => call.begun ≤ since ∧ call.limit = limit ∧ now ≤ max since call.endsAt
  | .finished => now ≤ since + limit
  | .aborted => False
  | _ => now ≤ since

section OnTime

variable {limit : Duration} {since now : Instant} {stage : Stage}

theorem Call.endsAt_le (call : Call) : call.endsAt ≤ call.begun + call.limit :=
  Nat.min_le_right _ _

theorem Stage.IsOnTime.le_limit (h : stage.IsOnTime limit since now) : now ≤ since + limit := by
  cases stage with
  | deregistering identity call =>
      obtain ⟨hbegun, hlimit, hends⟩ := h
      have hle := call.endsAt_le
      lia
  | finished => exact h
  | aborted => exact h.elim
  | _ => exact Nat.le_add_right_of_le h

end OnTime

namespace Agent

section Steps

variable {a : Agent} {site : Site} {limit : Duration} {since now : Instant}

/-- A step of the task or of a loop leaves the task on time. -/
theorem act_isOnTime (hlimit : a.setup.retry.callTimeout = limit) {actor : Actor}
    (hactor : actor ≠ .stopper) (h : a.stage.IsOnTime limit since site.now) :
    (a.act actor site).1.stage.IsOnTime limit since site.now := by
  have hfinished (hnow : site.now ≤ since) : Stage.finished.IsOnTime limit since site.now :=
    Nat.le_add_right_of_le hnow
  have hstep := a.act_step site actor
  generalize a.act actor site = later at hstep ⊢
  cases hstep with
  | taskIdle | heartbeatIdle | statusSyncIdle => exact h
  | released | abandoned => exact absurd rfl hactor
  | declined hstage | quitWaiting hstage | quitRegistering hstage | quitRetrying hstage =>
      rw [hstage] at h
      exact hfinished h
  | @settled attempt call hstage =>
      rw [hstage] at h
      cases (site.settleRegister call attempt.identity a.setup.profile).1 <;> exact h
  | leaving hstage =>
      -- A deregistration begins while the clock stands still.
      rw [hstage] at h
      exact ⟨h, hlimit, Nat.le_trans h (Nat.le_max_left _ _)⟩
  | left hstage =>
      rw [hstage] at h
      exact h.le_limit
  | entered hstage | attempted hstage | repeated hstage | joined hstage | lost hstage
  | heartbeatHalted hstage | heartbeatWorked hstage | statusSyncHalted hstage
  | statusSyncWorked hstage =>
      rw [hstage] at h
      exact h

/-! ## Waiting for what is due -/

/-- As long as a stop call waits, something is due before the limit of a call has passed, and the
task stays on time while it is waited for. -/
theorem exists_due (h : a.stage.IsOnTime limit since now) (hcancelled : a.isCancelled = true)
    {deadline : Instant} (hhandle : a.handle = .awaited deadline) :
    ∃ actor due, a.due? actor = some due ∧ due ≤ since + limit ∧
      ∀ instant ≤ max due now, a.stage.IsOnTime limit since (max now instant) := by
  have hzero : 0 ≤ since + limit := Nat.zero_le _
  -- Nothing but a deregistration takes time, so the clock is held by whatever is due at once.
  have hstill {actor : Actor} (hdue : a.due? actor = some 0) :
      ∃ actor due, a.due? actor = some due ∧ due ≤ since + limit ∧
        ∀ instant ≤ max due now, a.stage.IsOnTime limit since (max now instant) := by
    refine ⟨actor, 0, hdue, hzero, fun instant hinstant => ?_⟩
    rw [Nat.zero_max] at hinstant
    rw [Nat.max_eq_left hinstant]
    exact h
  cases hstage : a.stage with
  | deregistering identity call =>
      rw [hstage] at h
      obtain ⟨hbegun, hlimit, hends⟩ := h
      have hle := call.endsAt_le
      have hdue : a.due? .task = some call.endsAt := by simp [due?, taskDue?, hstage]
      refine ⟨.task, call.endsAt, hdue, by lia, fun instant hinstant => ?_⟩
      exact ⟨hbegun, hlimit, by lia⟩
  | finished =>
      have hdue : a.due? .stopper = some 0 := by simp [due?, hhandle, isFinished, hstage]
      exact hstage ▸ hstill hdue
  | aborted => simp [hstage, Stage.IsOnTime] at h
  | running loops =>
      obtain ⟨identity, anchor, heartbeat, statusSync, lost⟩ := loops
      have hheartbeat {loop : Heartbeat} (hslot : heartbeat = .running loop) :
          a.due? .heartbeat = some 0 := by
        simp [due?, hstage, hslot, hcancelled]
      have hstatusSync {loop : StatusSync} (hslot : statusSync = .running loop) :
          a.due? .statusSync = some 0 := by
        simp [due?, hstage, hslot, hcancelled]
      have htask (hreturned : (heartbeat.isReturned || statusSync.isReturned ||
          (heartbeat.isJoined && statusSync.isJoined)) = true) : a.due? .task = some 0 := by
        simp only [due?, taskDue?, hstage, hreturned, if_true]
      rw [← hstage]
      cases heartbeat with
      | running loop => exact hstill (hheartbeat rfl)
      | returned exit => exact hstill (htask rfl)
      | joined =>
          cases statusSync with
          | running loop => exact hstill (hstatusSync rfl)
          | returned exit => exact hstill (htask rfl)
          | joined => exact hstill (htask rfl)
  | _ =>
      have hdue : a.due? .task = some 0 := by
        simp [due?, taskDue?, hstage, unlessCancelled, hcancelled]
      exact hstage ▸ hstill hdue

end Steps

end Agent

/-! ## What is left to do -/

/-- What is left to do for a loop until its return is noted. -/
def LoopSlot.remaining {α : Type} : LoopSlot α → Nat
  | .running _ => 2
  | .returned _ => 1
  | .joined => 0

/-- What is left to do for the task of an agent that was told to end. -/
def Stage.remaining : Stage → Nat
  | .running loops => loops.heartbeat.remaining + loops.statusSync.remaining + 2
  | .finished | .aborted => 0
  | _ => 1

/-- What is left to do for the stop call. -/
def TaskHandle.remaining : TaskHandle → Nat
  | .awaited _ => 1
  | _ => 0

theorem LoopSlot.remaining_le {α : Type} (slot : LoopSlot α) : slot.remaining ≤ 2 := by
  cases slot <;> simp [LoopSlot.remaining]

theorem LoopSlot.remaining_noted {α : Type} (slot : LoopSlot α) :
    slot.noted.remaining ≤ slot.remaining ∧
      (slot.isReturned = true → slot.noted.remaining < slot.remaining) := by
  cases slot <;> simp [noted, LoopSlot.remaining, isReturned]

/-- Taking note of a return is something that was left to do. -/
theorem Loops.join_remaining_lt {loops : Loops}
    (h : loops.heartbeat.isReturned = true ∨ loops.statusSync.isReturned = true) :
    loops.join.heartbeat.remaining + loops.join.statusSync.remaining <
      loops.heartbeat.remaining + loops.statusSync.remaining := by
  obtain ⟨hheartbeat, hheartbeatReturned⟩ := loops.heartbeat.remaining_noted
  obtain ⟨hstatusSync, hstatusSyncReturned⟩ := loops.statusSync.remaining_noted
  simp only [loops.join_eq]
  rcases h with hreturned | hreturned
  · exact Nat.add_lt_add_of_lt_of_le (hheartbeatReturned hreturned) hstatusSync
  · exact Nat.add_lt_add_of_le_of_lt hheartbeat (hstatusSyncReturned hreturned)

namespace Agent

/-- What is left to do until an agent has ended and the stop call has returned. -/
def remaining (a : Agent) : Nat :=
  a.stage.remaining + a.handle.remaining

variable {a : Agent} {site : Site}

theorem remaining_le (a : Agent) : a.remaining ≤ 7 := by
  have hstage : a.stage.remaining ≤ 6 := by
    cases a.stage with
    | running loops =>
        have hheartbeat := loops.heartbeat.remaining_le
        have hstatusSync := loops.statusSync.remaining_le
        simp only [Stage.remaining]
        omega
    | _ => simp [Stage.remaining]
  have hhandle : a.handle.remaining ≤ 1 := by cases a.handle <;> simp [TaskHandle.remaining]
  exact Nat.add_le_add hstage hhandle

/-- The task of running loops is due because of a return, unless both returns are noted. -/
theorem isReturned_of_taskDue {loops : Loops} (hstage : a.stage = .running loops)
    (hjoined : (loops.join.heartbeat.isJoined && loops.join.statusSync.isJoined) = false)
    {due : Instant} (hdue : a.taskDue? = some due) :
    loops.heartbeat.isReturned = true ∨ loops.statusSync.isReturned = true := by
  by_contra hnone
  obtain ⟨hheartbeat, hstatusSync⟩ := not_or.1 hnone
  rw [Bool.not_eq_true] at hheartbeat hstatusSync
  simp only [taskDue?, hstage, hheartbeat, hstatusSync, Bool.false_or] at hdue
  split_ifs at hdue with hboth
  obtain ⟨identity, anchor, heartbeat, statusSync, lost⟩ := loops
  cases heartbeat <;> cases statusSync <;>
    simp_all [LoopSlot.isJoined, LoopSlot.isReturned, Loops.join]

theorem due?_heartbeat_of_idle
    (hidle : ∀ loops h, a.stage = .running loops → loops.heartbeat ≠ .running h) :
    a.due? .heartbeat = none := by
  simp only [due?]
  split
  · exact absurd rfl (hidle _ _ ‹_›)
  · rfl

theorem due?_statusSync_of_idle
    (hidle : ∀ loops s, a.stage = .running loops → loops.statusSync ≠ .running s) :
    a.due? .statusSync = none := by
  simp only [due?]
  split
  · exact absurd rfl (hidle _ _ ‹_›)
  · rfl

theorem handle_remaining_of_due {due : Instant} (hdue : a.due? .stopper = some due) :
    a.handle.remaining = 1 := by
  cases hhandle : a.handle with
  | awaited deadline => rfl
  | _ => simp [due?, hhandle] at hdue

/-- Each actor that is due does something that was left to do. -/
theorem act_remaining_lt (hcancelled : a.isCancelled = true) {actor : Actor} {due : Instant}
    (hdue : a.due? actor = some due) : (a.act actor site).1.remaining < a.remaining := by
  -- Whatever is done only by an agent that goes on is not done any more.
  have hgone {later : Agent} (hkept : a.isCancelled = false) : later.remaining < a.remaining := by
    simp [hkept] at hcancelled
  have hidle {later : Agent} (hnone : a.due? actor = none) : later.remaining < a.remaining := by
    simp [hnone] at hdue
  have hstep := a.act_step site actor
  generalize a.act actor site = later at hstep ⊢
  cases hstep with
  | entered _ hkept | attempted _ hkept | settled _ hkept | repeated _ hkept | lost _ _ hkept =>
      exact hgone hkept
  | heartbeatWorked _ _ hkept | statusSyncWorked _ _ hkept =>
      exact hgone (Bool.or_eq_false_iff.1 hkept).1
  | taskIdle hover =>
      rcases hover with hstage | hstage <;> exact hidle (by simp [due?, taskDue?, hstage])
  | heartbeatIdle hslot => exact hidle (due?_heartbeat_of_idle hslot)
  | statusSyncIdle hslot => exact hidle (due?_statusSync_of_idle hslot)
  | declined hstage | quitWaiting hstage | quitRegistering hstage | quitRetrying hstage
  | left hstage =>
      rw [remaining, remaining, hstage]
      exact Nat.add_lt_add_right Nat.one_pos _
  | joined hstage hjoined =>
      have hlt := Loops.join_remaining_lt (isReturned_of_taskDue hstage hjoined hdue)
      rw [remaining, remaining, hstage]
      exact Nat.add_lt_add_right (Nat.add_lt_add_right hlt 2) _
  | @leaving loops hstage =>
      have hlt : 1 < loops.heartbeat.remaining + loops.statusSync.remaining + 2 := by omega
      rw [remaining, remaining, hstage]
      exact Nat.add_lt_add_right hlt _
  | heartbeatHalted hstage hslot | statusSyncHalted hstage hslot =>
      rw [remaining, remaining, hstage]
      simp only [Stage.remaining, hslot, LoopSlot.remaining]
      omega
  | released =>
      rw [remaining, remaining, handle_remaining_of_due hdue]
      exact Nat.lt_succ_self _
  | abandoned =>
      rw [remaining, remaining, handle_remaining_of_due hdue]
      exact Nat.succ_pos _

end Agent

end NodeFleet
