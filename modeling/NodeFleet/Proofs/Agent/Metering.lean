import Mathlib.Algebra.BigOperators.Group.List.Basic
import Mathlib.Algebra.GroupWithZero.Nat
import Mathlib.Data.List.Induction
import Mathlib.Tactic.SplitIfs
import NodeFleet.Proofs.Agent.Run

/-!
# Calls in the metrics

The outcome of a call is counted on many branches: by the task for registrations, by the two
loops for renewals and publications, and each of them counts the latency besides.  A call
that is dropped because the agent is told to end is counted nowhere.

`Site.Books` keeps the books of a step: which series were counted, and what became of the
control plane.  `act_books` says that a step either books nothing, or settles the call that
its actor had in flight and then books `Operation.tally`, the latency and one outcome.
-/

namespace NodeFleet

/-! ## The series of a call -/

/-- The series that count the outcomes of an operation, by the error if there was one. -/
def Operation.outcome (operation : Operation) (failure : Option CallError) : List Series :=
  match operation, failure with
  | .register, failure => [.registrations (failure.map CallError.kind)]
  | .renewLease, none => [.leaseRenewals .success]
  | .renewLease, some error =>
      [.leaseRenewals (if error.isIdentityLost then .superseded else .failure)]
  | .publishStatus, none => [.statusPublishes .published]
  | .publishStatus, some error =>
      [.statusPublishes (if error.isIdentityLost then .superseded else .failed)]
  | .deregister, _ => []

/-- The series in which a call is counted once it has ended. -/
def Operation.tally (operation : Operation) (failure : Option CallError) : List Series :=
  operation.outcome failure ++ [.callLatency operation]

/-- Whether a series counts calls. -/
def Series.countsCalls : Series → Bool
  | .callLatency _ => true
  | .registrations _ => true
  | .leaseRenewals _ => true
  | .statusPublishes outcome => outcome ≠ .skipped
  | _ => false

/-- What a series has come to. -/
def Site.count (s : Site) (series : Series) : Int := s.telemetry.metrics.count series

theorem Site.count_increment (s : Site) (series other : Series) :
    (s.increment series).count other = s.count other + if series = other then 1 else 0 :=
  Metrics.count_add _ series other 1

/-! ## Sites -/

namespace Site

/-- The calls that were counted between two moments, and the control plane at the second. -/
structure Books (before after : Site) (plane : ControlPlane) (booked : List Series) : Prop where
  count_eq : ∀ series, series.countsCalls = true →
    after.count series = before.count series + booked.count series
  plane_eq : after.plane = plane

namespace Books

variable {x s : Site} {t : Tracker} {plane : ControlPlane} {booked : List Series}

theorem refl (x : Site) : Books x x x.plane [] := ⟨fun _ _ => (Int.add_zero _).symm, rfl⟩

/-- Neither the calls that were counted nor the control plane change. -/
theorem keep {later : Site} (h : Books x s plane booked)
    (hcount : ∀ series, series.countsCalls = true → later.count series = s.count series)
    (hplane : later.plane = s.plane) : Books x later plane booked :=
  ⟨fun series hcalls => (hcount series hcalls).trans (h.count_eq series hcalls),
    hplane.trans h.plane_eq⟩

theorem increment (h : Books x s plane booked) (series : Series) :
    Books x (s.increment series) plane (series :: booked) := by
  refine ⟨fun other hcalls => ?_, h.plane_eq⟩
  rw [count_increment, h.count_eq other hcalls, List.count_cons]
  simp only [beq_iff_eq]
  split_ifs
  · push_cast
    omega
  · simp

/-- Other series do not count calls. -/
theorem other (h : Books x s plane booked) (series : Series)
    (hother : series.countsCalls = false) : Books x (s.increment series) plane booked := by
  refine h.keep (fun counted hcalls => ?_) rfl
  have hne : series ≠ counted := by
    rintro rfl
    exact Bool.false_ne_true (hother.symm.trans hcalls)
  rw [count_increment, if_neg hne, Int.add_zero]

theorem count_moveAgent (m : Metrics) (source : Option AgentState) (target : AgentState)
    {series : Series} (hcalls : series.countsCalls = true) :
    (m.moveAgent source target).count series = m.count series := by
  have hne (state : AgentState) : Series.agents state ≠ series := by
    rintro rfl
    exact Bool.false_ne_true hcalls
  cases source <;> simp [Metrics.moveAgent, Metrics.increment, Metrics.count_add, hne]

theorem count_moveWhen (guard : AgentState → Bool) (target : AgentState) (shown : Telemetry)
    (now : Timestamp) {series : Series} (hcalls : series.countsCalls = true) :
    (t.moveWhen guard target shown now).2.2.metrics.count series = shown.metrics.count series := by
  unfold Tracker.moveWhen
  split_ifs
  · exact count_moveAgent _ _ _ hcalls
  · rfl

theorem move (h : Books x s plane booked) (t : Tracker) (target : AgentState) :
    Books x (s.move t target).2 plane booked :=
  h.keep (fun _ hcalls => count_moveWhen _ target _ _ hcalls) rfl

theorem recordSuccess (h : Books x s plane booked) (t : Tracker) (kind : LoopKind) :
    Books x (s.recordSuccess t kind).2 plane booked := by
  refine h.keep (fun series hcalls => ?_) rfl
  show (Tracker.recoverBelow _ _ _ _).2.metrics.count series = _
  unfold Tracker.recoverBelow
  split_ifs
  · exact count_moveWhen _ _ _ _ hcalls
  · rfl

theorem recordFailure (h : Books x s plane booked) (t : Tracker) (kind : LoopKind) :
    Books x (s.recordFailure t kind).2 plane booked := by
  refine h.keep (fun series hcalls => ?_) rfl
  show (Tracker.degradeAt _ _ _ _).2.metrics.count series = _
  unfold Tracker.degradeAt
  split_ifs
  · exact count_moveWhen _ _ _ _ hcalls
  · rfl

/-- Settling a call counts nothing by itself. -/
theorem settle {α : Type} (x : Site) (call : Call)
    (complete : ControlPlane → Except CallError α × ControlPlane) :
    Books x (x.settle call complete).2 (x.settle call complete).2.plane [] := by
  refine ⟨fun series _ => ?_, rfl⟩
  unfold Site.settle
  split_ifs <;> exact (Int.add_zero _).symm

theorem heartbeatReport (h : Books x s plane []) (result : Except CallError Nat) (t : Tracker) :
    Books x (Heartbeat.report result t s).2 plane
      (Operation.renewLease.tally (failure? result)) := by
  have hlatency := h.increment (.callLatency .renewLease)
  cases result with
  | ok version => exact (hlatency.increment (.leaseRenewals .success)).recordSuccess _ .heartbeat
  | error error =>
      cases hlost : error.isIdentityLost with
      | true =>
          simp only [Heartbeat.report, hlost, if_true, Operation.tally, Operation.outcome, failure?]
          exact hlatency.increment (.leaseRenewals .superseded)
      | false =>
          simp only [Heartbeat.report, hlost, Bool.false_eq_true, if_false, Operation.tally,
            Operation.outcome, failure?]
          exact (hlatency.increment (.leaseRenewals .failure)).recordFailure t .heartbeat

theorem statusReport (h : Books x s plane []) (result : Except CallError Unit)
    (snapshot : StatusSnapshot) (t : Tracker) :
    Books x (StatusSync.report result snapshot t s).2 plane
      (Operation.publishStatus.tally (failure? result)) := by
  have hlatency := h.increment (.callLatency .publishStatus)
  cases result with
  | ok _ =>
      exact (hlatency.increment (.statusPublishes .published)).recordSuccess _ .statusSync
  | error error =>
      cases hlost : error.isIdentityLost with
      | true =>
          simp only [StatusSync.report, hlost, if_true, Operation.tally, Operation.outcome,
            failure?]
          exact hlatency.increment (.statusPublishes .superseded)
      | false =>
          simp only [StatusSync.report, hlost, Bool.false_eq_true, if_false, Operation.tally,
            Operation.outcome, failure?]
          exact (hlatency.increment (.statusPublishes .failed)).recordFailure t .statusSync

end Books

end Site

/-! ## The log -/

namespace ControlPlane

/-- What the log takes up when a call ends: an answered call as it says, and nothing of one that
was given up. -/
structure Takes (p : ControlPlane) (call : Call) (entry : CallRecord) (later : ControlPlane) :
    Prop where
  logCapacity_eq : later.logCapacity = p.logCapacity
  answered : call.isAnswered = true → later.log = appendBounded p.logCapacity p.log entry
  unanswered : call.isAnswered = false → later.log = p.log ∧ entry.error ≠ none

theorem complete_log {α : Type} (p : ControlPlane) (operation : Operation) (caller : Identity)
    (now : Instant) (effect : Effect α) :
    (p.complete operation caller now effect).2.logCapacity = p.logCapacity ∧
      (p.complete operation caller now effect).2.log = appendBounded p.logCapacity p.log
        ⟨operation, caller.name, caller.uid, now,
          failure? (p.complete operation caller now effect).1⟩ := by
  unfold complete
  obtain ⟨fault, faults⟩ := takeFault operation p.faults
  cases fault with
  | some error => exact ⟨rfl, rfl⟩
  | none =>
      dsimp only
      cases effect p.nodes with
      | error error => exact ⟨rfl, rfl⟩
      | ok done => exact ⟨rfl, rfl⟩

end ControlPlane

theorem Site.settle_takes {α : Type} (s : Site) (call : Call) (operation : Operation)
    (caller : Identity) (effect : ControlPlane.Effect α) :
    let settled := s.settle call fun plane => plane.complete operation caller s.now effect
    s.plane.Takes call ⟨operation, caller.name, caller.uid, s.now, failure? settled.1⟩
      settled.2.plane := by
  intro settled
  obtain ⟨hcapacity, hlog⟩ := s.plane.complete_log operation caller s.now effect
  by_cases hanswered : call.isAnswered = true
  · have hsettled : settled = ((s.plane.complete operation caller s.now effect).1,
        { s with plane := (s.plane.complete operation caller s.now effect).2 }) := if_pos hanswered
    rw [hsettled]
    exact ⟨hcapacity, fun _ => hlog, fun hnot => absurd hanswered (by simp [hnot])⟩
  · have hsettled : settled = (.error (.timeout call.limit), s) := if_neg hanswered
    rw [hsettled]
    exact ⟨rfl, fun h => absurd h hanswered, fun _ => ⟨rfl, nofun⟩⟩

/-! ## Agents -/

namespace Agent

open Site (Books)

/-- The call that an actor has in flight. -/
def call? (a : Agent) (actor : Actor) : Option Call :=
  match a.stage, actor with
  | .registering _ call, .task => some call
  | .deregistering _ call, .task => some call
  | .running loops, .heartbeat => loops.heartbeat.loop?.bind Heartbeat.call
  | .running loops, .statusSync =>
      (loops.statusSync.loop?.bind StatusSync.flight).map Publication.call
  | _, _ => none

section Parts

variable {x s : Site} {plane : ControlPlane} {booked : List Series} (a : Agent)

theorem windUp_books (h : Books x s plane booked) (held : Option Identity) :
    Books x (a.windUp held s).2 plane booked := by
  cases held with
  | some identity => exact h.move a.tracker .terminating
  | none => exact (h.move a.tracker .terminating).move (a.move .terminating s).1.tracker .stopped

theorem beginLoops_books (h : Books x s plane booked) (identity : Identity) (version : Nat) :
    Books x (a.beginLoops identity version s).2 plane booked := by
  have hnoted : Books x (s.note (.registered identity a.setup.profile.podRange.text version))
      plane booked := h.keep (fun _ _ => rfl) rfl
  exact hnoted.move _ .active

theorem afterRegister_books (h : Books x s plane []) (attempt : RegistrationAttempt)
    (result : Except CallError Nat) :
    Books x (a.afterRegister attempt result s).2 plane
      (Operation.register.tally (failure? result)) := by
  have hlatency := h.increment (.callLatency .register)
  cases result with
  | ok version =>
      exact a.beginLoops_books (hlatency.increment (.registrations none)) attempt.identity version
  | error error =>
      have hcounted := hlatency.increment (.registrations (some error.kind))
      simp only [afterRegister, nextAttempt]
      split <;> exact hcounted.keep (fun _ _ => rfl) rfl

theorem afterLoss_books (h : Books x s plane booked) (loops : Loops) (error : CallError) :
    Books x (a.afterLoss loops error s).2 plane booked := by
  have hnoted : Books x (s.note (.superseded loops.identity error.message)) plane booked :=
    h.keep (fun _ _ => rfl) rfl
  exact (hnoted.other .reregistrations rfl).move a.tracker .registering

end Parts

/-- What the log of a control plane says of a call. -/
def Request.entry (request : Request) (now : Instant) : CallRecord :=
  { operation := request.operation
    agent := request.identity.name
    uid := request.identity.uid
    endedAt := now
    error := request.failure }

/-- What a step books: nothing, or the call that its actor had in flight. -/
inductive Booking (a : Agent) (actor : Actor) (site later : Site) : Prop where
  | nothing (hsilent : a.request? site actor = none ∨ a.isDropping = true)
      (hbooks : Books site later site.plane [])
  | settled {call : Call} {request : Request} {plane : ControlPlane}
      (hcall : a.call? actor = some call) (hrequest : a.request? site actor = some request)
      (hkept : a.isDropping = false)
      (hplane : site.plane.Takes call (request.entry site.now) plane)
      (hbooks : Books site later plane (request.operation.tally request.failure))

section Steps

variable (a : Agent) (site : Site)

theorem settled_booking {attempt : RegistrationAttempt} {call : Call}
    (hstage : a.stage = .registering attempt call) (hkept : a.isCancelled = false) :
    let settled := site.settleRegister call attempt.identity a.setup.profile
    Booking a .task site (a.afterRegister attempt settled.1 settled.2).2 := by
  intro settled
  have hcall : a.call? .task = some call := by simp only [call?, hstage]
  have hrequest : a.request? site .task =
      some ⟨.register, attempt.identity, failure? settled.1⟩ := by
    simp only [request?, hstage, settled]
  exact .settled hcall hrequest (by simp only [isDropping, hstage, hkept])
    (site.settle_takes call .register attempt.identity _)
    (a.afterRegister_books (.settle site call _) attempt settled.1)

theorem left_booking {identity : Identity} {call : Call}
    (hstage : a.stage = .deregistering identity call) :
    let settled := site.settleDeregister call identity
    Booking a .task site (a.move .stopped (settled.2.increment (.callLatency .deregister))).2 := by
  intro settled
  have hcall : a.call? .task = some call := by simp only [call?, hstage]
  have hrequest : a.request? site .task = some ⟨.deregister, identity, failure? settled.1⟩ := by
    simp only [request?, hstage, settled]
  have hsettled : Books site settled.2 settled.2.plane [] := .settle site call _
  exact .settled hcall hrequest (by simp only [isDropping, hstage])
    (site.settle_takes call .deregister identity _)
    ((hsettled.increment (.callLatency .deregister)).move a.tracker .stopped)

theorem heartbeat_booking {loops : Loops} {loop : Heartbeat} (hstage : a.stage = .running loops)
    (hslot : loops.heartbeat = .running loop) (hkept : a.isHalting loops = false) :
    Booking a .heartbeat site (loop.act a.tracker site).2.2 := by
  cases hcall : loop.call with
  | none =>
      have hnone : a.request? site .heartbeat = none := by
        simp only [request?, hstage, hslot, LoopSlot.loop?, Option.bind_some, hcall,
          Option.map_none]
      simp only [Heartbeat.act, hcall]
      exact .nothing (.inl hnone) (Books.refl site)
  | some call =>
      have hflying : a.call? .heartbeat = some call := by
        simp only [call?, hstage, hslot, LoopSlot.loop?, Option.bind_some, hcall]
      have hrequest : a.request? site .heartbeat = some (renewal site loop call) := by
        simp only [request?, hstage, hslot, LoopSlot.loop?, Option.bind_some, hcall,
          Option.map_some]
      simp only [Heartbeat.act, hcall]
      exact .settled hflying hrequest (by simp only [isDropping, hstage, hkept])
        (site.settle_takes call .renewLease loop.identity _)
        ((Books.settle site call _).heartbeatReport _ a.tracker)

theorem statusSync_booking {loops : Loops} {loop : StatusSync} (hstage : a.stage = .running loops)
    (hslot : loops.statusSync = .running loop) (hkept : a.isHalting loops = false) :
    Booking a .statusSync site (loop.act a.setup.profile a.ledger a.tracker site).2.2 := by
  cases hflight : loop.flight with
  | none =>
      have hnone : a.request? site .statusSync = none := by
        simp only [request?, hstage, hslot, LoopSlot.loop?, Option.bind_some, hflight,
          Option.map_none]
      refine .nothing (.inl hnone) ?_
      simp only [StatusSync.act, hflight, StatusSync.tick]
      split_ifs
      · exact .refl site
      · exact (Books.refl site).other (.statusPublishes .skipped) rfl
  | some flight =>
      have hflying : a.call? .statusSync = some flight.call := by
        simp only [call?, hstage, hslot, LoopSlot.loop?, Option.bind_some, hflight,
          Option.map_some]
      have hrequest : a.request? site .statusSync = some (publication site loop flight) := by
        simp only [request?, hstage, hslot, LoopSlot.loop?, Option.bind_some, hflight,
          Option.map_some]
      simp only [StatusSync.act, hflight]
      exact .settled hflying hrequest (by simp only [isDropping, hstage, hkept])
        (site.settle_takes flight.call .publishStatus loop.identity _)
        ((Books.settle site flight.call _).statusReport _ flight.snapshot a.tracker)

/-- Every step books nothing or one call. -/
theorem act_booking (actor : Actor) : Booking a actor site (a.act actor site).2 := by
  have h := Books.refl site
  have hannounced : Books site (a.announced site) site.plane [] :=
    h.keep (fun _ hcalls => Books.count_moveAgent _ _ _ hcalls) rfl
  have hstep := a.act_step site actor
  generalize a.act actor site = later at hstep ⊢
  cases hstep with
  | declined hstage =>
      refine .nothing (.inl (by simp only [request?, hstage])) ?_
      exact a.windUp_books hannounced none
  | entered hstage =>
      refine .nothing (.inl (by simp only [request?, hstage])) ?_
      exact (hannounced.move a.tracker .registering).keep (fun _ _ => rfl) rfl
  | quitWaiting hstage | quitRetrying hstage =>
      exact .nothing (.inl (by simp only [request?, hstage])) (a.windUp_books h none)
  | quitRegistering hstage hcancelled =>
      refine .nothing (.inr ?_) (a.windUp_books h none)
      simp only [isDropping, hstage, hcancelled]
  | attempted hstage | repeated hstage =>
      refine .nothing (.inl (by simp only [request?, hstage])) ?_
      exact h.keep (fun _ _ => rfl) rfl
  | settled hstage hkept => exact a.settled_booking site hstage hkept
  | joined hstage => exact .nothing (.inl (by simp only [request?, hstage])) h
  | leaving hstage =>
      exact .nothing (.inl (by simp only [request?, hstage])) (a.windUp_books h _)
  | lost hstage =>
      exact .nothing (.inl (by simp only [request?, hstage])) (a.afterLoss_books h _ _)
  | left hstage => exact a.left_booking site hstage
  | heartbeatHalted hstage _ hhalting | statusSyncHalted hstage _ hhalting =>
      exact .nothing (.inr (by simp only [isDropping, hstage, hhalting])) h
  | heartbeatWorked hstage hslot hkept => exact a.heartbeat_booking site hstage hslot hkept
  | statusSyncWorked hstage hslot hkept => exact a.statusSync_booking site hstage hslot hkept
  | taskIdle hidle => exact .nothing (.inl (request?_task_of_idle hidle)) h
  | heartbeatIdle hidle => exact .nothing (.inl (request?_heartbeat_of_idle hidle)) h
  | statusSyncIdle hidle => exact .nothing (.inl (request?_statusSync_of_idle hidle)) h
  | released | abandoned => exact .nothing (.inl (a.request?_stopper site)) h

end Steps

/-! ## Runs -/

/-- The series in which a deed is counted. -/
def Deed.tally : Deed → List Series
  | .ended operation _ failure => operation.tally failure
  | _ => []

/-- Whether a deed is a call of an operation that succeeded. -/
def Deed.succeeds (operation : Operation) : Deed → Bool
  | .ended done _ none => done = operation
  | _ => false

/-- In a step that settles no call none ends. -/
theorem deed?_of_silent {a : Agent} {actor : Actor} {site : Site}
    (h : a.request? site actor = none ∨ a.isDropping = true) {deed : Deed}
    (hdeed : a.deed? actor site = some deed) :
    deed.tally = [] ∧ ∀ operation, deed.succeeds operation = false := by
  unfold deed? at hdeed
  cases hrequest : a.request? site actor with
  | some request =>
      have hdropping : a.isDropping = true := h.resolve_left (by simp [hrequest])
      simp [hrequest, hdropping] at hdeed
  | none =>
      -- What is left is the beginning of a call or the loss of the identity.
      simp only [hrequest] at hdeed
      split at hdeed
      · obtain rfl := Option.some.inj hdeed
        exact ⟨rfl, fun _ => rfl⟩
      · split at hdeed
        · obtain rfl := Option.some.inj hdeed
          exact ⟨rfl, fun _ => rfl⟩
        · cases hdeed

theorem count_act (a : Agent) (site : Site) (actor : Actor) {series : Series}
    (hcalls : series.countsCalls = true) :
    (a.act actor site).2.count series =
      site.count series + ((a.deed? actor site).toList.flatMap Deed.tally).count series := by
  cases a.act_booking site actor with
  | nothing hsilent hbooks =>
      rw [hbooks.count_eq series hcalls]
      cases hdeed : a.deed? actor site with
      | none => rfl
      | some deed =>
          obtain ⟨htally, -⟩ := deed?_of_silent hsilent hdeed
          simp [htally]
  | @settled call request plane hcall hrequest hkept hplane hbooks =>
      rw [deed?_eq_ended request hrequest hkept, hbooks.count_eq series hcalls]
      simp [Deed.tally]

/-- What the agent does in a move. -/
def Recorded.deeds (r : Recorded) : Move → List Deed
  | .act actor => (r.agent.deed? actor r.site).toList
  | _ => []

theorem Recorded.history_move (r : Recorded) (m : Move) :
    (r.move m).history = r.deeds m ++ r.history := by
  cases m <;> rfl

/-- Nothing but the steps of the actors is counted as a call. -/
theorem count_move (r : Recorded) (m : Move) {series : Series}
    (hcalls : series.countsCalls = true) :
    (r.move m).site.count series =
      r.site.count series + ((r.deeds m).flatMap Deed.tally).count series := by
  have h := Books.refl r.site
  cases m with
  | act actor => exact r.agent.count_act r.site actor hcalls
  | stop =>
      have hmoved : Books r.site (r.agent.stop r.site).2.2 r.site.plane [] := by
        unfold stop
        dsimp only
        split <;> exact h.move r.agent.tracker .terminating
      exact hmoved.count_eq series hcalls
  | submit workload request =>
      have hplaced : Books r.site (r.agent.submit workload request r.site).2.2 r.site.plane [] :=
        (h.other (.placements _) rfl).keep (fun _ _ => rfl) rfl
      exact hplaced.count_eq series hcalls
  | release workload =>
      have hreleased : Books r.site (r.agent.release workload r.site).2.2 r.site.plane [] := by
        simp only [release]
        split_ifs
        · exact h.other (.placements .released) rfl
        · exact h
      exact hreleased.count_eq series hcalls
  | wait instant => exact h.count_eq series hcalls
  | plane event => exact h.count_eq series hcalls
  | control plane => exact h.count_eq series hcalls
  | draw count => exact h.count_eq series hcalls

/-- In every run the series that count calls have gone up by the tally of the calls that ended. -/
theorem run_count (setup : AgentSetup) (site : Site) (moves : List Move) {series : Series}
    (hcalls : series.countsCalls = true) :
    (run setup site moves).site.count series =
      site.count series + ((run setup site moves).history.flatMap Deed.tally).count series := by
  induction moves using List.reverseRecOn with
  | nil => exact (Int.add_zero _).symm
  | append_singleton moves m ih =>
      rw [run_concat, Recorded.history_move, count_move _ m hcalls, ih, List.flatMap_append,
        List.count_append]
      push_cast
      omega

/-! ## Outcomes and latencies -/

/-- The short names of errors. -/
def errorKinds : List String :=
  ["conflict", "not_found", "invalid", "unavailable", "throttled", "timeout"]

/-- The series that count the outcomes of an operation. -/
def outcomes : Operation → List Series
  | .register => .registrations none :: errorKinds.map fun kind => .registrations (some kind)
  | .renewLease =>
      [.leaseRenewals .success, .leaseRenewals .failure, .leaseRenewals .superseded]
  | .publishStatus =>
      [.statusPublishes .published, .statusPublishes .failed, .statusPublishes .superseded]
  | .deregister => []

theorem countsCalls_of_mem_outcomes (operation : Operation) :
    ∀ series ∈ outcomes operation, series.countsCalls = true := by
  cases operation <;> decide

/-- A call has one outcome and one latency, of its own operation. -/
theorem sum_outcomes_tally {operation : Operation} (hcounted : operation ≠ .deregister)
    (done : Operation) (failure : Option CallError) :
    ((outcomes operation).map fun series => (done.tally failure).count series).sum =
      (done.tally failure).count (.callLatency operation) := by
  cases operation with
  | deregister => exact absurd rfl hcounted
  | _ => cases done <;> rcases failure with _ | (_ | _ | _ | _ | _ | _) <;> rfl

/-- So what all outcomes have been counted is how often the latency was. -/
theorem sum_outcomes_history {operation : Operation} (hcounted : operation ≠ .deregister)
    (history : List Deed) :
    ((outcomes operation).map fun series => (history.flatMap Deed.tally).count series).sum =
      (history.flatMap Deed.tally).count (.callLatency operation) := by
  induction history with
  | nil => simp
  | cons deed earlier ih =>
      have hdeed : ((outcomes operation).map fun series => deed.tally.count series).sum =
          deed.tally.count (.callLatency operation) := by
        cases deed with
        | ended done identity failure => exact sum_outcomes_tally hcounted done failure
        | _ => simp [Deed.tally]
      simp only [List.flatMap_cons, List.count_append, List.sum_map_add, hdeed, ih]

/-- The series that counts the successes of an operation. -/
def success? : Operation → Option Series
  | .register => some (.registrations none)
  | .renewLease => some (.leaseRenewals .success)
  | .publishStatus => some (.statusPublishes .published)
  | .deregister => none

/-- A success is counted in its own series, and nothing else is. -/
theorem count_success_tally {operation : Operation} {series : Series}
    (hseries : success? operation = some series) (done : Operation) (failure : Option CallError) :
    (done.tally failure).count series = if done = operation ∧ failure = none then 1 else 0 := by
  cases operation with
  | deregister => cases hseries
  | _ =>
      obtain rfl := Option.some.inj hseries
      cases done <;> rcases failure with _ | (_ | _ | _ | _ | _ | _) <;> rfl

theorem count_success_history {operation : Operation} {series : Series}
    (hseries : success? operation = some series) (history : List Deed) :
    (history.flatMap Deed.tally).count series = history.countP (Deed.succeeds operation) := by
  induction history with
  | nil => rfl
  | cons deed earlier ih =>
      have hdeed : deed.tally.count series = if deed.succeeds operation then 1 else 0 := by
        cases deed with
        | ended done identity failure =>
            rw [Deed.tally, count_success_tally hseries]
            cases failure <;> simp [Deed.succeeds]
        | _ => simp [Deed.tally, Deed.succeeds]
      rw [List.flatMap_cons, List.count_append, List.countP_cons, hdeed, ih, Nat.add_comm]

end Agent

end NodeFleet
