import NodeFleet.Proofs.Agent.Run

/-!
# What a step of an agent can do

`View` is what of an agent and its site bears on the agent's identity: the setup, the stage,
the registration, the control plane and the supply of uids.  `Turn` lists all that a step of
any actor can do to it, together with the deed that the step is, and `act_turn`, with a
lemma for each way of `ActStep`, says that it does nothing else.  Placements and stop calls
do not touch the view.
-/

namespace NodeFleet

/-! ## Taking note of loops that have returned -/

/-- A slot after the return of its loop was noted. -/
def LoopSlot.noted {α : Type} : LoopSlot α → LoopSlot α
  | .returned _ => .joined
  | slot => slot

/-- The loss with which a loop has returned. -/
def LoopSlot.loss? {α : Type} : LoopSlot α → Option CallError
  | .returned (.superseded error) => some error
  | _ => none

/-- Taking note empties the slots of the loops that have returned, and keeps the first loss. -/
theorem Loops.join_eq (loops : Loops) :
    loops.join =
      { loops with
        heartbeat := loops.heartbeat.noted
        statusSync := loops.statusSync.noted
        lost := (loops.lost.or loops.heartbeat.loss?).or loops.statusSync.loss? } := by
  obtain ⟨identity, anchor, heartbeat, statusSync, lost⟩ := loops
  rcases heartbeat with h | (_ | error) | _ <;> rcases statusSync with s | (_ | error) | _ <;>
    simp [join, note, LoopSlot.noted, LoopSlot.loss?]

/-! ## What the loops leave alone -/

theorem Site.settle_drawn {α : Type} (s : Site) (call : Call)
    (complete : ControlPlane → Except CallError α × ControlPlane) :
    (s.settle call complete).2.drawn = s.drawn := by
  unfold settle
  split_ifs <;> rfl

theorem Tracker.moveWhen_registration (t : Tracker) (guard : AgentState → Bool)
    (target : AgentState) (shown : Telemetry) (now : Timestamp) :
    (t.moveWhen guard target shown now).2.1.registration = t.registration := by
  unfold moveWhen
  split_ifs <;> rfl

theorem Tracker.setFailures_registration (t : Tracker) (kind : LoopKind) (count : Nat) :
    (t.setFailures kind count).registration = t.registration := by
  cases kind <;> rfl

/-- Counting failures does not touch the registration. -/
theorem Site.recordSuccess_registration (s : Site) (t : Tracker) (kind : LoopKind) :
    (s.recordSuccess t kind).1.registration = t.registration := by
  simp only [recordSuccess, Tracker.recordSuccess, Tracker.recoverBelow_fst,
    Tracker.clearFailures]
  split_ifs <;> exact t.setFailures_registration kind 0

theorem Site.recordFailure_registration (s : Site) (t : Tracker) (kind : LoopKind) :
    (s.recordFailure t kind).1.registration = t.registration := by
  simp only [recordFailure, Tracker.recordFailure, Tracker.degradeAt_fst, Tracker.countFailure]
  split_ifs <;> exact t.setFailures_registration kind _

/-- A renewal shows its version in the registration. -/
theorem Heartbeat.report_registration (result : Except CallError Nat) (t : Tracker) (site : Site) :
    (report result t site).1.registration =
      match result with
      | .ok version => (t.recordRenewal version site.wall).registration
      | .error _ => t.registration := by
  cases result with
  | ok version => exact Site.recordSuccess_registration _ (t.recordRenewal version _) .heartbeat
  | error error =>
      simp only [report]
      split_ifs
      · rfl
      · exact Site.recordFailure_registration _ t .heartbeat

theorem Heartbeat.report_site (result : Except CallError Nat) (t : Tracker) (site : Site) :
    (report result t site).2.plane = site.plane ∧ (report result t site).2.drawn = site.drawn := by
  cases result with
  | ok version => exact ⟨rfl, rfl⟩
  | error error =>
      simp only [report]
      split_ifs <;> exact ⟨rfl, rfl⟩

/-- A publication leaves the identity and the lease as they are. -/
theorem StatusSync.report_registration (result : Except CallError Unit) (snapshot : StatusSnapshot)
    (t : Tracker) (site : Site) :
    (report result snapshot t site).1.registration.identity = t.registration.identity ∧
      (report result snapshot t site).1.registration.lease = t.registration.lease := by
  cases result with
  | ok _ =>
      have hregistration := Site.recordSuccess_registration
        ((site.increment (.callLatency .publishStatus)).increment (.statusPublishes .published))
        (t.recordPublish snapshot.generatedAt) .statusSync
      simp only [report, hregistration]
      exact ⟨rfl, rfl⟩
  | error error =>
      simp only [report]
      split_ifs
      · exact ⟨rfl, rfl⟩
      · rw [Site.recordFailure_registration]
        exact ⟨rfl, rfl⟩

theorem StatusSync.report_site (result : Except CallError Unit) (snapshot : StatusSnapshot)
    (t : Tracker) (site : Site) :
    (report result snapshot t site).2.plane = site.plane ∧
      (report result snapshot t site).2.drawn = site.drawn := by
  cases result with
  | ok _ => exact ⟨rfl, rfl⟩
  | error error =>
      simp only [report]
      split_ifs <;> exact ⟨rfl, rfl⟩

/-! ## How an attempt ends -/

/-- A renewal brings a version, fails for now, or shows that the identity is lost. -/
theorem Heartbeat.afterAttempt_cases (h : Heartbeat) (result : Except CallError Nat)
    (now : Instant) :
    (∃ version next, result = .ok version ∧ h.afterAttempt result now = .ok next ∧
      next.identity = h.identity ∧ next.version = version) ∨
    (∃ error next, result = .error error ∧ error.isIdentityLost = false ∧
      h.afterAttempt result now = .ok next ∧ next.identity = h.identity ∧
      next.version = h.version) ∨
    (∃ error, result = .error error ∧ error.isIdentityLost = true ∧
      h.afterAttempt result now = .error (.superseded error)) := by
  cases result with
  | ok version => exact .inl ⟨version, _, rfl, rfl, rfl, rfl⟩
  | error error =>
      cases hlost : error.isIdentityLost with
      | false =>
          refine .inr (.inl ⟨error, h.reschedule (.error error) now, rfl, hlost, ?_, rfl, rfl⟩)
          simp [afterAttempt, hlost]
      | true => exact .inr (.inr ⟨error, rfl, hlost, by simp [afterAttempt, hlost]⟩)

/-- A publication goes well or fails for now, or shows that the identity is lost. -/
theorem StatusSync.afterPublication_cases (s : StatusSync) (flight : Publication)
    (result : Except CallError Unit) (now : Instant) :
    (∃ next, s.afterPublication flight result now = .ok next ∧ next.identity = s.identity ∧
      ∀ error, result = .error error → error.isIdentityLost = false) ∨
    (∃ error, result = .error error ∧ error.isIdentityLost = true ∧
      s.afterPublication flight result now = .error (.superseded error)) := by
  cases result with
  | ok _ => exact .inl ⟨_, rfl, rfl, nofun⟩
  | error error =>
      cases hlost : error.isIdentityLost with
      | false =>
          refine .inl ⟨s.sleepFrom now, by simp [afterPublication, hlost], rfl, ?_⟩
          rintro _ ⟨rfl⟩
          exact hlost
      | true => exact .inr ⟨error, rfl, hlost, by simp [afterPublication, hlost]⟩

namespace Agent

/-! ## What bears on the identity -/

/-- What of an agent and its site bears on the agent's identity. -/
structure View where
  setup : AgentSetup
  stage : Stage
  registration : Registration
  plane : ControlPlane
  drawn : Nat

def view (a : Agent) (site : Site) : View :=
  ⟨a.setup, a.stage, a.tracker.registration, site.plane, site.drawn⟩

section Moves

variable (a : Agent) (site : Site)

theorem view_move (target : AgentState) :
    (a.move target site).1.view (a.move target site).2 = a.view site := by
  have hregistration : (a.move target site).1.tracker.registration = a.tracker.registration :=
    a.tracker.moveWhen_registration (fun _ => true) target site.telemetry site.wall
  exact congrArg (View.mk a.setup a.stage · site.plane site.drawn) hregistration

/-- Telling an agent to end does not touch its identity. -/
theorem view_stop : (a.stop site).2.1.view (a.stop site).2.2 = a.view site := by
  rw [← a.view_move site .terminating]
  unfold stop
  dsimp only
  split <;> rfl

theorem view_release (workload : String) :
    (a.release workload site).2.1.view (a.release workload site).2.2 = a.view site := by
  simp only [release]
  split_ifs <;> rfl

end Moves

/-! ## The steps of the actors -/

/-- What a step of an actor can do, with what it is seen to do and what it leaves behind. -/
inductive Turn (a : Agent) (site : Site) : Option Deed → View → Prop where
  /-- Nothing happens. -/
  | rested : Turn a site none (a.view site)
  /-- The task ends without another call, or is given up. -/
  | ended {stage : Stage} (hstage : stage = .finished ∨ stage = .aborted) :
      Turn a site none { a.view site with stage }
  /-- A registration begins under a fresh identity. -/
  | attempted {generation : Nat} {identity : Identity} {backoff : Backoff} {call : Call}
      (hstage : (a.stage = .created ∧ generation = 0) ∨ ∃ wake, a.stage = .waiting generation wake)
      (hidentity : identity = ⟨a.name, Site.uid site.drawn, generation⟩) :
      Turn a site (some (.began .register identity))
        { a.view site with
          stage := .registering ⟨identity, backoff⟩ call, drawn := site.drawn + 1 }
  /-- Another call of a registration begins. -/
  | repeated {attempt : RegistrationAttempt} {wake : Instant} {call : Call}
      (hstage : a.stage = .retrying attempt wake) :
      Turn a site (some (.began .register attempt.identity))
        { a.view site with stage := .registering attempt call }
  /-- A registration succeeds, and both loops start. -/
  | granted {attempt : RegistrationAttempt} {call : Call} {version : Nat} {settled : Site}
      {renewedAt : Option Timestamp} {anchor : Instant}
      (hstage : a.stage = .registering attempt call)
      (hsettle : site.settleRegister call attempt.identity a.setup.profile =
        (.ok version, settled)) :
      Turn a site (some (.ended .register attempt.identity none))
        { setup := a.setup
          stage := .running
            { identity := attempt.identity
              anchor
              heartbeat := .running
                (.start attempt.identity version a.setup.renewInterval a.setup.retry anchor)
              statusSync := .running
                (.start attempt.identity a.setup.status a.setup.retry anchor)
              lost := none }
          registration :=
            { identity := some attempt.identity
              lease := some ⟨attempt.identity.uid, a.setup.renewInterval, renewedAt, version⟩
              publishedAt := none }
          plane := settled.plane
          drawn := site.drawn }
  /-- A registration fails, and another call of it is to follow. -/
  | refused {attempt : RegistrationAttempt} {call : Call} {error : CallError} {settled : Site}
      {wake : Instant} (hstage : a.stage = .registering attempt call)
      (hsettle : site.settleRegister call attempt.identity a.setup.profile =
        (.error error, settled)) :
      Turn a site (some (.ended .register attempt.identity (some error)))
        { a.view site with
          stage := .retrying (nextAttempt attempt error site).1 wake
          plane := settled.plane
          drawn := (nextAttempt attempt error site).2.drawn }
  /-- The task takes note of the loops that have returned. -/
  | joined {loops : Loops} (hstage : a.stage = .running loops) :
      Turn a site none { a.view site with stage := .running loops.join }
  /-- Both loops have returned, and the identity is lost. -/
  | lost {loops : Loops} {error : CallError} {wake : Instant} (hstage : a.stage = .running loops)
      (hlost : loops.join.lost = some error) :
      Turn a site (some (.lost loops.identity))
        { a.view site with stage := .waiting (loops.identity.generation + 1) wake }
  /-- Both loops have returned, and the agent deregisters. -/
  | leaving {loops : Loops} {call : Call} (hstage : a.stage = .running loops) :
      Turn a site (some (.began .deregister loops.identity))
        { a.view site with stage := .deregistering loops.identity call }
  | left {identity : Identity} {call : Call} {result : Except CallError Unit} {settled : Site}
      (hstage : a.stage = .deregistering identity call)
      (hsettle : site.settleDeregister call identity = (result, settled)) :
      Turn a site (some (.ended .deregister identity (failure? result)))
        { a.view site with stage := .finished, plane := settled.plane }
  /-- The heartbeat ends as it is told to. -/
  | heartbeatHalted {loops : Loops} (hstage : a.stage = .running loops) :
      Turn a site none
        { a.view site with stage := .running { loops with heartbeat := .returned .cancelled } }
  | renewing {loops : Loops} {h : Heartbeat} {call : Call} (hstage : a.stage = .running loops)
      (hslot : loops.heartbeat = .running h) :
      Turn a site (some (.began .renewLease h.identity))
        { a.view site with
          stage := .running { loops with heartbeat := .running { h with call := some call } } }
  | renewed {loops : Loops} {h : Heartbeat} {call : Call} {result : Except CallError Nat}
      {settled : Site} (hstage : a.stage = .running loops) (hslot : loops.heartbeat = .running h)
      (hsettle : site.settleRenew call h.identity h.version = (result, settled)) :
      Turn a site (some (.ended .renewLease h.identity (failure? result)))
        { a.view site with
          stage := .running { loops with heartbeat := slotOf (h.afterAttempt result settled.now) }
          registration := (Heartbeat.report result a.tracker settled).1.registration
          plane := settled.plane }
  /-- The status loop ends as it is told to. -/
  | statusSyncHalted {loops : Loops} (hstage : a.stage = .running loops) :
      Turn a site none
        { a.view site with stage := .running { loops with statusSync := .returned .cancelled } }
  /-- The status loop wakes: it begins a publication or skips the tick. -/
  | ticked {loops : Loops} {s next : StatusSync} (hstage : a.stage = .running loops)
      (hslot : loops.statusSync = .running s) (hidentity : next.identity = s.identity) :
      Turn a site (next.flight.map fun _ => .began .publishStatus s.identity)
        { a.view site with stage := .running { loops with statusSync := .running next } }
  | published {loops : Loops} {s : StatusSync} {flight : Publication}
      {result : Except CallError Unit} {settled : Site} (hstage : a.stage = .running loops)
      (hslot : loops.statusSync = .running s)
      (hsettle : site.settlePublish flight.call s.identity flight.snapshot = (result, settled)) :
      Turn a site (some (.ended .publishStatus s.identity (failure? result)))
        { a.view site with
          stage := .running
            { loops with statusSync := slotOf (s.afterPublication flight result settled.now) }
          registration :=
            (StatusSync.report result flight.snapshot a.tracker settled).1.registration
          plane := settled.plane }

section Turns

variable (a : Agent) (site : Site)

theorem view_windUp_none :
    (a.windUp none site).1.view (a.windUp none site).2 = { a.view site with stage := .finished } := by
  let halfway := a.move .terminating site
  calc (a.windUp none site).1.view (a.windUp none site).2
      = { (halfway.1.move .stopped halfway.2).1.view (halfway.1.move .stopped halfway.2).2 with
          stage := .finished } := rfl
    _ = { a.view site with stage := .finished } := by rw [view_move, view_move]

theorem view_windUp_some (identity : Identity) :
    ∃ call, (a.windUp (some identity) site).1.view (a.windUp (some identity) site).2 =
      { a.view site with stage := .deregistering identity call } := by
  let terminating := a.move .terminating site
  refine ⟨terminating.2.beginCall a.setup.retry.callTimeout, ?_⟩
  rw [← a.view_move site .terminating]
  rfl

theorem view_beginLoops (identity : Identity) (version : Nat) :
    (a.beginLoops identity version site).1.view (a.beginLoops identity version site).2 =
      { setup := a.setup
        stage := .running
          { identity
            anchor := site.now
            heartbeat := .running
              (.start identity version a.setup.renewInterval a.setup.retry site.now)
            statusSync := .running (.start identity a.setup.status a.setup.retry site.now)
            lost := none }
        registration :=
          { identity := some identity
            lease := some ⟨identity.uid, a.setup.renewInterval, some site.wall, version⟩
            publishedAt := none }
        plane := site.plane
        drawn := site.drawn } := by
  let lease : Lease := ⟨identity.uid, a.setup.renewInterval, some site.wall, version⟩
  let registered : Agent :=
    { a with tracker := (a.tracker.setRegistered identity lease).resetFailures }
  let noted := site.note (.registered identity a.setup.profile.podRange.text version)
  let active := registered.move .active noted
  calc (a.beginLoops identity version site).1.view (a.beginLoops identity version site).2
      = { active.1.view active.2 with
          stage := (a.beginLoops identity version site).1.stage } := rfl
    _ = { registered.view noted with
          stage := (a.beginLoops identity version site).1.stage } := by
        rw [registered.view_move noted .active]
    _ = _ := rfl

theorem view_granted (attempt : RegistrationAttempt) (version : Nat) :
    ∃ anchor renewedAt, (a.afterRegister attempt (.ok version) site).1.view
        (a.afterRegister attempt (.ok version) site).2 =
      { setup := a.setup
        stage := .running
          { identity := attempt.identity
            anchor
            heartbeat := .running
              (.start attempt.identity version a.setup.renewInterval a.setup.retry anchor)
            statusSync := .running (.start attempt.identity a.setup.status a.setup.retry anchor)
            lost := none }
        registration :=
          { identity := some attempt.identity
            lease := some ⟨attempt.identity.uid, a.setup.renewInterval, renewedAt, version⟩
            publishedAt := none }
        plane := site.plane
        drawn := site.drawn } :=
  ⟨_, _, a.view_beginLoops _ attempt.identity version⟩

/-- Another attempt depends on the uids that are left, and on nothing else of the site. -/
theorem nextAttempt_congr (attempt : RegistrationAttempt) (error : CallError) {site shown : Site}
    (hdrawn : shown.drawn = site.drawn) :
    (nextAttempt attempt error shown).1 = (nextAttempt attempt error site).1 ∧
      (nextAttempt attempt error shown).2.drawn = (nextAttempt attempt error site).2.drawn := by
  cases error <;> simp [nextAttempt, Site.freshIdentity, hdrawn]

theorem view_refused (attempt : RegistrationAttempt) (error : CallError) :
    ∃ wake, (a.afterRegister attempt (.error error) site).1.view
        (a.afterRegister attempt (.error error) site).2 =
      { a.view site with
        stage := .retrying (nextAttempt attempt error site).1 wake
        drawn := (nextAttempt attempt error site).2.drawn } := by
  refine ⟨site.now + attempt.backoff.delay, ?_⟩
  cases error <;> rfl

theorem view_afterLoss (loops : Loops) (error : CallError) :
    ∃ wake, (a.afterLoss loops error site).1.view (a.afterLoss loops error site).2 =
      { a.view site with stage := .waiting (loops.identity.generation + 1) wake } := by
  let noted := (site.note (.superseded loops.identity error.message)).increment .reregistrations
  let backoff := a.reregistrationBackoff loops.anchor site.now
  refine ⟨(a.move .registering noted).2.now + backoff.delay, ?_⟩
  calc (a.afterLoss loops error site).1.view (a.afterLoss loops error site).2
      = { (a.move .registering noted).1.view (a.move .registering noted).2 with
          stage := (a.afterLoss loops error site).1.stage } := rfl
    _ = { a.view noted with stage := (a.afterLoss loops error site).1.stage } := by rw [view_move]
    _ = _ := rfl

/-- What is to be shown of the steps of an actor. -/
def Turns (actor : Actor) : Prop :=
  Turn a site (a.deed? actor site) ((a.act actor site).1.view (a.act actor site).2)

/-- An actor without a call and with nothing to do rests. -/
theorem turns_of_idle {actor : Actor} (hact : a.act actor site = (a, site))
    (hrequest : a.request? site actor = none) : a.Turns site actor := by
  rw [Turns, deed?_of_idle hact hrequest, hact]
  exact .rested

section Heartbeat

variable {a : Agent} {site : Site} {loops : Loops} {h : Heartbeat}

theorem request?_heartbeat (hstage : a.stage = .running loops)
    (hslot : loops.heartbeat = .running h) :
    a.request? site .heartbeat = h.call.map (renewal site h) := by
  simp only [request?, hstage, hslot, LoopSlot.loop?, Option.bind_some]

theorem heartbeat_halts (hstage : a.stage = .running loops) (hhalting : a.isHalting loops = true)
    (hact : a.act .heartbeat site =
      ({ a with stage := .running { loops with heartbeat := .returned .cancelled } }, site)) :
    a.Turns site .heartbeat := by
  rw [Turns, deed?_of_halted hstage hhalting hact rfl, hact]
  exact .heartbeatHalted hstage

theorem heartbeat_calls (hstage : a.stage = .running loops) (hslot : loops.heartbeat = .running h)
    (hcall : h.call = none) {call : Call}
    (hact : a.act .heartbeat site =
      ({ a with
          stage := .running { loops with heartbeat := .running { h with call := some call } } },
        site)) : a.Turns site .heartbeat := by
  have hdeed : a.deed? .heartbeat site = some (.began .renewLease h.identity) := by
    refine deed?_eq_began ?_ ?_
    · rw [request?_heartbeat hstage hslot, hcall]
      rfl
    · rw [hact]
      rfl
  rw [Turns, hdeed, hact]
  exact .renewing hstage hslot

theorem heartbeat_settles {call : Call} (hstage : a.stage = .running loops)
    (hslot : loops.heartbeat = .running h) (hkept : a.isHalting loops = false)
    (hcall : h.call = some call)
    (hact : a.act .heartbeat site =
      let settled := site.settleRenew call h.identity h.version
      let reported := Heartbeat.report settled.1 a.tracker settled.2
      ({ a with
          tracker := reported.1
          stage := .running
            { loops with heartbeat := slotOf (h.afterAttempt settled.1 settled.2.now) } },
        reported.2)) : a.Turns site .heartbeat := by
  have hdeed : a.deed? .heartbeat site = some (.ended .renewLease h.identity
      (failure? (site.settleRenew call h.identity h.version).1)) := by
    refine deed?_eq_ended (renewal site h call) ?_ ?_
    · rw [request?_heartbeat hstage hslot, hcall]
      rfl
    · simp only [isDropping, hstage, hkept]
  have hdrawn : (site.settleRenew call h.identity h.version).2.drawn = site.drawn :=
    site.settle_drawn call _
  obtain ⟨hplane, hlater⟩ := Heartbeat.report_site (site.settleRenew call h.identity h.version).1
    a.tracker (site.settleRenew call h.identity h.version).2
  rw [Turns, hdeed, hact]
  simp only [view, hplane, hlater, hdrawn]
  exact .renewed hstage hslot rfl

/-- A heartbeat at work begins a renewal or settles one. -/
theorem heartbeat_works (hstage : a.stage = .running loops) (hslot : loops.heartbeat = .running h)
    (hkept : a.isHalting loops = false)
    (hact : a.act .heartbeat site =
      ({ a with
          tracker := (h.act a.tracker site).2.1
          stage := .running { loops with heartbeat := slotOf (h.act a.tracker site).1 } },
        (h.act a.tracker site).2.2)) : a.Turns site .heartbeat := by
  cases hcall : h.call with
  | none =>
      simp only [Heartbeat.act, hcall] at hact
      exact heartbeat_calls hstage hslot hcall hact
  | some call =>
      simp only [Heartbeat.act, hcall] at hact
      exact heartbeat_settles hstage hslot hkept hcall hact

end Heartbeat

section StatusSync

variable {a : Agent} {site : Site} {loops : Loops} {s : StatusSync}

theorem request?_statusSync (hstage : a.stage = .running loops)
    (hslot : loops.statusSync = .running s) :
    a.request? site .statusSync = s.flight.map (publication site s) := by
  simp only [request?, hstage, hslot, LoopSlot.loop?, Option.bind_some]

theorem statusSync_halts (hstage : a.stage = .running loops) (hhalting : a.isHalting loops = true)
    (hact : a.act .statusSync site =
      ({ a with stage := .running { loops with statusSync := .returned .cancelled } }, site)) :
    a.Turns site .statusSync := by
  rw [Turns, deed?_of_halted hstage hhalting hact rfl, hact]
  exact .statusSyncHalted hstage

theorem statusSync_ticks (hstage : a.stage = .running loops)
    (hslot : loops.statusSync = .running s) (hflight : s.flight = none)
    (hact : a.act .statusSync site =
      ({ a with
          stage := .running
            { loops with statusSync := .running (s.tick a.setup.profile a.ledger site).1 } },
        (s.tick a.setup.profile a.ledger site).2)) : a.Turns site .statusSync := by
  obtain ⟨hidentity, hplane, hdrawn⟩ :
      (s.tick a.setup.profile a.ledger site).1.identity = s.identity ∧
      (s.tick a.setup.profile a.ledger site).2.plane = site.plane ∧
      (s.tick a.setup.profile a.ledger site).2.drawn = site.drawn := by
    simp only [StatusSync.tick]
    split_ifs <;> exact ⟨rfl, rfl, rfl⟩
  generalize (s.tick a.setup.profile a.ledger site).1 = next at hact hidentity
  have hbefore : a.request? site .statusSync = none := by
    rw [request?_statusSync hstage hslot, hflight]
    rfl
  have hdeed : a.deed? .statusSync site =
      next.flight.map fun _ => .began .publishStatus s.identity := by
    cases hnext : next.flight with
    | none =>
        refine deed?_eq_none (.inl hbefore) ?_ ?_
        · rw [hact, request?_statusSync rfl rfl, hnext]
          rfl
        · simp [hact]
    | some flight =>
        refine deed?_eq_began hbefore ?_
        rw [hact, request?_statusSync rfl rfl, hnext, ← hidentity]
        rfl
  rw [Turns, hdeed, hact]
  simp only [view, hplane, hdrawn]
  exact .ticked hstage hslot hidentity

theorem statusSync_settles {flight : Publication} (hstage : a.stage = .running loops)
    (hslot : loops.statusSync = .running s) (hkept : a.isHalting loops = false)
    (hflight : s.flight = some flight)
    (hact : a.act .statusSync site =
      let settled := site.settlePublish flight.call s.identity flight.snapshot
      let reported := StatusSync.report settled.1 flight.snapshot a.tracker settled.2
      ({ a with
          tracker := reported.1
          stage := .running
            { loops with
              statusSync := slotOf (s.afterPublication flight settled.1 settled.2.now) } },
        reported.2)) : a.Turns site .statusSync := by
  let settled := site.settlePublish flight.call s.identity flight.snapshot
  have hdeed : a.deed? .statusSync site =
      some (.ended .publishStatus s.identity (failure? settled.1)) := by
    refine deed?_eq_ended (publication site s flight) ?_ ?_
    · rw [request?_statusSync hstage hslot, hflight]
      rfl
    · simp only [isDropping, hstage, hkept]
  have hdrawn : settled.2.drawn = site.drawn := site.settle_drawn flight.call _
  obtain ⟨hplane, hlater⟩ :=
    StatusSync.report_site settled.1 flight.snapshot a.tracker settled.2
  rw [Turns, hdeed, hact]
  simp only [settled] at hplane hlater hdrawn
  simp only [view, hplane, hlater, hdrawn]
  exact .published hstage hslot rfl

/-- A status loop at work wakes or settles a publication. -/
theorem statusSync_works (hstage : a.stage = .running loops)
    (hslot : loops.statusSync = .running s) (hkept : a.isHalting loops = false)
    (hact : a.act .statusSync site =
      ({ a with
          tracker := (s.act a.setup.profile a.ledger a.tracker site).2.1
          stage := .running
            { loops with
              statusSync := slotOf (s.act a.setup.profile a.ledger a.tracker site).1 } },
        (s.act a.setup.profile a.ledger a.tracker site).2.2)) : a.Turns site .statusSync := by
  cases hflight : s.flight with
  | none =>
      simp only [StatusSync.act, hflight] at hact
      exact statusSync_ticks hstage hslot hflight hact
  | some flight =>
      simp only [StatusSync.act, hflight] at hact
      exact statusSync_settles hstage hslot hkept hflight hact

end StatusSync

section Task

variable {a : Agent} {site : Site}

theorem task_quits {shown : Site} (hact : a.act .task site = a.windUp none shown)
    (hshown : a.view shown = a.view site)
    (hbefore : a.request? site .task = none ∨ a.isDropping = true) : a.Turns site .task := by
  rw [Turns, deed?_of_quit hact hbefore, hact, view_windUp_none, hshown]
  exact .ended (.inl rfl)

theorem task_attempts {b : Agent} {shown : Site} {generation : Nat}
    (hact : a.act .task site = b.beginRegistration generation shown)
    (hshown : b.view shown = a.view site) (hname : b.name = a.name)
    (hbefore : a.request? site .task = none)
    (hstage : (a.stage = .created ∧ generation = 0) ∨ ∃ wake, a.stage = .waiting generation wake) :
    a.Turns site .task := by
  let identity : Identity := ⟨b.name, Site.uid shown.drawn, generation⟩
  have hdrawn : shown.drawn = site.drawn := congrArg View.drawn hshown
  have hidentity : identity = ⟨a.name, Site.uid site.drawn, generation⟩ := by
    simp only [identity, hname, hdrawn]
  have hdeed : a.deed? .task site = some (.began .register identity) := by
    refine deed?_eq_began hbefore ?_
    rw [hact]
    rfl
  rw [Turns, hdeed, hact, beginRegistration]
  change Turn a site _ { b.view shown with stage := _, drawn := shown.drawn + 1 }
  rw [hshown, hdrawn]
  exact .attempted hstage hidentity

theorem task_settles {attempt : RegistrationAttempt} {call : Call}
    (hstage : a.stage = .registering attempt call) (hkept : a.isCancelled = false)
    (hact : a.act .task site =
      a.afterRegister attempt (site.settleRegister call attempt.identity a.setup.profile).1
        (site.settleRegister call attempt.identity a.setup.profile).2) : a.Turns site .task := by
  have hdrawn : (site.settleRegister call attempt.identity a.setup.profile).2.drawn = site.drawn :=
    site.settle_drawn call _
  cases hsettle : site.settleRegister call attempt.identity a.setup.profile with
  | mk result settled =>
      rw [hsettle] at hdrawn hact
      have hdeed : a.deed? .task site =
          some (.ended .register attempt.identity (failure? result)) := by
        rw [deed?_eq_ended ⟨.register, attempt.identity, failure? result⟩]
        · simp only [request?, hstage, hsettle]
        · simp only [isDropping, hstage, hkept]
      rw [Turns, hdeed, hact]
      cases result with
      | ok version =>
          obtain ⟨anchor, renewedAt, hview⟩ := a.view_granted settled attempt version
          rw [hview, hdrawn]
          exact .granted hstage hsettle
      | error error =>
          obtain ⟨wake, hview⟩ := a.view_refused settled attempt error
          obtain ⟨hnext, hlater⟩ := nextAttempt_congr attempt error hdrawn
          rw [hview, hnext, hlater]
          exact .refused hstage hsettle

theorem task_repeats {attempt : RegistrationAttempt} {wake : Instant}
    (hstage : a.stage = .retrying attempt wake)
    (hact : a.act .task site = a.callRegister attempt site) : a.Turns site .task := by
  have hdeed : a.deed? .task site = some (.began .register attempt.identity) := by
    refine deed?_eq_began (by simp only [request?, hstage]) ?_
    rw [hact]
    rfl
  rw [Turns, hdeed, hact]
  exact .repeated hstage

theorem task_joins {loops : Loops} (hstage : a.stage = .running loops)
    (hact : a.act .task site = ({ a with stage := .running loops.join }, site)) :
    a.Turns site .task := by
  rw [Turns, deed?_of_joined hstage hact, hact]
  exact .joined hstage

theorem task_leaves {loops : Loops} (hstage : a.stage = .running loops)
    (hact : a.act .task site = a.windUp (some loops.join.identity) site) :
    a.Turns site .task := by
  have hidentity : loops.join.identity = loops.identity := by rw [loops.join_eq]
  obtain ⟨call, hview⟩ := a.view_windUp_some site loops.join.identity
  rw [Turns, deed?_of_leaving hstage hact, hact, hview, hidentity]
  exact .leaving hstage

theorem task_loses {loops : Loops} {error : CallError} (hstage : a.stage = .running loops)
    (hlost : loops.join.lost = some error)
    (hact : a.act .task site = a.afterLoss loops.join error site) : a.Turns site .task := by
  have hidentity : loops.join.identity = loops.identity := by rw [loops.join_eq]
  obtain ⟨wake, hview⟩ := a.view_afterLoss site loops.join error
  have hdeed : a.deed? .task site = some (.lost loops.identity) := by
    have hwaiting := congrArg View.stage hview
    rw [← hact] at hwaiting
    exact deed?_eq_lost (by simp only [request?, hstage]) hstage hwaiting
  rw [Turns, hdeed, hact, hview, hidentity]
  exact .lost hstage hlost

theorem task_left {identity : Identity} {call : Call}
    (hstage : a.stage = .deregistering identity call)
    (hact : a.act .task site =
      let stopped := a.move .stopped
        ((site.settleDeregister call identity).2.increment (.callLatency .deregister))
      ({ stopped.1 with stage := .finished }, stopped.2)) : a.Turns site .task := by
  have hdrawn : (site.settleDeregister call identity).2.drawn = site.drawn :=
    site.settle_drawn call _
  cases hsettle : site.settleDeregister call identity with
  | mk result settled =>
      rw [hsettle] at hdrawn hact
      have hdeed : a.deed? .task site = some (.ended .deregister identity (failure? result)) := by
        rw [deed?_of_deregistering hstage, hsettle]
      have hview : (a.act .task site).1.view (a.act .task site).2 =
          { a.view site with stage := .finished, plane := settled.plane } := by
        let counted := settled.increment (.callLatency .deregister)
        let stopped := a.move .stopped counted
        calc (a.act .task site).1.view (a.act .task site).2
            = { stopped.1.view stopped.2 with stage := .finished } := by rw [hact]; rfl
          _ = { a.view counted with stage := .finished } := by rw [view_move]
          _ = { a.view site with stage := .finished, plane := settled.plane } :=
              congrArg (View.mk a.setup .finished a.tracker.registration settled.plane) hdrawn
      rw [Turns, hdeed, hview]
      exact .left hstage hsettle

end Task

/-- Every step of an actor is one of the turns. -/
theorem act_turn (actor : Actor) :
    Turn a site (a.deed? actor site) ((a.act actor site).1.view (a.act actor site).2) := by
  show a.Turns site actor
  have hstep := a.act_step site actor
  generalize hact : a.act actor site = later at hstep
  cases hstep with
  | declined hstage => exact task_quits hact rfl (.inl (by simp only [request?, hstage]))
  | entered hstage =>
      exact task_attempts hact (a.view_move _ .registering) rfl (by simp only [request?, hstage])
        (.inl ⟨hstage, rfl⟩)
  | quitWaiting hstage | quitRetrying hstage =>
      exact task_quits hact rfl (.inl (by simp only [request?, hstage]))
  | quitRegistering hstage hcancelled =>
      exact task_quits hact rfl (.inr (by simp only [isDropping, hstage, hcancelled]))
  | attempted hstage =>
      exact task_attempts hact rfl rfl (by simp only [request?, hstage]) (.inr ⟨_, hstage⟩)
  | settled hstage hkept => exact task_settles hstage hkept hact
  | repeated hstage => exact task_repeats hstage hact
  | joined hstage => exact task_joins hstage hact
  | leaving hstage => exact task_leaves hstage hact
  | lost hstage hjoined hkept hlost => exact task_loses hstage hlost hact
  | left hstage => exact task_left hstage hact
  | taskIdle hidle => exact a.turns_of_idle site hact (request?_task_of_idle hidle)
  | heartbeatIdle hidle => exact a.turns_of_idle site hact (request?_heartbeat_of_idle hidle)
  | heartbeatHalted hstage hslot hhalting => exact heartbeat_halts hstage hhalting hact
  | heartbeatWorked hstage hslot hkept => exact heartbeat_works hstage hslot hkept hact
  | statusSyncIdle hidle => exact a.turns_of_idle site hact (request?_statusSync_of_idle hidle)
  | statusSyncHalted hstage hslot hhalting => exact statusSync_halts hstage hhalting hact
  | statusSyncWorked hstage hslot hkept => exact statusSync_works hstage hslot hkept hact
  | released =>
      rw [Turns, a.deed?_stopper site, hact]
      exact .rested
  | abandoned =>
      rw [Turns, a.deed?_stopper site, hact]
      exact .ended (.inr rfl)

end Turns

end Agent

end NodeFleet
