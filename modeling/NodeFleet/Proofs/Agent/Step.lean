import NodeFleet.Agent

/-!
# The steps of an agent

`ActStep` has one case for each way that a step of an actor can take, with what is then
known of the agent and with what it leads to, and `act_step` says that there is no other
way.  The branches of `Agent.act` are followed here, so that a proof about every step has a
case for each way, and most of these need no more than a lemma about the one function that
is called there.
-/

namespace NodeFleet

namespace Agent

/-- A site where an agent has announced itself. -/
def announced (a : Agent) (site : Site) : Site :=
  { site with telemetry := a.tracker.announce site.telemetry site.wall }

/-- The ways that a step of an actor can take, with what they lead to. -/
inductive ActStep (a : Agent) (site : Site) : Actor → Agent × Site → Prop where
  /-- Told to end before its first step, the task announces the agent and ends. -/
  | declined (hstage : a.stage = .created) (hcancelled : a.isCancelled = true) :
      ActStep a site .task (a.windUp none (a.announced site))
  | entered (hstage : a.stage = .created) (hkept : a.isCancelled = false) :
      ActStep a site .task
        ((a.move .registering (a.announced site)).1.beginRegistration 0
          (a.move .registering (a.announced site)).2)
  /-- Told to end while it waits to register, the task ends. -/
  | quitWaiting {generation : Nat} {wake : Instant} (hstage : a.stage = .waiting generation wake)
      (hcancelled : a.isCancelled = true) : ActStep a site .task (a.windUp none site)
  | attempted {generation : Nat} {wake : Instant} (hstage : a.stage = .waiting generation wake)
      (hkept : a.isCancelled = false) : ActStep a site .task (a.beginRegistration generation site)
  /-- Told to end while it registers, the task ends without the answer. -/
  | quitRegistering {attempt : RegistrationAttempt} {call : Call}
      (hstage : a.stage = .registering attempt call) (hcancelled : a.isCancelled = true) :
      ActStep a site .task (a.windUp none site)
  | settled {attempt : RegistrationAttempt} {call : Call}
      (hstage : a.stage = .registering attempt call) (hkept : a.isCancelled = false) :
      ActStep a site .task
        (a.afterRegister attempt (site.settleRegister call attempt.identity a.setup.profile).1
          (site.settleRegister call attempt.identity a.setup.profile).2)
  /-- Told to end between two calls of an attempt, the task ends. -/
  | quitRetrying {attempt : RegistrationAttempt} {wake : Instant}
      (hstage : a.stage = .retrying attempt wake) (hcancelled : a.isCancelled = true) :
      ActStep a site .task (a.windUp none site)
  | repeated {attempt : RegistrationAttempt} {wake : Instant}
      (hstage : a.stage = .retrying attempt wake) (hkept : a.isCancelled = false) :
      ActStep a site .task (a.callRegister attempt site)
  /-- A loop has yet to return. -/
  | joined {loops : Loops} (hstage : a.stage = .running loops)
      (hjoined : (loops.join.heartbeat.isJoined && loops.join.statusSync.isJoined) = false) :
      ActStep a site .task ({ a with stage := .running loops.join }, site)
  /-- Both loops have returned, and the identity is given back. -/
  | leaving {loops : Loops} (hstage : a.stage = .running loops)
      (hjoined : (loops.join.heartbeat.isJoined && loops.join.statusSync.isJoined) = true)
      (hleaves : a.isCancelled = true ∨ loops.join.lost = none) :
      ActStep a site .task (a.windUp (some loops.join.identity) site)
  /-- Both loops have returned, and one of them has lost the identity. -/
  | lost {loops : Loops} {error : CallError} (hstage : a.stage = .running loops)
      (hjoined : (loops.join.heartbeat.isJoined && loops.join.statusSync.isJoined) = true)
      (hkept : a.isCancelled = false) (hlost : loops.join.lost = some error) :
      ActStep a site .task (a.afterLoss loops.join error site)
  | left {identity : Identity} {call : Call} (hstage : a.stage = .deregistering identity call) :
      ActStep a site .task
        ({ (a.move .stopped
              ((site.settleDeregister call identity).2.increment (.callLatency .deregister))).1 with
            stage := .finished },
          (a.move .stopped
            ((site.settleDeregister call identity).2.increment (.callLatency .deregister))).2)
  | taskIdle (hstage : a.stage = .finished ∨ a.stage = .aborted) : ActStep a site .task (a, site)
  | heartbeatIdle (hidle : ∀ loops h, a.stage = .running loops → loops.heartbeat ≠ .running h) :
      ActStep a site .heartbeat (a, site)
  | heartbeatHalted {loops : Loops} {h : Heartbeat} (hstage : a.stage = .running loops)
      (hslot : loops.heartbeat = .running h) (hhalting : a.isHalting loops = true) :
      ActStep a site .heartbeat
        ({ a with stage := .running { loops with heartbeat := .returned .cancelled } }, site)
  | heartbeatWorked {loops : Loops} {h : Heartbeat} (hstage : a.stage = .running loops)
      (hslot : loops.heartbeat = .running h) (hkept : a.isHalting loops = false) :
      ActStep a site .heartbeat
        ({ a with
            tracker := (h.act a.tracker site).2.1
            stage := .running { loops with heartbeat := slotOf (h.act a.tracker site).1 } },
          (h.act a.tracker site).2.2)
  | statusSyncIdle (hidle : ∀ loops s, a.stage = .running loops → loops.statusSync ≠ .running s) :
      ActStep a site .statusSync (a, site)
  | statusSyncHalted {loops : Loops} {s : StatusSync} (hstage : a.stage = .running loops)
      (hslot : loops.statusSync = .running s) (hhalting : a.isHalting loops = true) :
      ActStep a site .statusSync
        ({ a with stage := .running { loops with statusSync := .returned .cancelled } }, site)
  | statusSyncWorked {loops : Loops} {s : StatusSync} (hstage : a.stage = .running loops)
      (hslot : loops.statusSync = .running s) (hkept : a.isHalting loops = false) :
      ActStep a site .statusSync
        ({ a with
            tracker := (s.act a.setup.profile a.ledger a.tracker site).2.1
            stage := .running
              { loops with
                statusSync := slotOf (s.act a.setup.profile a.ledger a.tracker site).1 } },
          (s.act a.setup.profile a.ledger a.tracker site).2.2)
  /-- The stop call that waits sees that the task has ended. -/
  | released (hfinished : a.isFinished = true) :
      ActStep a site .stopper ({ a with handle := .released true }, site)
  /-- The stop call that waits gives the task up. -/
  | abandoned (hunfinished : a.isFinished = false) :
      ActStep a site .stopper ({ a with handle := .released false, stage := .aborted }, site)

variable (a : Agent) (site : Site)

theorem afterLoops_step {loops : Loops} (hstage : a.stage = .running loops)
    (hjoined : (loops.join.heartbeat.isJoined && loops.join.statusSync.isJoined) = true) :
    ActStep a site .task (a.afterLoops loops.join site) := by
  unfold afterLoops
  cases hcancelled : a.isCancelled with
  | true => exact .leaving hstage hjoined (.inl hcancelled)
  | false =>
      cases hlost : loops.join.lost with
      | none => exact .leaving hstage hjoined (.inr hlost)
      | some error => exact .lost hstage hjoined hcancelled hlost

theorem actTask_step : ActStep a site .task (a.actTask site) := by
  unfold actTask
  cases hstage : a.stage with
  | created =>
      cases hcancelled : a.isCancelled with
      | true => exact .declined hstage hcancelled
      | false => exact .entered hstage hcancelled
  | waiting generation wake =>
      cases hcancelled : a.isCancelled with
      | true => exact .quitWaiting hstage hcancelled
      | false => exact .attempted hstage hcancelled
  | registering attempt call =>
      cases hcancelled : a.isCancelled with
      | true => exact .quitRegistering hstage hcancelled
      | false => exact .settled hstage hcancelled
  | retrying attempt wake =>
      cases hcancelled : a.isCancelled with
      | true => exact .quitRetrying hstage hcancelled
      | false => exact .repeated hstage hcancelled
  | running loops =>
      dsimp only
      split
      · exact a.afterLoops_step site hstage ‹_›
      · exact .joined hstage (Bool.eq_false_iff.2 ‹_›)
  | deregistering identity call => exact .left hstage
  | finished => exact .taskIdle (.inl hstage)
  | aborted => exact .taskIdle (.inr hstage)

theorem actHeartbeat_step : ActStep a site .heartbeat (a.actHeartbeat site) := by
  unfold actHeartbeat
  cases hstage : a.stage with
  | running loops =>
      dsimp only
      cases hslot : loops.heartbeat with
      | running h =>
          cases hhalting : a.isHalting loops with
          | true => exact .heartbeatHalted hstage hslot hhalting
          | false => exact .heartbeatWorked hstage hslot hhalting
      | _ =>
          refine .heartbeatIdle fun other h hother => ?_
          obtain rfl := Stage.running.inj (hstage.symm.trans hother)
          simp [hslot]
  | _ => exact .heartbeatIdle (by simp [hstage])

theorem actStatusSync_step : ActStep a site .statusSync (a.actStatusSync site) := by
  unfold actStatusSync
  cases hstage : a.stage with
  | running loops =>
      dsimp only
      cases hslot : loops.statusSync with
      | running s =>
          cases hhalting : a.isHalting loops with
          | true => exact .statusSyncHalted hstage hslot hhalting
          | false => exact .statusSyncWorked hstage hslot hhalting
      | _ =>
          refine .statusSyncIdle fun other s hother => ?_
          obtain rfl := Stage.running.inj (hstage.symm.trans hother)
          simp [hslot]
  | _ => exact .statusSyncIdle (by simp [hstage])

/-- A step of an actor takes one of the ways. -/
theorem act_step (actor : Actor) : ActStep a site actor (a.act actor site) := by
  cases actor with
  | task => exact a.actTask_step site
  | heartbeat => exact a.actHeartbeat_step site
  | statusSync => exact a.actStatusSync_step site
  | stopper =>
      simp only [act, actStopper]
      split
      · exact .released ‹_›
      · exact .abandoned (Bool.eq_false_iff.2 ‹_›)

/-- Once the task has ended, nobody but the stop call that waits for it does anything. -/
theorem act_of_over {actor : Actor} (hactor : actor ≠ .stopper)
    (hover : a.stage = .finished ∨ a.stage = .aborted) : a.act actor site = (a, site) := by
  cases actor with
  | stopper => exact absurd rfl hactor
  | task => rcases hover with hstage | hstage <;> simp only [act, actTask, hstage]
  | heartbeat => rcases hover with hstage | hstage <;> simp only [act, actHeartbeat, hstage]
  | statusSync => rcases hover with hstage | hstage <;> simp only [act, actStatusSync, hstage]

end Agent

end NodeFleet
