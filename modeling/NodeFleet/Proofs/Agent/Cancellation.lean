import Mathlib.Data.List.Induction
import NodeFleet.Proofs.Agent.Lifecycle
import NodeFleet.Proofs.Agent.Turn

/-!
# What an agent does once it is told to end

From the moment at which an agent is told to end, it begins no call but its
deregistration, and it drops every other call that it has in flight.  A dropped call is
not settled, and only calls that are settled reach the control plane, so nothing but the
deregistration has an effect from then on.

Conversely an agent that was not told to end stays at work: as long as no loop is told of
a loss, both loops run and the task does not go on to deregister (`Stays`).
-/

namespace NodeFleet.Agent

/-- Whether something that an agent did belongs to its deregistration. -/
def Deed.IsDeparture : Deed → Prop
  | .began operation _ => operation = .deregister
  | .ended operation _ _ => operation = .deregister
  | .lost _ => False

section Steps

variable {a : Agent} {site : Site}

/-- The control plane changes with calls that are settled, and with nothing else. -/
theorem plane_of_forall_ne_ended {actor : Actor}
    (hdeed : ∀ operation identity failure,
      a.deed? actor site ≠ some (.ended operation identity failure)) :
    (a.act actor site).2.plane = site.plane := by
  have hturn := a.act_turn site actor
  generalize a.deed? actor site = deed? at hturn hdeed
  generalize hview : (a.act actor site).1.view (a.act actor site).2 = after at hturn
  have hplane : (a.act actor site).2.plane = after.plane := congrArg View.plane hview
  cases hturn with
  | granted hstage hsettle => exact absurd rfl (hdeed _ _ _)
  | refused hstage hsettle => exact absurd rfl (hdeed _ _ _)
  | left hstage hsettle => exact absurd rfl (hdeed _ _ _)
  | renewed hstage hslot hsettle => exact absurd rfl (hdeed _ _ _)
  | published hstage hslot hsettle => exact absurd rfl (hdeed _ _ _)
  | _ => exact hplane

/-! ## Agents that were told to end -/

/-- All that an agent does after it was told to end belongs to its deregistration. -/
theorem deed?_of_isCancelled (hcancelled : a.isCancelled = true) {actor : Actor} {deed : Deed}
    (hdeed : a.deed? actor site = some deed) : deed.IsDeparture := by
  have hsilent (hnone : a.deed? actor site = none) : deed.IsDeparture := by
    simp [hnone] at hdeed
  -- Whatever is done only by an agent that goes on is not done any more.
  have hgone (hkept : a.isCancelled = false) : deed.IsDeparture := by
    simp [hkept] at hcancelled
  have hstep := a.act_step site actor
  generalize hact : a.act actor site = later at hstep
  cases hstep with
  | declined hstage | quitWaiting hstage | quitRetrying hstage =>
      exact hsilent (deed?_of_quit hact (.inl (by simp only [request?, hstage])))
  | quitRegistering hstage =>
      exact hsilent (deed?_of_quit hact (.inr (by simp only [isDropping, hstage, hcancelled])))
  | entered _ hkept | attempted _ hkept | settled _ hkept | repeated _ hkept | lost _ _ hkept =>
      exact hgone hkept
  | joined hstage => exact hsilent (deed?_of_joined hstage hact)
  | leaving hstage =>
      obtain rfl := Option.some.inj ((deed?_of_leaving hstage hact).symm.trans hdeed)
      rfl
  | left hstage =>
      obtain rfl := Option.some.inj ((deed?_of_deregistering hstage).symm.trans hdeed)
      rfl
  | taskIdle hidle => exact hsilent (deed?_of_idle hact (request?_task_of_idle hidle))
  | heartbeatIdle hidle => exact hsilent (deed?_of_idle hact (request?_heartbeat_of_idle hidle))
  | statusSyncIdle hidle => exact hsilent (deed?_of_idle hact (request?_statusSync_of_idle hidle))
  | heartbeatHalted hstage _ hhalting | statusSyncHalted hstage _ hhalting =>
      exact hsilent (deed?_of_halted hstage hhalting hact rfl)
  | heartbeatWorked _ _ hkept | statusSyncWorked _ _ hkept =>
      exact hgone (Bool.or_eq_false_iff.1 hkept).1
  | released | abandoned => exact hsilent (a.deed?_stopper site)

/-! ## Agents that were not told to end -/

/-- Whether the task has not come to its end, and both loops run while it waits for them. -/
def Stays (a : Agent) : Prop :=
  match a.stage with
  | .running loops =>
      (∃ h, loops.heartbeat = .running h) ∧ ∃ s, loops.statusSync = .running s
  | .deregistering _ _ => False
  | .finished => False
  | .aborted => False
  | _ => True

/-- A loop that has not returned for a loss goes on. -/
theorem heartbeat_goes_on {h : Heartbeat} {t : Tracker}
    (hloss : (slotOf (h.act t site).1).loss? = none) :
    ∃ next, slotOf (h.act t site).1 = .running next := by
  unfold Heartbeat.act at hloss ⊢
  cases hcall : h.call with
  | none => exact ⟨_, rfl⟩
  | some call =>
      simp only [hcall] at hloss ⊢
      rcases h.afterAttempt_cases (site.settleRenew call h.identity h.version).1
        (site.settleRenew call h.identity h.version).2.now with
        ⟨version, next, -, hnext, -⟩ | ⟨error, next, -, -, hnext, -⟩ | ⟨error, -, -, hlost⟩
      · exact ⟨next, congrArg slotOf hnext⟩
      · exact ⟨next, congrArg slotOf hnext⟩
      · rw [hlost] at hloss
        exact nomatch hloss

theorem statusSync_goes_on {s : StatusSync} {profile : Profile} {ledger : Ledger} {t : Tracker}
    (hloss : (slotOf (s.act profile ledger t site).1).loss? = none) :
    ∃ next, slotOf (s.act profile ledger t site).1 = .running next := by
  unfold StatusSync.act at hloss ⊢
  cases hflight : s.flight with
  | none => exact ⟨_, rfl⟩
  | some flight =>
      simp only [hflight] at hloss ⊢
      rcases s.afterPublication_cases flight
        (site.settlePublish flight.call s.identity flight.snapshot).1
        (site.settlePublish flight.call s.identity flight.snapshot).2.now with
        ⟨next, hnext, -⟩ | ⟨error, -, -, hlost⟩
      · exact ⟨next, congrArg slotOf hnext⟩
      · rw [hlost] at hloss
        exact nomatch hloss

/-- There is nothing to take note of while both loops run. -/
theorem Stays.join_eq {loops : Loops} (h : a.Stays) (hstage : a.stage = .running loops) :
    loops.join = loops ∧
      (loops.join.heartbeat.isJoined && loops.join.statusSync.isJoined) = false := by
  rw [Stays, hstage] at h
  obtain ⟨⟨loop, hheartbeat⟩, sync, hstatus⟩ := h
  have hjoin : loops.join = loops := by
    rw [loops.join_eq, hheartbeat, hstatus]
    simp [LoopSlot.noted, LoopSlot.loss?, ← hheartbeat, ← hstatus]
  exact ⟨hjoin, by simp [hjoin, hheartbeat, LoopSlot.isJoined]⟩

/-- Without a loss an agent that was not told to end does not go on to its end. -/
theorem Stays.act (h : a.Stays) (hcancelled : a.isCancelled = false)
    (hbefore : ∀ loops, a.stage = .running loops → loops.lost = none)
    {actor : Actor} (hactor : actor ≠ .stopper)
    (hafter : ∀ loops, (a.act actor site).1.stage = .running loops →
      loops.heartbeat.loss? = none ∧ loops.statusSync.loss? = none) :
    (a.act actor site).1.Stays := by
  have hkept (loops : Loops) (hstage : a.stage = .running loops) : a.isHalting loops = false := by
    simp [isHalting, hcancelled, hbefore loops hstage]
  have hstep := a.act_step site actor
  generalize a.act actor site = later at hstep hafter ⊢
  cases hstep with
  | declined _ htold | quitWaiting _ htold | quitRegistering _ htold | quitRetrying _ htold =>
      exact absurd (hcancelled.symm.trans htold) Bool.false_ne_true
  | entered | attempted | repeated => trivial
  | @settled attempt call =>
      cases (site.settleRegister call attempt.identity a.setup.profile).1 with
      | ok version => exact ⟨⟨_, rfl⟩, _, rfl⟩
      | error error => trivial
  | joined hstage =>
      have hjoin := (h.join_eq hstage).1
      rw [Stays, hstage] at h
      rw [hjoin]
      exact h
  | leaving hstage hjoined | lost hstage hjoined =>
      exact absurd ((h.join_eq hstage).2.symm.trans hjoined) Bool.false_ne_true
  | left hstage => exact absurd h (by simp [Stays, hstage])
  | taskIdle hidle => rcases hidle with hstage | hstage <;> exact absurd h (by simp [Stays, hstage])
  | heartbeatIdle | statusSyncIdle => exact h
  | heartbeatHalted hstage _ hhalting | statusSyncHalted hstage _ hhalting =>
      exact absurd ((hkept _ hstage).symm.trans hhalting) Bool.false_ne_true
  | heartbeatWorked hstage =>
      rw [Stays, hstage] at h
      exact ⟨heartbeat_goes_on (hafter _ rfl).1, h.2⟩
  | statusSyncWorked hstage =>
      rw [Stays, hstage] at h
      exact ⟨h.1, statusSync_goes_on (hafter _ rfl).2⟩
  | released | abandoned => exact absurd rfl hactor

end Steps

/-! ## Runs -/

namespace Attended

variable {x : Attended}

theorem isCancelled_happen (h : x.agent.isCancelled = true) (event : Event) :
    (x.happen event).agent.isCancelled = true := by
  cases event with
  | call => exact h
  | proceed caller =>
      generalize hy : x.happen (.proceed caller) = y
      have hstep : x.CallStep caller y := hy ▸ x.proceed_step caller
      cases hstep with
      | cancelled hcall => rfl
      | _ => exact h
  | other move hother =>
      cases move with
      | act actor =>
          have hactor := Move.ne_stopper hother
          obtain ⟨tracker, stage, reregistration, hact⟩ := x.agent.act_eq x.site actor hactor
          have hkept : (x.agent.act actor x.site).1.isCancelled = x.agent.isCancelled := by
            rw [hact]
          exact hkept.trans h
      | stop => exact absurd hother (by decide)
      | _ => exact h

/-- What is added to the history is what the actors do. -/
theorem happen_history (x : Attended) (event : Event) :
    ∃ deeds, (x.happen event).history = deeds ++ x.history ∧
      ∀ deed ∈ deeds, ∃ actor, x.agent.deed? actor x.site = some deed := by
  have hnone : ∀ deed ∈ ([] : List Deed), ∃ actor, x.agent.deed? actor x.site = some deed :=
    fun _ hdeed => absurd hdeed List.not_mem_nil
  cases event with
  | call => exact ⟨[], rfl, hnone⟩
  | proceed caller =>
      generalize hy : x.happen (.proceed caller) = y
      have hstep : x.CallStep caller y := hy ▸ x.proceed_step caller
      cases hstep <;> exact ⟨[], rfl, hnone⟩
  | other move hother =>
      cases move with
      | act actor => exact ⟨_, rfl, fun deed hdeed => ⟨actor, Option.mem_toList.1 hdeed⟩⟩
      | stop => exact absurd hother (by decide)
      | _ => exact ⟨[], rfl, hnone⟩

/-- Once an agent was told to end, nothing is added to its history but its deregistration. -/
theorem history_of_isCancelled (h : x.agent.isCancelled = true) (later : List Event) :
    ∃ deeds, (later.foldl happen x).history = deeds ++ x.history ∧
      ∀ deed ∈ deeds, deed.IsDeparture := by
  induction later generalizing x with
  | nil => exact ⟨[], rfl, nofun⟩
  | cons event later ih =>
      obtain ⟨first, hfirst, hacts⟩ := x.happen_history event
      obtain ⟨rest, hrest, hdepart⟩ := ih (isCancelled_happen h event)
      refine ⟨rest ++ first, ?_, ?_⟩
      · rw [List.foldl_cons, hrest, hfirst, List.append_assoc]
      · intro deed hmem
        rcases List.mem_append.1 hmem with hlate | hearly
        · exact hdepart deed hlate
        · obtain ⟨actor, hdeed⟩ := hacts deed hearly
          exact deed?_of_isCancelled h hdeed

end Attended

end NodeFleet.Agent
