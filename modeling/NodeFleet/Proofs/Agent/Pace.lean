import NodeFleet.Proofs.Agent.Frame
import NodeFleet.Proofs.Agent.Identity

/-!
# Runs by the clock

Here an actor acts only when it is due, though perhaps late, and what the agent does is
written down with the instant at which it did it.  The rest of a run is as before: calls are
answered as the control plane likes or not at all, and the agent may be told to end.

`Pace` says what a step does that bears on the instants of later registrations: which waits
it begins, and until when.  `act_pace` reads it off the turns of `Turn`, which tell the deeds
and the stages, and `act_timing`, which adds the instants.
-/

namespace NodeFleet

/-- Whether the agent does not register any more. -/
def Stage.isLeaving : Stage → Bool
  | .deregistering _ _ => true
  | .finished => true
  | .aborted => true
  | _ => false

namespace Agent

/-! ## Runs -/

/-- What an agent did and when, the last first. -/
abbrev Chronology := List (Instant × Deed)

structure Clocked where
  agent : Agent
  site : Site
  history : Chronology

/-- Whether a move may happen: an actor has to be due. -/
def Clocked.allows (c : Clocked) : Move → Bool
  | .act actor => (c.agent.due? actor).any (· ≤ c.site.now)
  | _ => true

/-- Lets a move happen that may. -/
def Clocked.move (c : Clocked) (m : Move) : Clocked :=
  if c.allows m then
    let r := Recorded.move ⟨c.agent, c.site, []⟩ m
    { agent := r.agent
      site := r.site
      history := r.history.map (fun deed => (c.site.now, deed)) ++ c.history }
  else c

/-- Lets moves happen to a new agent, one after the other. -/
def clock (setup : AgentSetup) (site : Site) (moves : List Move) : Clocked :=
  moves.foldl Clocked.move { agent := .create setup, site, history := [] }

theorem clock_concat (setup : AgentSetup) (site : Site) (moves : List Move) (m : Move) :
    clock setup site (moves ++ [m]) = (clock setup site moves).move m := by
  simp [clock]

/-- Whether the clock stays where something is due. -/
def Clocked.IsTimely (c : Clocked) (m : Move) : Prop :=
  ∀ instant, m = .wait instant → ∀ actor due, c.agent.due? actor = some due →
    instant ≤ max due c.site.now

/-- Whether whatever is due happens before the clock moves on. -/
def IsTimely (setup : AgentSetup) (site : Site) (moves : List Move) : Prop :=
  ∀ earlier m later, moves = earlier ++ m :: later → (clock setup site earlier).IsTimely m

theorem IsTimely.of_concat {setup : AgentSetup} {site : Site} {moves : List Move} {m : Move}
    (h : IsTimely setup site (moves ++ [m])) :
    IsTimely setup site moves ∧ (clock setup site moves).IsTimely m := by
  constructor
  · intro earlier other later heq
    exact h earlier other (later ++ [m]) (by rw [heq, List.append_assoc, List.cons_append])
  · exact h moves m [] rfl

/-- A run by the clock is a run. -/
theorem exists_clock_eq (setup : AgentSetup) (site : Site) (moves : List Move) :
    ∃ happened, run setup site happened =
      { agent := (clock setup site moves).agent
        site := (clock setup site moves).site
        history := (clock setup site moves).history.map Prod.snd } := by
  induction moves using List.reverseRecOn with
  | nil => exact ⟨[], rfl⟩
  | append_singleton moves m ih =>
      obtain ⟨happened, hrun⟩ := ih
      rw [clock_concat, Clocked.move]
      split_ifs
      · refine ⟨happened ++ [m], ?_⟩
        rw [run_concat, hrun]
        cases m <;> simp [Recorded.move, Function.comp_def]
      · exact ⟨happened, hrun⟩

/-! ## The instants that a step fixes -/

/-- The backoff that an attempt begins with. -/
def freshBackoff (a : Agent) : Backoff := .start a.setup.retry.backoffBase a.setup.retry.backoffMax

/-- What a step that leads from one stage to another says of the waits. -/
def Timing (a : Agent) (now : Instant) (later : Agent) : Prop :=
  match a.stage, later.stage with
  | .running loops, .waiting _ wake =>
      let backoff := a.reregistrationBackoff loops.anchor now
      later.reregistration = backoff.fail ∧ wake = now + backoff.delay
  | before, after =>
      later.reregistration = a.reregistration ∧
        match before, after with
        | .created, .registering attempt _ => attempt.backoff = a.freshBackoff
        | .waiting _ _, .registering attempt _ =>
            a.isCancelled = false ∧ attempt.backoff = a.freshBackoff
        | .retrying attempt _, .registering next _ =>
            a.isCancelled = false ∧ next.backoff = attempt.backoff
        | .registering attempt _, .retrying next wake =>
            next.backoff = attempt.backoff.fail ∧ wake = now + attempt.backoff.delay
        | .registering _ _, .running loops => loops.anchor = now
        | .running loops, .running next => next.anchor = loops.anchor
        | _, _ => True

section Timing

variable {a later : Agent} {now : Instant}

theorem Timing.of_eq (hstage : later.stage = a.stage)
    (hbackoff : later.reregistration = a.reregistration) : Timing a now later := by
  unfold Timing
  rw [hstage]
  cases a.stage <;> exact ⟨hbackoff, by trivial⟩

theorem Timing.running {loops next : Loops} (hbefore : a.stage = .running loops)
    (hafter : later.stage = .running next) (hanchor : next.anchor = loops.anchor)
    (hbackoff : later.reregistration = a.reregistration) : Timing a now later := by
  unfold Timing
  rw [hbefore, hafter]
  exact ⟨hbackoff, hanchor⟩

theorem Timing.finished (hafter : later.stage = .finished)
    (hbackoff : later.reregistration = a.reregistration) : Timing a now later := by
  unfold Timing
  rw [hafter]
  cases a.stage <;> exact ⟨hbackoff, trivial⟩

end Timing

theorem nextAttempt_backoff (attempt : RegistrationAttempt) (error : CallError) (site : Site) :
    (nextAttempt attempt error site).1.backoff = attempt.backoff.fail := by
  cases error <;> rfl

theorem settled_timing {attempt : RegistrationAttempt} {call : Call} (a : Agent) (site : Site)
    (hstage : a.stage = .registering attempt call) :
    let settled := site.settleRegister call attempt.identity a.setup.profile
    Timing a site.now (a.afterRegister attempt settled.1 settled.2).1 := by
  intro settled
  have hnow : settled.2.now = site.now := congrArg Prod.fst (site.frame_settle call _)
  unfold Timing
  rw [hstage]
  cases settled.1 with
  | ok version => exact ⟨rfl, hnow⟩
  | error error =>
      exact ⟨rfl, nextAttempt_backoff attempt error _,
        congrArg (· + attempt.backoff.delay) hnow⟩

/-- Every step keeps to the timing. -/
theorem act_timing (a : Agent) (site : Site) (actor : Actor) :
    Timing a site.now (a.act actor site).1 := by
  have hstep := a.act_step site actor
  generalize a.act actor site = later at hstep ⊢
  cases hstep with
  | declined | quitWaiting | quitRegistering | quitRetrying | left => exact .finished rfl rfl
  | entered hstage =>
      unfold Timing
      rw [hstage]
      exact ⟨rfl, rfl⟩
  | attempted hstage hkept | repeated hstage hkept =>
      unfold Timing
      rw [hstage]
      exact ⟨rfl, hkept, rfl⟩
  | settled hstage => exact a.settled_timing site hstage
  | @joined loops hstage =>
      have hanchor : loops.join.anchor = loops.anchor := by rw [loops.join_eq]
      exact .running hstage rfl hanchor rfl
  | leaving hstage =>
      unfold Timing
      rw [hstage]
      exact ⟨rfl, trivial⟩
  | @lost loops error hstage =>
      have hbackoff : a.reregistrationBackoff loops.join.anchor site.now =
          a.reregistrationBackoff loops.anchor site.now := by rw [loops.join_eq]
      unfold Timing
      rw [hstage]
      exact ⟨congrArg Backoff.fail hbackoff,
        congrArg (fun backoff => site.now + backoff.delay) hbackoff⟩
  | heartbeatHalted hstage | heartbeatWorked hstage | statusSyncHalted hstage
  | statusSyncWorked hstage => exact .running hstage rfl rfl rfl
  | taskIdle | heartbeatIdle | statusSyncIdle | released => exact .of_eq rfl rfl
  | abandoned =>
      unfold Timing
      cases a.stage <;> exact ⟨rfl, trivial⟩

/-! ## Steps -/

/-- Whether a deed is neither part of a registration nor the loss of an identity. -/
def Deed.isQuiet : Deed → Bool
  | .began .register _ => false
  | .ended .register _ _ => false
  | .lost _ => false
  | _ => true

/-- What a step does that bears on the instants of registrations. -/
inductive Pace (a : Agent) (now : Instant) : Option Deed → Agent → Prop where
  | kept {later : Agent} (hstage : later.stage = a.stage)
      (hbackoff : later.reregistration = a.reregistration) : Pace a now none later
  | left {deed : Option Deed} {later : Agent} (hquiet : ∀ d ∈ deed, d.isQuiet = true)
      (hlater : later.stage.isLeaving = true)
      (hbackoff : later.reregistration = a.reregistration) : Pace a now deed later
  /-- The loops go on. -/
  | worked {deed : Option Deed} {later : Agent} {loops next : Loops}
      (hquiet : ∀ d ∈ deed, d.isQuiet = true) (hstage : a.stage = .running loops)
      (hlater : later.stage = .running next) (hanchor : next.anchor = loops.anchor)
      (hbackoff : later.reregistration = a.reregistration) : Pace a now deed later
  | attempted {later : Agent} {identity : Identity} {attempt : RegistrationAttempt} {call : Call}
      (hstage : a.stage = .created ∨
        a.isCancelled = false ∧ ∃ generation wake, a.stage = .waiting generation wake)
      (hlater : later.stage = .registering attempt call)
      (hfresh : attempt.backoff = a.freshBackoff)
      (hbackoff : later.reregistration = a.reregistration) :
      Pace a now (some (.began .register identity)) later
  | repeated {later : Agent} {identity : Identity} {attempt next : RegistrationAttempt}
      {wake : Instant} {call : Call} (hcancelled : a.isCancelled = false)
      (hstage : a.stage = .retrying attempt wake) (hlater : later.stage = .registering next call)
      (hsame : next.backoff = attempt.backoff)
      (hbackoff : later.reregistration = a.reregistration) :
      Pace a now (some (.began .register identity)) later
  | granted {later : Agent} {identity : Identity} {attempt : RegistrationAttempt} {call : Call}
      {loops : Loops} (hstage : a.stage = .registering attempt call)
      (hlater : later.stage = .running loops) (hanchor : loops.anchor = now)
      (hbackoff : later.reregistration = a.reregistration) :
      Pace a now (some (.ended .register identity none)) later
  | refused {later : Agent} {identity : Identity} {error : CallError}
      {attempt next : RegistrationAttempt} {call : Call}
      (hstage : a.stage = .registering attempt call)
      (hlater : later.stage = .retrying next (now + attempt.backoff.delay))
      (hnext : next.backoff = attempt.backoff.fail)
      (hbackoff : later.reregistration = a.reregistration) :
      Pace a now (some (.ended .register identity (some error))) later
  | lost {later : Agent} {identity : Identity} {loops : Loops} {generation : Nat}
      (hstage : a.stage = .running loops)
      (hlater : later.stage =
        .waiting generation (now + (a.reregistrationBackoff loops.anchor now).delay))
      (hbackoff : later.reregistration = (a.reregistrationBackoff loops.anchor now).fail) :
      Pace a now (some (.lost identity)) later

section Steps

variable {a later : Agent} {now : Instant}

theorem Timing.kept (h : Timing a now later) (hstage : later.stage = a.stage) :
    later.reregistration = a.reregistration := by
  unfold Timing at h
  split at h
  · rename_i hbefore hafter
    rw [hbefore, hafter] at hstage
    exact nomatch hstage
  · exact h.1

theorem Timing.leaves (h : Timing a now later) (hlater : later.stage.isLeaving = true) :
    later.reregistration = a.reregistration := by
  unfold Timing at h
  split at h
  · rename_i hafter
    rw [hafter] at hlater
    exact absurd hlater Bool.false_ne_true
  · exact h.1

theorem Timing.works (h : Timing a now later) {loops next : Loops} {deed : Option Deed}
    (hquiet : ∀ d ∈ deed, d.isQuiet = true) (hstage : a.stage = .running loops)
    (hlater : later.stage = .running next) : Pace a now deed later := by
  unfold Timing at h
  rw [hstage, hlater] at h
  exact .worked hquiet hstage hlater h.2 h.1

end Steps

/-- What any actor does is one of these steps. -/
theorem act_pace (a : Agent) (actor : Actor) (site : Site) :
    Pace a site.now (a.deed? actor site) (a.act actor site).1 := by
  have htiming := a.act_timing site actor
  have hturn := a.act_turn site actor
  generalize a.deed? actor site = deed at hturn ⊢
  generalize hview : (a.act actor site).1.view (a.act actor site).2 = after at hturn
  have hlater : (a.act actor site).1.stage = after.stage := congrArg View.stage hview
  clear hview
  generalize (a.act actor site).1 = later at htiming hlater ⊢
  cases hturn with
  | rested => exact .kept hlater (htiming.kept hlater)
  | ended hstage =>
      have hleaving : later.stage.isLeaving = true := by
        rcases hstage with rfl | rfl <;> rw [hlater] <;> rfl
      exact .left nofun hleaving (htiming.leaves hleaving)
  | attempted hstage hidentity =>
      unfold Timing at htiming
      rcases hstage with ⟨hstage, -⟩ | ⟨wake, hstage⟩
      · rw [hstage, hlater] at htiming
        exact .attempted (.inl hstage) hlater htiming.2 htiming.1
      · rw [hstage, hlater] at htiming
        exact .attempted (.inr ⟨htiming.2.1, _, wake, hstage⟩) hlater htiming.2.2 htiming.1
  | repeated hstage =>
      unfold Timing at htiming
      rw [hstage, hlater] at htiming
      exact .repeated htiming.2.1 hstage hlater htiming.2.2 htiming.1
  | granted hstage hsettle =>
      unfold Timing at htiming
      rw [hstage, hlater] at htiming
      exact .granted hstage hlater htiming.2 htiming.1
  | refused hstage hsettle =>
      unfold Timing at htiming
      rw [hstage, hlater] at htiming
      obtain ⟨hbackoff, hnext, rfl⟩ := htiming
      exact .refused hstage hlater hnext hbackoff
  | lost hstage hlost =>
      unfold Timing at htiming
      rw [hstage, hlater] at htiming
      obtain ⟨hbackoff, rfl⟩ := htiming
      exact .lost hstage hlater hbackoff
  | joined hstage => exact htiming.works nofun hstage hlater
  | heartbeatHalted hstage => exact htiming.works nofun hstage hlater
  | renewing hstage hslot => exact htiming.works (by simp [Deed.isQuiet]) hstage hlater
  | renewed hstage hslot hsettle => exact htiming.works (by simp [Deed.isQuiet]) hstage hlater
  | statusSyncHalted hstage => exact htiming.works nofun hstage hlater
  | ticked hstage hslot hidentity => exact htiming.works (by simp [Deed.isQuiet]) hstage hlater
  | published hstage hslot hsettle => exact htiming.works (by simp [Deed.isQuiet]) hstage hlater
  | leaving hstage =>
      have hleaving : later.stage.isLeaving = true := by rw [hlater]; rfl
      exact .left (by simp [Deed.isQuiet]) hleaving (htiming.leaves hleaving)
  | left hstage hsettle =>
      have hleaving : later.stage.isLeaving = true := by rw [hlater]; rfl
      exact .left (by simp [Deed.isQuiet]) hleaving (htiming.leaves hleaving)

end Agent

end NodeFleet
