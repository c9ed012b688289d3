import Mathlib.Data.List.Basic
import NodeFleet.Proofs.Agent.Step
import NodeFleet.Proofs.ControlPlane.History

/-!
# Runs of one agent

A run of one agent is any sequence of moves: its actors take steps, it is told to end,
workloads are submitted and released, the clock moves on, other agents draw uids, and the
control plane serves others, or is changed from outside so that it answers as it likes.
An actor may act at any time, whether it is due or not, so the runs that follow the
schedule are among these.

The run keeps the agent's calls with their results and the losses of its identity, the last
first.  They are read off the agent before and after each step: `Agent.request?` is the
call that an actor has in flight, and `Agent.deed?` what a step does to it.
-/

namespace NodeFleet

/-- The error of a call that failed. -/
def failure? {α : Type} : Except CallError α → Option CallError
  | .ok _ => none
  | .error error => some error

/-- A loop that runs. -/
def LoopSlot.loop? {α : Type} : LoopSlot α → Option α
  | .running loop => some loop
  | _ => none

namespace Agent

/-! ## What an agent does -/

/-- A call in flight, with the error with which it fails when it is settled. -/
structure Request where
  operation : Operation
  identity : Identity
  failure : Option CallError

/-- A renewal in flight. -/
def renewal (site : Site) (h : Heartbeat) (call : Call) : Request :=
  ⟨.renewLease, h.identity, failure? (site.settleRenew call h.identity h.version).1⟩

/-- A publication in flight. -/
def publication (site : Site) (s : StatusSync) (flight : Publication) : Request :=
  ⟨.publishStatus, s.identity,
    failure? (site.settlePublish flight.call s.identity flight.snapshot).1⟩

/-- The call that an actor has in flight. -/
def request? (a : Agent) (site : Site) (actor : Actor) : Option Request :=
  match a.stage, actor with
  | .registering attempt call, .task =>
      some ⟨.register, attempt.identity,
        failure? (site.settleRegister call attempt.identity a.setup.profile).1⟩
  | .deregistering identity call, .task =>
      some ⟨.deregister, identity, failure? (site.settleDeregister call identity).1⟩
  | .running loops, .heartbeat =>
      loops.heartbeat.loop?.bind fun h => h.call.map (renewal site h)
  | .running loops, .statusSync =>
      loops.statusSync.loop?.bind fun s => s.flight.map (publication site s)
  | _, _ => none

/-- Whether an actor that is told to end gives up the call that it has in flight. -/
def isDropping (a : Agent) : Bool :=
  match a.stage with
  | .registering _ _ => a.isCancelled
  | .running loops => a.isHalting loops
  | _ => false

/-- What an agent did. -/
inductive Deed where
  | began (operation : Operation) (identity : Identity)
  /-- A call was settled: it succeeded or failed. -/
  | ended (operation : Operation) (identity : Identity) (failure : Option CallError)
  /-- Both loops have returned, and one of them had lost the identity. -/
  | lost (identity : Identity)

/-- What a step of an actor does. -/
def deed? (a : Agent) (actor : Actor) (site : Site) : Option Deed :=
  let (after, later) := a.act actor site
  match a.request? site actor with
  | some request =>
      if a.isDropping then none
      else some (.ended request.operation request.identity request.failure)
  | none =>
      match after.request? later actor with
      | some request => some (.began request.operation request.identity)
      | none =>
          match a.stage, after.stage with
          | .running loops, .waiting _ _ => some (.lost loops.identity)
          | _, _ => none

section Deeds

variable {a : Agent} {actor : Actor} {site : Site}

/-- A step after which no call is in flight is silent, unless it settles one or takes up a loss. -/
theorem deed?_eq_none (hbefore : a.request? site actor = none ∨ a.isDropping = true)
    (hafter : (a.act actor site).1.request? (a.act actor site).2 actor = none)
    (hstage : ∀ generation wake, (a.act actor site).1.stage ≠ .waiting generation wake) :
    a.deed? actor site = none := by
  unfold deed?
  cases hrequest : a.request? site actor with
  | some request =>
      have hdropping : a.isDropping = true := hbefore.resolve_left (by simp [hrequest])
      simp [hdropping]
  | none =>
      simp only [hafter]
      split
      · exact absurd ‹_› (hstage _ _)
      · rfl

theorem deed?_eq_began {operation : Operation} {identity : Identity}
    (hbefore : a.request? site actor = none)
    (hafter : ((a.act actor site).1.request? (a.act actor site).2 actor).map
      (fun request => (request.operation, request.identity)) = some (operation, identity)) :
    a.deed? actor site = some (.began operation identity) := by
  obtain ⟨request, hrequest, hcarries⟩ := Option.map_eq_some_iff.1 hafter
  obtain ⟨rfl, rfl⟩ := Prod.mk.inj hcarries
  simp only [deed?, hbefore, hrequest]

theorem deed?_eq_lost {loops : Loops} {generation : Nat} {wake : Instant}
    (hbefore : a.request? site actor = none) (hstage : a.stage = .running loops)
    (hafter : (a.act actor site).1.stage = .waiting generation wake) :
    a.deed? actor site = some (.lost loops.identity) := by
  have hrequest : (a.act actor site).1.request? (a.act actor site).2 actor = none := by
    simp only [request?, hafter]
  simp only [deed?, hbefore, hrequest, hstage, hafter]

theorem deed?_eq_ended (request : Request) (hbefore : a.request? site actor = some request)
    (hkept : a.isDropping = false) :
    a.deed? actor site = some (.ended request.operation request.identity request.failure) := by
  simp only [deed?, hbefore, hkept]
  rfl

/-- An actor without a call and with nothing to do is silent. -/
theorem deed?_of_idle (hact : a.act actor site = (a, site))
    (hrequest : a.request? site actor = none) : a.deed? actor site = none := by
  simp only [deed?, hact, hrequest]
  cases a.stage <;> rfl

theorem request?_heartbeat_of_idle
    (hidle : ∀ loops h, a.stage = .running loops → loops.heartbeat ≠ .running h) :
    a.request? site .heartbeat = none := by
  cases hstage : a.stage with
  | running loops =>
      cases hslot : loops.heartbeat with
      | running h => exact absurd hslot (hidle loops h hstage)
      | _ => simp only [request?, hstage, hslot, LoopSlot.loop?, Option.bind_none]
  | _ => simp only [request?, hstage]

theorem request?_statusSync_of_idle
    (hidle : ∀ loops s, a.stage = .running loops → loops.statusSync ≠ .running s) :
    a.request? site .statusSync = none := by
  cases hstage : a.stage with
  | running loops =>
      cases hslot : loops.statusSync with
      | running s => exact absurd hslot (hidle loops s hstage)
      | _ => simp only [request?, hstage, hslot, LoopSlot.loop?, Option.bind_none]
  | _ => simp only [request?, hstage]

/-- A task that has ended has no call in flight. -/
theorem request?_task_of_idle (hidle : a.stage = .finished ∨ a.stage = .aborted) :
    a.request? site .task = none := by
  rcases hidle with hstage | hstage <;> simp only [request?, hstage]

theorem request?_stopper (a : Agent) (site : Site) : a.request? site .stopper = none := by
  unfold request?
  cases a.stage <;> rfl

theorem deed?_stopper (a : Agent) (site : Site) : a.deed? .stopper site = none := by
  have hstep := a.act_step site .stopper
  generalize hact : a.act .stopper site = later at hstep
  simp only [deed?, hact, request?_stopper]
  cases hstep <;> cases a.stage <;> rfl

/-- A task that ends without having registered is silent. -/
theorem deed?_of_quit {shown : Site} (hact : a.act .task site = a.windUp none shown)
    (hbefore : a.request? site .task = none ∨ a.isDropping = true) :
    a.deed? .task site = none := by
  refine deed?_eq_none hbefore ?_ ?_
  · rw [hact]
    rfl
  · rw [hact]
    exact nofun

/-- Taking note of a loop that has returned is silent. -/
theorem deed?_of_joined {loops joined : Loops} (hstage : a.stage = .running loops)
    (hact : a.act .task site = ({ a with stage := .running joined }, site)) :
    a.deed? .task site = none := by
  refine deed?_eq_none (.inl (by simp only [request?, hstage])) ?_ (by simp [hact])
  rw [hact]
  rfl

/-- A loop that is told to end gives up the call that it has in flight, and begins none. -/
theorem deed?_of_halted {loops halted : Loops} (hstage : a.stage = .running loops)
    (hhalting : a.isHalting loops = true)
    (hact : a.act actor site = ({ a with stage := .running halted }, site))
    (hafter : Agent.request? { a with stage := .running halted } site actor = none) :
    a.deed? actor site = none := by
  refine deed?_eq_none (.inr (by simp only [isDropping, hstage, hhalting])) ?_ (by simp [hact])
  rw [hact]
  exact hafter

theorem deed?_of_leaving {loops : Loops} {identity : Identity} (hstage : a.stage = .running loops)
    (hact : a.act .task site = a.windUp (some identity) site) :
    a.deed? .task site = some (.began .deregister identity) := by
  refine deed?_eq_began (by simp only [request?, hstage]) ?_
  rw [hact]
  rfl

theorem deed?_of_deregistering {identity : Identity} {call : Call}
    (hstage : a.stage = .deregistering identity call) :
    a.deed? .task site =
      some (.ended .deregister identity (failure? (site.settleDeregister call identity).1)) := by
  rw [deed?_eq_ended ⟨.deregister, identity, failure? (site.settleDeregister call identity).1⟩]
  · simp only [request?, hstage]
  · simp only [isDropping, hstage]

end Deeds

/-! ## Runs -/

/-- An agent with what it has done, the last first. -/
structure Recorded where
  agent : Agent
  site : Site
  history : List Deed

/-- Something that happens to an agent. -/
inductive Move where
  /-- An actor takes a step. -/
  | act (actor : Actor)
  | stop
  | submit (workload : String) (request : ResourceRequest)
  | release (workload : String)
  | wait (instant : Instant)
  /-- Something happens to the control plane. -/
  | plane (event : ControlPlane.Event)
  /-- The control plane becomes another. -/
  | control (plane : ControlPlane)
  /-- Other agents draw uids. -/
  | draw (count : Nat)

/-- Lets a move happen. -/
def Recorded.move (r : Recorded) : Move → Recorded
  | .act actor =>
      let (agent, site) := r.agent.act actor r.site
      { agent, site, history := (r.agent.deed? actor r.site).toList ++ r.history }
  | .stop =>
      let (_, agent, site) := r.agent.stop r.site
      { r with agent, site }
  | .submit workload request =>
      let (_, agent, site) := r.agent.submit workload request r.site
      { r with agent, site }
  | .release workload =>
      let (_, agent, site) := r.agent.release workload r.site
      { r with agent, site }
  | .wait instant => { r with site := r.site.advanceTo instant }
  | .plane event => { r with site := { r.site with plane := (r.site.plane.happen event).2 } }
  | .control plane => { r with site := { r.site with plane } }
  | .draw count => { r with site := { r.site with drawn := r.site.drawn + count } }

/-- Lets moves happen to a new agent, one after the other. -/
def run (setup : AgentSetup) (site : Site) (moves : List Move) : Recorded :=
  moves.foldl Recorded.move { agent := .create setup, site, history := [] }

theorem run_concat (setup : AgentSetup) (site : Site) (moves : List Move) (move : Move) :
    run setup site (moves ++ [move]) = (run setup site moves).move move := by
  simp [run]

end Agent

end NodeFleet
