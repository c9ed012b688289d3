import Mathlib.Data.List.Basic
import NodeFleet.ControlPlane

/-!
# Histories of a control plane

A run of a control plane is any sequence of completed calls, by any number of callers,
mixed with control from outside.  `ControlPlane.run` keeps the events with their answers,
the last first, so that what a control plane does now can be compared with what it has
answered before.

The rest says once what a completed call can do: `complete_cases` for the frame that all
four operations share, and one lemma for each operation's effect on the table of nodes.
-/

namespace NodeFleet.ControlPlane

/-! ## Events and runs -/

/-- Something that happens to a control plane. -/
inductive Event where
  | register (caller : Identity) (profile : Profile) (now : Instant) (wall : Timestamp)
  | renew (caller : Identity) (version : Nat) (now : Instant) (wall : Timestamp)
  | publish (caller : Identity) (snapshot : StatusSnapshot) (now : Instant)
  | deregister (caller : Identity) (now : Instant)
  /-- Somebody else takes over the lease of a node. -/
  | supersede (name : String)
  /-- A node is removed from outside. -/
  | removeNode (name : String)
  /-- Faults are queued. -/
  | failNext (operation : Operation) (count : Nat) (error : CallError)
  /-- Calls take another time from now on. -/
  | setLatency (latency : Duration)

/-- The call that an event is. -/
def Event.call? : Event → Option (Operation × Identity)
  | .register caller _ _ _ => some (.register, caller)
  | .renew caller _ _ _ => some (.renewLease, caller)
  | .publish caller _ _ => some (.publishStatus, caller)
  | .deregister caller _ => some (.deregister, caller)
  | _ => none

/-- What an event is answered with. -/
inductive Answer where
  /-- A registration or renewal succeeded, with this lease version. -/
  | granted (version : Nat)
  /-- A publication or deregistration succeeded. -/
  | accepted
  /-- The call failed. -/
  | refused (error : CallError)
  /-- Whether there was a node of that name. -/
  | found (there : Bool)
  /-- There is nothing to say. -/
  | noted

/-- The answer that a call's result makes. -/
def Answer.ofResult {α : Type} (success : α → Answer) : Except CallError α → Answer
  | .ok result => success result
  | .error error => .refused error

/-- Lets an event happen. -/
def happen (p : ControlPlane) : Event → Answer × ControlPlane
  | .register caller profile now wall =>
      let (result, p) := p.register caller profile now wall
      (.ofResult .granted result, p)
  | .renew caller version now wall =>
      let (result, p) := p.renew caller version now wall
      (.ofResult .granted result, p)
  | .publish caller snapshot now =>
      let (result, p) := p.publish caller snapshot now
      (.ofResult (fun _ => .accepted) result, p)
  | .deregister caller now =>
      let (result, p) := p.deregister caller now
      (.ofResult (fun _ => .accepted) result, p)
  | .supersede name =>
      let (there, p) := p.supersede name
      (.found there, p)
  | .removeNode name =>
      let (there, p) := p.removeNode name
      (.found there, p)
  | .failNext operation count error => (.noted, p.failNext operation count error)
  | .setLatency latency => (.noted, p.setLatency latency)

/-- Events and their answers, the last first. -/
abbrev History := List (Event × Answer)

/-- A control plane with its history. -/
structure Recorded where
  plane : ControlPlane
  history : History

/-- Lets an event happen and writes it down. -/
def Recorded.happen (r : Recorded) (event : Event) : Recorded :=
  let (answer, plane) := r.plane.happen event
  { plane, history := (event, answer) :: r.history }

/-- Lets events happen one after the other. -/
def run (p : ControlPlane) (events : List Event) : Recorded :=
  events.foldl Recorded.happen { plane := p, history := [] }

theorem run_concat (p : ControlPlane) (events : List Event) (event : Event) :
    run p (events ++ [event]) = (run p events).happen event := by
  simp [run]

/-! ## Completing a call -/

section Complete

variable {α : Type} (p : ControlPlane) (operation : Operation) (caller : Identity)
  (now : Instant) (effect : Effect α)

/-- A completed call fails and leaves the nodes alone, or it has its effect. -/
theorem complete_cases :
    (∃ error, (p.complete operation caller now effect).1 = .error error ∧
      (p.complete operation caller now effect).2.nodes = p.nodes) ∨
    (∃ result nodes, effect p.nodes = .ok (result, nodes) ∧
      (p.complete operation caller now effect).1 = .ok result ∧
      (p.complete operation caller now effect).2.nodes = nodes) := by
  unfold complete
  obtain ⟨fault, faults⟩ := takeFault operation p.faults
  cases fault with
  | some error => exact .inl ⟨error, rfl, rfl⟩
  | none =>
      dsimp only
      cases heffect : effect p.nodes with
      | error error => exact .inl ⟨error, rfl, rfl⟩
      | ok done => exact .inr ⟨done.1, done.2, rfl, rfl, rfl⟩

/-- A completed call succeeds exactly if no fault is queued for it and its effect does. -/
theorem complete_eq_ok_iff {result : α} :
    (p.complete operation caller now effect).1 = .ok result ↔
      (takeFault operation p.faults).1 = none ∧
        ∃ nodes, effect p.nodes = .ok (result, nodes) := by
  unfold complete
  obtain ⟨fault, faults⟩ := takeFault operation p.faults
  cases fault with
  | some error => simp
  | none =>
      dsimp only
      cases heffect : effect p.nodes with
      | error error => simp
      | ok done => simp [Prod.ext_iff]

end Complete

/-! ## The effects -/

theorem held_eq_ok_iff {caller : Identity} {nodes : Table Node} {node : Node} :
    held caller nodes = .ok node ↔
      nodes.find? caller.name = some node ∧ node.uid = caller.uid := by
  unfold held
  cases hfind : nodes.find? caller.name with
  | none => simp
  | some found =>
      dsimp only
      split_ifs with huid
      · simp only [Except.ok.injEq, Option.some.injEq]
        exact ⟨fun h => ⟨h, h ▸ huid⟩, And.left⟩
      · simp only [Option.some.injEq, false_iff, not_and]
        exact fun h => h ▸ huid

/-- Registering always works: the node is the caller's, one version above the last. -/
theorem registering_eq (caller : Identity) (profile : Profile) (wall : Timestamp)
    (nodes : Table Node) :
    ∃ node : Node, node.uid = caller.uid ∧
      node.leaseVersion = (nodes.find? caller.name).elim 0 Node.leaseVersion + 1 ∧
      registering caller profile wall nodes =
        .ok (node.leaseVersion, nodes.insert caller.name node) := by
  refine ⟨{ uid := caller.uid, generation := caller.generation, .. }, rfl, ?_, rfl⟩
  rfl

theorem bind_eq_ok_iff {α β : Type} {x : Except CallError α} {f : α → Except CallError β} {b : β} :
    (x >>= f) = .ok b ↔ ∃ a, x = .ok a ∧ f a = .ok b := by
  cases x with
  | error error => simp [bind, Except.bind]
  | ok a => simp [bind, Except.bind]

/-- Renewing works exactly for the holder with the current version, and raises it by one. -/
theorem renewing_eq_ok_iff {caller : Identity} {version granted : Nat} {wall : Timestamp}
    {nodes changed : Table Node} :
    renewing caller version wall nodes = .ok (granted, changed) ↔
      ∃ node, nodes.find? caller.name = some node ∧ node.uid = caller.uid ∧
        node.leaseVersion = version ∧ granted = version + 1 ∧
        changed = nodes.insert caller.name
          { node with leaseVersion := version + 1, renewedAt := some wall } := by
  unfold renewing
  rw [bind_eq_ok_iff]
  refine exists_congr fun node => ?_
  rw [held_eq_ok_iff, and_assoc]
  refine and_congr_right fun _ => and_congr_right fun _ => ?_
  by_cases hversion : node.leaseVersion = version
  · subst hversion
    simp [pure, Except.pure, eq_comm]
  · simp [hversion, throw, throwThe, MonadExceptOf.throw, bind, Except.bind]

theorem publishing_eq_ok_iff {caller : Identity} {snapshot : StatusSnapshot}
    {nodes changed : Table Node} :
    publishing caller snapshot nodes = .ok ((), changed) ↔
      ∃ node, nodes.find? caller.name = some node ∧ node.uid = caller.uid ∧
        changed = nodes.insert caller.name
          { node with status := some snapshot, publishCount := node.publishCount + 1 } := by
  unfold publishing
  rw [bind_eq_ok_iff]
  refine exists_congr fun node => ?_
  rw [held_eq_ok_iff, and_assoc]
  simp [pure, Except.pure, eq_comm]

theorem deregistering_eq_ok_iff {caller : Identity} {nodes changed : Table Node} :
    deregistering caller nodes = .ok ((), changed) ↔
      ∃ node, nodes.find? caller.name = some node ∧ node.uid = caller.uid ∧
        changed = nodes.erase caller.name := by
  unfold deregistering
  rw [bind_eq_ok_iff]
  refine exists_congr fun node => ?_
  rw [held_eq_ok_iff, and_assoc]
  simp [pure, Except.pure, eq_comm]

end NodeFleet.ControlPlane
