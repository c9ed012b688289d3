import Mathlib.Data.List.Infix
import NodeFleet.Proofs.ControlPlane.History

/-!
# The delivery of faults

Faults are queued in one list for all operations.  Each operation has a queue of its own in
it, `waiting`, which is first in first out: queued faults go to its end, a completed call
takes its head, and nothing else touches it (`takeFault_eq`, `waiting_happen_of_control`).

`Request` makes one definition of the four operations, so that what a completed call does is
said once, in `Completes`: it fails with the fault at the head of its queue, or it has its
effect.  For whole runs it follows that the faults that wait now go, in their order, to the
calls that are completed from now on (`Recorded.exists_answers`).
-/

namespace NodeFleet.ControlPlane

/-! ## The queue of an operation -/

/-- The faults of one operation among all, the next first. -/
def faultsOf (operation : Operation) (faults : List (Operation × CallError)) : List CallError :=
  faults.filterMap fun fault => if fault.1 = operation then some fault.2 else none

/-- The faults that wait for the calls of an operation, the next first. -/
def waiting (p : ControlPlane) (operation : Operation) : List CallError :=
  faultsOf operation p.faults

theorem faultsOf_cons (operation op : Operation) (error : CallError)
    (faults : List (Operation × CallError)) :
    faultsOf operation ((op, error) :: faults) =
      if op = operation then error :: faultsOf operation faults else faultsOf operation faults := by
  unfold faultsOf
  rw [List.filterMap_cons]
  by_cases hop : op = operation
  · simp only [hop, if_true]
  · simp only [hop, if_false]

/-- The fault that a call finds is the head of the queue of its operation, and only that is taken. -/
theorem takeFault_eq (operation : Operation) (faults : List (Operation × CallError)) :
    (takeFault operation faults).1 = (faultsOf operation faults).head? ∧
      faultsOf operation (takeFault operation faults).2 = (faultsOf operation faults).tail ∧
      ∀ other, other ≠ operation →
        faultsOf other (takeFault operation faults).2 = faultsOf other faults := by
  induction faults with
  | nil => exact ⟨rfl, rfl, fun _ _ => rfl⟩
  | cons first rest ih =>
      obtain ⟨op, error⟩ := first
      obtain ⟨hfound, hleft, hothers⟩ := ih
      by_cases hop : op = operation
      · subst hop
        simp only [takeFault, if_true, faultsOf_cons, List.head?_cons, List.tail_cons]
        exact ⟨trivial, trivial, fun other hother => by rw [if_neg hother.symm]⟩
      · simp only [takeFault, if_neg hop, faultsOf_cons]
        refine ⟨hfound, hleft, fun other hother => ?_⟩
        rw [hothers other hother]

theorem faults_complete {α : Type} (p : ControlPlane) (operation : Operation) (caller : Identity)
    (now : Instant) (effect : Effect α) :
    (p.complete operation caller now effect).2.faults = (takeFault operation p.faults).2 := by
  unfold complete
  obtain ⟨fault, faults⟩ := takeFault operation p.faults
  cases fault with
  | some error => rfl
  | none =>
      dsimp only
      cases effect p.nodes <;> rfl

theorem waiting_failNext (p : ControlPlane) (operation other : Operation) (count : Nat)
    (error : CallError) :
    (p.failNext operation count error).waiting other =
      p.waiting other ++ if operation = other then List.replicate count error else [] := by
  have hqueued : faultsOf other (List.replicate count (operation, error)) =
      if operation = other then List.replicate count error else [] := by
    induction count with
    | zero => simp [faultsOf]
    | succ count ih =>
        rw [List.replicate_succ, faultsOf_cons, ih]
        by_cases hop : operation = other <;> simp [hop, List.replicate_succ]
  simp only [waiting, failNext, faultsOf, List.filterMap_append]
  rw [← hqueued]
  rfl

/-! ## Calls as requests -/

/-- What a caller asks for. -/
inductive Request where
  | register (caller : Identity) (profile : Profile)
  | renew (caller : Identity) (version : Nat)
  | publish (caller : Identity) (snapshot : StatusSnapshot)
  | deregister (caller : Identity)

namespace Request

def operation : Request → Operation
  | .register _ _ => .register
  | .renew _ _ => .renewLease
  | .publish _ _ => .publishStatus
  | .deregister _ => .deregister

def caller : Request → Identity
  | .register caller _ => caller
  | .renew caller _ => caller
  | .publish caller _ => caller
  | .deregister caller => caller

/-- The event of completing the call at a time. -/
def event (now : Instant) (wall : Timestamp) : Request → Event
  | .register caller profile => .register caller profile now wall
  | .renew caller version => .renew caller version now wall
  | .publish caller snapshot => .publish caller snapshot now
  | .deregister caller => .deregister caller now

/-- What the call does to the nodes, with its answer. -/
def effect (wall : Timestamp) : Request → Effect Answer
  | .register caller profile => fun nodes =>
      (registering caller profile wall nodes).map (Prod.map .granted id)
  | .renew caller version => fun nodes =>
      (renewing caller version wall nodes).map (Prod.map .granted id)
  | .publish caller snapshot => fun nodes =>
      (publishing caller snapshot nodes).map (Prod.map (fun _ => .accepted) id)
  | .deregister caller => fun nodes =>
      (deregistering caller nodes).map (Prod.map (fun _ => .accepted) id)

/-- The answer of an effect and the nodes after it; a refusal leaves them as they were. -/
def settled (nodes : Table Node) : Except CallError (Answer × Table Node) → Answer × Table Node
  | .ok done => done
  | .error error => (.refused error, nodes)

/-- The answer to the call and the nodes after it, if no fault comes in between. -/
def outcome (wall : Timestamp) (request : Request) (nodes : Table Node) : Answer × Table Node :=
  settled nodes (request.effect wall nodes)

theorem map_eq_ok_iff {α β : Type} {x : Except CallError α} {f : α → β} {b : β} :
    x.map f = .ok b ↔ ∃ a, x = .ok a ∧ f a = b := by
  cases x with
  | error error => simp [Except.map]
  | ok a => simp [Except.map]

/-- A call has its effect on the node of its caller's name. -/
theorem find?_effect {request : Request} {wall : Timestamp} {nodes changed : Table Node}
    {answer : Answer} (h : request.effect wall nodes = .ok (answer, changed)) {name : String}
    (hname : name ≠ request.caller.name) : changed.find? name = nodes.find? name := by
  cases request with
  | register caller profile =>
      obtain ⟨node, -, -, heq⟩ := registering_eq caller profile wall nodes
      simp only [effect, heq] at h
      cases h
      exact (Table.find?_insert ..).trans (if_neg hname.symm)
  | renew caller version =>
      obtain ⟨⟨granted, table⟩, hdone, heq⟩ := map_eq_ok_iff.1 h
      obtain ⟨node, -, -, -, -, rfl⟩ := renewing_eq_ok_iff.1 hdone
      cases heq
      exact (Table.find?_insert ..).trans (if_neg hname.symm)
  | publish caller snapshot =>
      obtain ⟨⟨_, table⟩, hdone, heq⟩ := map_eq_ok_iff.1 h
      obtain ⟨node, -, -, rfl⟩ := publishing_eq_ok_iff.1 hdone
      cases heq
      exact (Table.find?_insert ..).trans (if_neg hname.symm)
  | deregister caller =>
      obtain ⟨⟨_, table⟩, hdone, heq⟩ := map_eq_ok_iff.1 h
      obtain ⟨node, -, -, rfl⟩ := deregistering_eq_ok_iff.1 hdone
      cases heq
      exact (Table.find?_erase ..).trans (if_neg hname.symm)

/-! ### The two look-ups of a call -/

/-- The same call by the holder of a certain uid. -/
def heldUnder (uid : String) : Request → Request
  | .register caller profile => .register { caller with uid } profile
  | .renew caller version => .renew { caller with uid } version
  | .publish caller snapshot => .publish { caller with uid } snapshot
  | .deregister caller => .deregister { caller with uid }

/-- The first look-up: whether the caller holds the node.  Registering asks nobody. -/
def check (request : Request) (nodes : Table Node) : Except CallError Unit :=
  match request with
  | .register _ _ => .ok ()
  | _ => (held request.caller nodes).map fun _ => ()

/-- The second look-up, and the change of the node that it finds, whoever holds it. -/
def change (wall : Timestamp) (request : Request) : Effect Answer := fun nodes =>
  match request with
  | .register _ _ => request.effect wall nodes
  | .deregister caller => .ok (.accepted, nodes.erase caller.name)
  | _ =>
      match nodes.find? request.caller.name with
      | none => .error (.notFound request.caller.name)
      | some node => (request.heldUnder node.uid).effect wall nodes

theorem effect_eq_of_held {request : Request} {wall : Timestamp} {nodes : Table Node} {node : Node}
    (hfind : nodes.find? request.caller.name = some node) (huid : node.uid = request.caller.uid) :
    request.effect wall nodes = request.change wall nodes := by
  have hheld : held request.caller nodes = .ok node := held_eq_ok_iff.2 ⟨hfind, huid⟩
  cases request with
  | register caller profile => rfl
  | renew caller version =>
      simp only [change, hfind, huid, heldUnder]
      rfl
  | publish caller snapshot =>
      simp only [change, hfind, huid, heldUnder]
      rfl
  | deregister caller =>
      have hcaller : held caller nodes = .ok node := hheld
      simp only [effect, deregistering, hcaller]
      rfl

/-- If nobody comes in between, the two look-ups find the same node. -/
theorem effect_eq (request : Request) (wall : Timestamp) (nodes : Table Node) :
    request.effect wall nodes = (request.check nodes >>= fun _ => request.change wall nodes) := by
  cases hheld : held request.caller nodes with
  | error error =>
      cases request with
      | register who profile => rfl
      | _ =>
          simp only [caller] at hheld
          simp only [effect, renewing, publishing, deregistering, check, caller, hheld]
          rfl
  | ok node =>
      obtain ⟨hfind, huid⟩ := held_eq_ok_iff.1 hheld
      rw [effect_eq_of_held hfind huid]
      cases request with
      | register who profile => rfl
      | _ =>
          simp only [check, hheld]
          rfl

/-- Whoever comes in between, the second look-up is for the caller's own name. -/
theorem find?_change {request : Request} {wall : Timestamp} {nodes changed : Table Node}
    {answer : Answer} (h : request.change wall nodes = .ok (answer, changed)) {name : String}
    (hname : name ≠ request.caller.name) : changed.find? name = nodes.find? name := by
  cases request with
  | register caller profile =>
      have heffect : (register caller profile).effect wall nodes = .ok (answer, changed) := h
      exact find?_effect heffect hname
  | deregister caller =>
      simp only [change] at h
      cases h
      exact (Table.find?_erase ..).trans (if_neg hname.symm)
  | renew caller version =>
      simp only [change] at h
      split at h
      · exact nomatch h
      · exact find?_effect h hname
  | publish caller snapshot =>
      simp only [change] at h
      split at h
      · exact nomatch h
      · exact find?_effect h hname

end Request

/-! ## A completed call -/

/-- What a completed call comes to. -/
structure Completes (p : ControlPlane) (request : Request) (wall : Timestamp) (answer : Answer)
    (later : ControlPlane) : Prop where
  /-- The first fault that waits for the operation is taken, and the call fails with it. -/
  faulted : ∀ error rest, p.waiting request.operation = error :: rest →
    answer = .refused error ∧ later.waiting request.operation = rest
  /-- Without a fault the call has its effect. -/
  served : p.waiting request.operation = [] →
    later.waiting request.operation = [] ∧ (answer, later.nodes) = request.outcome wall p.nodes
  /-- The faults of the other operations go on waiting. -/
  spared : ∀ other, other ≠ request.operation → later.waiting other = p.waiting other
  /-- A call that fails leaves all nodes as they were. -/
  unchanged : ∀ error, answer = .refused error → later.nodes = p.nodes
  /-- The nodes of other names are left as they were. -/
  framed : ∀ name, name ≠ request.caller.name → later.nodes.find? name = p.nodes.find? name

/-- The result of a completed call and the nodes after it. -/
theorem complete_settled {α : Type} (p : ControlPlane) (operation : Operation) (caller : Identity)
    (now : Instant) (effect : Effect α) (success : α → Answer) :
    (Answer.ofResult success (p.complete operation caller now effect).1,
        (p.complete operation caller now effect).2.nodes) =
      (p.waiting operation).head?.elim
        (Request.settled p.nodes ((effect p.nodes).map (Prod.map success id)))
        fun error => (.refused error, p.nodes) := by
  rw [waiting, ← (takeFault_eq operation p.faults).1]
  unfold complete
  obtain ⟨fault, faults⟩ := takeFault operation p.faults
  cases fault with
  | some error => rfl
  | none =>
      dsimp only
      cases effect p.nodes with
      | error error => rfl
      | ok done => rfl

theorem happen_request (p : ControlPlane) (request : Request) (now : Instant) (wall : Timestamp) :
    ((p.happen (request.event now wall)).1, (p.happen (request.event now wall)).2.nodes) =
      (p.waiting request.operation).head?.elim (request.outcome wall p.nodes)
        fun error => (.refused error, p.nodes) := by
  cases request with
  | register caller profile =>
      exact p.complete_settled .register caller now (registering caller profile wall) .granted
  | renew caller version =>
      exact p.complete_settled .renewLease caller now (renewing caller version wall) .granted
  | publish caller snapshot =>
      exact p.complete_settled .publishStatus caller now (publishing caller snapshot)
        fun _ => .accepted
  | deregister caller =>
      exact p.complete_settled .deregister caller now (deregistering caller) fun _ => .accepted

theorem faults_happen_request (p : ControlPlane) (request : Request) (now : Instant)
    (wall : Timestamp) :
    (p.happen (request.event now wall)).2.faults = (takeFault request.operation p.faults).2 := by
  cases request with
  | register caller profile =>
      exact p.faults_complete .register caller now (registering caller profile wall)
  | renew caller version => exact p.faults_complete .renewLease caller now _
  | publish caller snapshot => exact p.faults_complete .publishStatus caller now _
  | deregister caller => exact p.faults_complete .deregister caller now _

/-- Without a fault a call is refused and leaves the nodes, or it has its effect and is not refused. -/
theorem Request.outcome_cases (request : Request) (wall : Timestamp) (nodes : Table Node) :
    (∃ error, request.outcome wall nodes = (.refused error, nodes)) ∨
      ∃ answer changed, request.effect wall nodes = .ok (answer, changed) ∧
        request.outcome wall nodes = (answer, changed) ∧ ∀ error, answer ≠ .refused error := by
  unfold outcome
  cases heffect : request.effect wall nodes with
  | error error => exact .inl ⟨error, rfl⟩
  | ok done =>
      refine .inr ⟨done.1, done.2, rfl, rfl, ?_⟩
      intro error
      cases request <;>
        · simp only [Request.effect] at heffect
          obtain ⟨result, -, rfl⟩ := Request.map_eq_ok_iff.1 heffect
          exact nofun

theorem completes_happen (p : ControlPlane) (request : Request) (now : Instant)
    (wall : Timestamp) :
    p.Completes request wall (p.happen (request.event now wall)).1
      (p.happen (request.event now wall)).2 := by
  have hanswer := p.happen_request request now wall
  have hfaults := p.faults_happen_request request now wall
  obtain ⟨-, hleft, hothers⟩ := takeFault_eq request.operation p.faults
  generalize p.happen (request.event now wall) = done at hanswer hfaults
  obtain ⟨answer, later⟩ := done
  have hspared : ∀ other, other ≠ request.operation → later.waiting other = p.waiting other := by
    intro other hother
    rw [waiting, hfaults, hothers other hother]
    rfl
  have htail : later.waiting request.operation = (p.waiting request.operation).tail := by
    rw [waiting, hfaults, hleft]
    rfl
  -- The head of the queue decides: a fault is the answer, and without one the effect takes place.
  cases hwaiting : p.waiting request.operation with
  | cons error rest =>
      rw [hwaiting] at hanswer htail
      obtain ⟨rfl, hnodes⟩ := Prod.mk.inj hanswer
      refine ⟨?_, ?_, hspared, fun _ _ => hnodes, fun name _ => congrArg _ hnodes⟩
      · intro first others hfirst
        obtain ⟨rfl, rfl⟩ := List.cons.inj (hwaiting.symm.trans hfirst)
        exact ⟨rfl, htail⟩
      · intro hnone
        exact nomatch hwaiting.symm.trans hnone
  | nil =>
      rw [hwaiting] at hanswer htail
      have houtcome : (answer, later.nodes) = request.outcome wall p.nodes := hanswer
      refine ⟨?_, fun _ => ⟨htail, houtcome⟩, hspared, ?_, ?_⟩
      · intro error rest hfirst
        exact nomatch hwaiting.symm.trans hfirst
      · intro error hrefused
        rcases request.outcome_cases wall p.nodes with ⟨_, heq⟩ | ⟨_, _, -, heq, hkept⟩
        · exact (Prod.mk.inj (houtcome.trans heq)).2
        · exact absurd ((Prod.mk.inj (houtcome.trans heq)).1.symm.trans hrefused) (hkept error)
      · intro name hname
        rcases request.outcome_cases wall p.nodes with ⟨_, heq⟩ | ⟨_, _, heffect, heq, -⟩
        · exact congrArg _ (Prod.mk.inj (houtcome.trans heq)).2
        · rw [(Prod.mk.inj (houtcome.trans heq)).2]
          exact Request.find?_effect heffect hname

/-! ## Whole runs -/

/-- The faults that an event queues for an operation. -/
def Event.queued (operation : Operation) : Event → List CallError
  | .failNext op count error => if op = operation then List.replicate count error else []
  | _ => []

/-- Control from outside takes no fault, and what it queues goes to the end. -/
theorem waiting_happen_of_control {event : Event} (h : event.call? = none) (p : ControlPlane)
    (operation : Operation) :
    (p.happen event).2.waiting operation = p.waiting operation ++ event.queued operation := by
  cases event with
  | failNext op count error => exact p.waiting_failNext op operation count error
  | supersede name => exact (List.append_nil _).symm
  | removeNode name => exact (List.append_nil _).symm
  | setLatency latency => exact (List.append_nil _).symm
  | _ => cases h

/-- Whether an event is a call of an operation. -/
def Event.IsCallOf (operation : Operation) (event : Event) : Prop :=
  event.call?.map Prod.fst = some operation

instance (operation : Operation) (event : Event) : Decidable (event.IsCallOf operation) :=
  inferInstanceAs (Decidable (_ = _))

theorem Event.exists_request {event : Event} {operation : Operation}
    (h : event.IsCallOf operation) :
    ∃ (request : Request) (now : Instant) (wall : Timestamp),
      event = request.event now wall ∧ request.operation = operation := by
  cases event with
  | register caller profile now wall =>
      exact ⟨.register caller profile, now, wall, rfl, Option.some.inj h⟩
  | renew caller version now wall =>
      exact ⟨.renew caller version, now, wall, rfl, Option.some.inj h⟩
  | publish caller snapshot now =>
      exact ⟨.publish caller snapshot, now, ⟨0, 0⟩, rfl, Option.some.inj h⟩
  | deregister caller now =>
      exact ⟨.deregister caller, now, ⟨0, 0⟩, rfl, Option.some.inj h⟩
  | _ => exact nomatch h

/-- The answers to the calls of an operation, in the order in which the calls were completed. -/
def answersTo (operation : Operation) (history : History) : List Answer :=
  (history.filter fun entry => entry.1.IsCallOf operation).reverse.map Prod.snd

theorem answersTo_happen (operation : Operation) (r : Recorded) (event : Event) :
    answersTo operation (r.happen event).history =
      answersTo operation r.history ++
        if event.IsCallOf operation then [(r.plane.happen event).1] else [] := by
  simp only [answersTo, Recorded.happen, List.filter_cons, decide_eq_true_eq]
  by_cases hcall : event.IsCallOf operation
  · simp only [if_pos hcall, List.reverse_cons, List.map_append, List.map_singleton]
  · simp only [if_neg hcall, List.append_nil]

/-- A fault that waits goes on waiting, in its place, until a call of its operation is completed. -/
theorem waiting_prefix_happen {operation : Operation} {event : Event}
    (h : ¬ event.IsCallOf operation) (p : ControlPlane) :
    p.waiting operation <+: (p.happen event).2.waiting operation := by
  cases hcall : event.call? with
  | none =>
      rw [waiting_happen_of_control hcall]
      exact List.prefix_append _ _
  | some call =>
      have hown : event.IsCallOf call.1 := congrArg (Option.map Prod.fst) hcall
      have hother : operation ≠ call.1 := fun hsame => h (hsame ▸ hown)
      obtain ⟨request, now, wall, rfl, hoperation⟩ := Event.exists_request hown
      rw [(p.completes_happen request now wall).spared operation (hoperation ▸ hother)]

/-- The faults that wait for an operation go, in their order, to the calls of it that are completed
from now on, one to each; those that are left go on waiting before all that are queued later. -/
theorem Recorded.exists_answers (later : List Event) (r : Recorded) (operation : Operation) :
    ∃ answers, answersTo operation (later.foldl Recorded.happen r).history =
        answersTo operation r.history ++ answers ∧
      (∀ (i : Nat) (answer : Answer) (error : CallError), answers[i]? = some answer →
        (r.plane.waiting operation)[i]? = some error → answer = .refused error) ∧
      (r.plane.waiting operation).drop answers.length <+:
        (later.foldl Recorded.happen r).plane.waiting operation := by
  induction later generalizing r with
  | nil => exact ⟨[], (List.append_nil _).symm, nofun, List.prefix_rfl⟩
  | cons event later ih =>
      obtain ⟨answers, hanswers, hdelivered, hleft⟩ := ih (r.happen event)
      rw [answersTo_happen, List.append_assoc] at hanswers
      by_cases hcall : event.IsCallOf operation
      · -- The call takes the first fault, and those behind it move up.
        rw [if_pos hcall] at hanswers
        obtain ⟨request, now, wall, rfl, rfl⟩ := Event.exists_request hcall
        refine ⟨_, hanswers, ?_, ?_⟩
        · intro i answer error hanswer herror
          cases hwaiting : r.plane.waiting request.operation with
          | nil =>
              rw [hwaiting] at herror
              exact nomatch herror
          | cons first rest =>
              obtain ⟨hfirst, hrest⟩ :=
                (r.plane.completes_happen request now wall).faulted first rest hwaiting
              rw [hwaiting] at herror
              cases i with
              | zero =>
                  obtain rfl := Option.some.inj hanswer
                  obtain rfl := Option.some.inj herror
                  exact hfirst
              | succ i =>
                  apply hdelivered i answer error hanswer
                  show ((r.plane.happen _).2.waiting request.operation)[i]? = some error
                  rw [hrest]
                  exact herror
        · cases hwaiting : r.plane.waiting request.operation with
          | nil => exact List.nil_prefix
          | cons first rest =>
              have hrest : (r.happen (request.event now wall)).plane.waiting request.operation =
                  rest :=
                ((r.plane.completes_happen request now wall).faulted first rest hwaiting).2
              rw [hrest] at hleft
              exact hleft
      · -- What waited before waits now, at the same places.
        rw [if_neg hcall, List.nil_append] at hanswers
        have hmore : r.plane.waiting operation <+: (r.happen event).plane.waiting operation :=
          waiting_prefix_happen hcall r.plane
        refine ⟨answers, hanswers, ?_, (hmore.drop _).trans hleft⟩
        intro i answer error hanswer herror
        apply hdelivered i answer error hanswer
        obtain ⟨more, hmore⟩ := hmore
        rw [← hmore, List.getElem?_append_left (List.getElem?_eq_some_iff.1 herror).1]
        exact herror

end NodeFleet.ControlPlane
