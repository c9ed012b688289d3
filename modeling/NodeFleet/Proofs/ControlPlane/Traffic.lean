import NodeFleet.Proofs.Agent.Cancellation
import NodeFleet.Proofs.ControlPlane.Faults

/-!
# Calls in flight at a control plane

Any number of callers may have calls in flight at one control plane.  A call that was begun
waits for its latency, and until then it may be dropped, because its caller gives up or is
told to end; its fault, its effect and its entry in the log all come with its completion.
`Traffic` is a site with the calls in flight, and its moves come in any order.

A move is an event of the control plane or nothing at all (`recorded_move`), so whatever holds
of the histories of a control plane holds of all interleavings.  So it is with the steps of
agents, whatever stage they are in (`act_plane_cases`).  `Orderly` collects all this.
-/

namespace NodeFleet.ControlPlane

/-- A call in flight. -/
structure Flight where
  request : Request
  call : Call

/-- A site with the calls in flight and with what has happened to its control plane. -/
structure Traffic where
  site : Site
  flights : List Flight
  history : History

namespace Traffic

/-- What may come next. -/
inductive Move where
  /-- Somebody begins a call and waits for it up to a limit. -/
  | begin (request : Request) (limit : Duration)
  /-- The call at a position is completed, if its latency has passed. -/
  | complete (position : Nat)
  /-- The call at a position is dropped. -/
  | drop (position : Nat)
  /-- Control from outside. -/
  | control (event : Event) (isControl : event.call? = none)
  /-- Time passes. -/
  | wait (instant : Instant)

/-- Lets an event happen to the control plane. -/
def happen (t : Traffic) (event : Event) : Traffic :=
  let (answer, plane) := t.site.plane.happen event
  { t with site := { t.site with plane }, history := (event, answer) :: t.history }

def move (t : Traffic) : Move → Traffic
  | .begin request limit =>
      { t with flights := t.flights ++ [⟨request, t.site.beginCall limit⟩] }
  | .complete position =>
      match t.flights[position]? with
      | none => t
      | some flight =>
          if flight.call.answeredAt ≤ t.site.now then
            { t.happen (flight.request.event t.site.now t.site.wall) with
              flights := t.flights.eraseIdx position }
          else t
  | .drop position => { t with flights := t.flights.eraseIdx position }
  | .control event _ => t.happen event
  | .wait instant => { t with site := t.site.advanceTo instant }

/-- A site without calls in flight. -/
def start (plane : ControlPlane) (epoch : Timestamp) : Traffic :=
  { site := .create plane epoch, flights := [], history := [] }

/-- Moves one after the other, from a site without calls in flight. -/
def run (plane : ControlPlane) (epoch : Timestamp) (moves : List Move) : Traffic :=
  moves.foldl move (start plane epoch)

/-! ## Moves as events -/

/-- The control plane with its history. -/
def recorded (t : Traffic) : Recorded := { plane := t.site.plane, history := t.history }

theorem complete_eq {t : Traffic} {position : Nat} {flight : Flight}
    (hflight : t.flights[position]? = some flight) (hanswered : flight.call.answeredAt ≤ t.site.now) :
    t.move (.complete position) =
      { t.happen (flight.request.event t.site.now t.site.wall) with
        flights := t.flights.eraseIdx position } := by
  simp only [move, hflight, if_pos hanswered]

/-- A move is an event of the control plane, or it leaves the control plane alone. -/
theorem recorded_move (t : Traffic) (m : Move) :
    (t.move m).recorded = t.recorded ∨ ∃ event, (t.move m).recorded = t.recorded.happen event := by
  cases m with
  | begin request limit => exact .inl rfl
  | complete position =>
      cases hflight : t.flights[position]? with
      | none =>
          left
          simp only [move, hflight]
      | some flight =>
          by_cases hanswered : flight.call.answeredAt ≤ t.site.now
          · right
            rw [complete_eq hflight hanswered]
            exact ⟨flight.request.event t.site.now t.site.wall, rfl⟩
          · left
            simp only [move, hflight, if_neg hanswered]
  | drop position => exact .inl rfl
  | control event isControl => exact .inr ⟨event, rfl⟩
  | wait instant => exact .inl rfl

/-- Moves are events of the control plane, one after the other. -/
theorem exists_recorded_foldl (t : Traffic) (moves : List Move) :
    ∃ events : List Event,
      (moves.foldl move t).recorded = events.foldl Recorded.happen t.recorded := by
  induction moves generalizing t with
  | nil => exact ⟨[], rfl⟩
  | cons m moves ih =>
      obtain ⟨events, hevents⟩ := ih (t.move m)
      rw [List.foldl_cons, hevents]
      rcases t.recorded_move m with hsame | ⟨event, hevent⟩
      · exact ⟨events, by rw [hsame]⟩
      · exact ⟨event :: events, by rw [hevent, List.foldl_cons]⟩

/-! ## Calls of agents -/

/-- Settles a call for what it asks for. -/
def settle (site : Site) (call : Call) : Request → Answer × Site
  | .register caller profile =>
      let (result, site) := site.settleRegister call caller profile
      (.ofResult .granted result, site)
  | .renew caller version =>
      let (result, site) := site.settleRenew call caller version
      (.ofResult .granted result, site)
  | .publish caller snapshot =>
      let (result, site) := site.settlePublish call caller snapshot
      (.ofResult (fun _ => .accepted) result, site)
  | .deregister caller =>
      let (result, site) := site.settleDeregister call caller
      (.ofResult (fun _ => .accepted) result, site)

theorem settle_eq (site : Site) (call : Call) (request : Request) :
    settle site call request =
      if call.isAnswered then
        let (answer, plane) := site.plane.happen (request.event site.now site.wall)
        (answer, { site with plane })
      else (.refused (.timeout call.limit), site) := by
  cases request with
  | register caller profile =>
      simp only [settle, Site.settleRegister, Site.settle]
      split <;> rfl
  | renew caller version =>
      simp only [settle, Site.settleRenew, Site.settle]
      split <;> rfl
  | publish caller snapshot =>
      simp only [settle, Site.settlePublish, Site.settle]
      split <;> rfl
  | deregister caller =>
      simp only [settle, Site.settleDeregister, Site.settle]
      split <;> rfl

/-- An agent that settles a call at its end completes it or drops it. -/
theorem settle_site_eq_move {t : Traffic} {position : Nat} {flight : Flight}
    (hflight : t.flights[position]? = some flight) (hended : flight.call.endsAt ≤ t.site.now) :
    (settle t.site flight.call flight.request).2 =
      (t.move (if flight.call.isAnswered then .complete position else .drop position)).site := by
  rw [settle_eq]
  cases hanswered : flight.call.isAnswered with
  | true =>
      rw [Call.endsAt_of_isAnswered hanswered] at hended
      rw [if_pos rfl, if_pos rfl, complete_eq hflight hended]
      rfl
  | false => rfl

/-- The control plane changes with calls that an agent settles, and with nothing else. -/
theorem act_plane (a : Agent) (actor : Actor) (site : Site) :
    (a.act actor site).2.plane = site.plane ∨
      ∃ call request, (a.act actor site).2.plane = (settle site call request).2.plane := by
  have hturn := a.act_turn site actor
  generalize a.deed? actor site = deed? at hturn
  generalize hview : (a.act actor site).1.view (a.act actor site).2 = after at hturn
  have hplane : (a.act actor site).2.plane = after.plane := congrArg Agent.View.plane hview
  rw [hplane]
  cases hturn with
  | @granted attempt call version _ _ _ _ hsettle =>
      refine .inr ⟨call, .register attempt.identity a.setup.profile, ?_⟩
      simp only [settle, hsettle]
  | @refused attempt call error _ _ _ hsettle =>
      refine .inr ⟨call, .register attempt.identity a.setup.profile, ?_⟩
      simp only [settle, hsettle]
  | @left identity call _ _ _ hsettle =>
      refine .inr ⟨call, .deregister identity, ?_⟩
      simp only [settle, hsettle]
  | @renewed _ h call _ _ _ _ hsettle =>
      refine .inr ⟨call, .renew h.identity h.version, ?_⟩
      simp only [settle, hsettle]
  | @published _ s flight _ _ _ _ hsettle =>
      refine .inr ⟨flight.call, .publish s.identity flight.snapshot, ?_⟩
      simp only [settle, hsettle]
  | _ => exact .inl rfl

/-- A step of an agent completes one call, or the control plane does not notice it. -/
theorem act_plane_cases (a : Agent) (actor : Actor) (site : Site) :
    (a.act actor site).2.plane = site.plane ∨
      ∃ request : Request, (a.act actor site).2.plane =
        (site.plane.happen (request.event site.now site.wall)).2 := by
  rcases act_plane a actor site with hsame | ⟨call, request, hsettled⟩
  · exact .inl hsame
  · rw [hsettled, settle_eq]
    cases call.isAnswered with
    | true => exact .inr ⟨request, rfl⟩
    | false => exact .inl rfl

/-- An agent that drops its call leaves the control plane as it is. -/
theorem act_plane_of_isDropping {a : Agent} (h : a.isDropping = true) (actor : Actor)
    (site : Site) : (a.act actor site).2.plane = site.plane := by
  apply Agent.plane_of_forall_ne_ended
  intro operation identity failure
  simp only [Agent.deed?, h, if_true]
  split
  · simp
  · split
    · simp
    · split <;> simp

/-! ## All interleavings -/

/-- What holds of calls in flight, whatever was before. -/
structure Orderly (plane : ControlPlane) (t : Traffic) : Prop where
  /-- The completed calls and the control from outside, one after the other, have made the control
  plane what it is; no other call has left a trace. -/
  explained : ∃ events, ControlPlane.run plane events = t.recorded
  /-- A completed call is answered as a whole, with the next fault or by its effect. -/
  completes : ∀ position flight, t.flights[position]? = some flight →
    flight.call.answeredAt ≤ t.site.now →
      ∃ answer, (t.move (.complete position)).history =
          (flight.request.event t.site.now t.site.wall, answer) :: t.history ∧
        t.site.plane.Completes flight.request t.site.wall answer
          (t.move (.complete position)).site.plane
  /-- A call that waits for its latency has no effect yet. -/
  begins : ∀ request limit, (t.move (.begin request limit)).site = t.site ∧
    (t.move (.begin request limit)).history = t.history
  /-- A call that is dropped has none at all: no node, no fault and no entry of the log is touched. -/
  drops : ∀ position, (t.move (.drop position)).site = t.site ∧
    (t.move (.drop position)).history = t.history
  /-- A caller that settles a call at its end completes it, or drops it if it took too long. -/
  settles : ∀ position flight, t.flights[position]? = some flight →
    flight.call.endsAt ≤ t.site.now →
      (settle t.site flight.call flight.request).2 =
        (t.move (if flight.call.isAnswered then .complete position else .drop position)).site
  /-- What agents do to the control plane is to complete calls; when they drop one it is nothing. -/
  acts : ∀ (a : Agent) (actor : Actor),
    ((a.act actor t.site).2.plane = t.site.plane ∨ ∃ request : Request,
      (a.act actor t.site).2.plane =
        (t.site.plane.happen (request.event t.site.now t.site.wall)).2) ∧
    (a.isDropping = true → (a.act actor t.site).2.plane = t.site.plane)
  /-- The two look-ups of a call are its effect if nobody comes in between; if somebody does, the
  second is still for the caller's own name, whatever it finds. -/
  looks : ∀ (request : Request) wall nodes,
    request.effect wall nodes = (request.check nodes >>= fun _ => request.change wall nodes) ∧
      ∀ answer changed, request.change wall nodes = .ok (answer, changed) →
        ∀ name, name ≠ request.caller.name → changed.find? name = nodes.find? name
  /-- Control from outside takes no fault; what it queues goes behind all that waits. -/
  queues : ∀ event isControl operation,
    (t.move (.control event isControl)).site.plane.waiting operation =
      t.site.plane.waiting operation ++ event.queued operation
  /-- The faults that wait go, one to each and in their order, to the next calls of their operation
  that are completed, whatever else comes in between. -/
  delivers : ∀ (operation : Operation) (later : List Move), ∃ answers,
    answersTo operation (later.foldl move t).history = answersTo operation t.history ++ answers ∧
      (∀ (i : Nat) (answer : Answer) (error : CallError), answers[i]? = some answer →
        (t.site.plane.waiting operation)[i]? = some error → answer = .refused error) ∧
      (t.site.plane.waiting operation).drop answers.length <+:
        (later.foldl move t).site.plane.waiting operation

/-- Calls are atomic and faults are first in first out, for all interleavings of calls of any number
of callers, of dropped calls and of control from outside. -/
theorem run_orderly (plane : ControlPlane) (epoch : Timestamp) (moves : List Move) :
    Orderly plane (run plane epoch moves) := by
  have hrun := (start plane epoch).exists_recorded_foldl moves
  unfold run
  generalize moves.foldl move (start plane epoch) = t at hrun
  refine ⟨?_, ?_, fun _ _ => ⟨rfl, rfl⟩, fun _ => ⟨rfl, rfl⟩, ?_, ?_, ?_, ?_, ?_⟩
  · obtain ⟨events, hevents⟩ := hrun
    exact ⟨events, hevents.symm⟩
  · intro position flight hflight hanswered
    rw [complete_eq hflight hanswered]
    exact ⟨_, rfl, t.site.plane.completes_happen flight.request t.site.now t.site.wall⟩
  · intro position flight hflight hended
    exact settle_site_eq_move hflight hended
  · intro a actor
    exact ⟨act_plane_cases a actor t.site, fun h => act_plane_of_isDropping h actor t.site⟩
  · intro request wall nodes
    refine ⟨request.effect_eq wall nodes, ?_⟩
    intro answer changed hchange name hname
    exact Request.find?_change hchange hname
  · intro event isControl operation
    exact waiting_happen_of_control isControl t.site.plane operation
  · intro operation later
    obtain ⟨events, hevents⟩ := t.exists_recorded_foldl later
    obtain ⟨answers, hanswers, hdelivered, hleft⟩ := t.recorded.exists_answers events operation
    rw [← hevents] at hanswers hleft
    exact ⟨answers, hanswers, hdelivered, hleft⟩

/-- A dropped call leaves its fault to the next one. -/
example (caller : Identity) (error : CallError) :
    answersTo .deregister (run ((ControlPlane.empty 0).failNext .deregister 1 error) ⟨0, 0⟩
      [.control (.setLatency 2) rfl, .begin (.deregister caller) 5, .wait 1, .drop 0,
        .begin (.deregister caller) 5, .wait 3, .complete 0]).history = [.refused error] := rfl

end Traffic

end NodeFleet.ControlPlane
