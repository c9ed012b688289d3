import NodeFleet.Proofs.Api.Route
import NodeFleet.Proofs.Fleet.Ledgers

/-!
# The interface as a front of the ledgers

Of all requests only two kinds come through to a ledger: placements, once their body is read and
their workload has a name, and releases.  To the fleet such a request is one of the things that
can happen to it (`Front.happen_request`), and all others are nothing (`handle_other`).

A `Front` is a fleet that is called at any time, by requests too, with the calls that its ledgers
have had.  Those of the requests are read off the responses: a placement that was answered with
200, a release that was answered with 204.
-/

namespace NodeFleet

open Fleet (Attended)

namespace Fleet

variable {f : Fleet} {member : Member} {name : String}

theorem exists_agent (hnodup : (f.cohort.members.map fun member => member.agent.name).Nodup)
    (hmember : member ∈ f.cohort.members) :
    ∃ position, f.agent member.agent.name = .ok (position, member.agent) ∧
      f.cohort.members[position]? = some member := by
  cases hfound : f.agent member.agent.name with
  | ok found =>
      obtain ⟨position, agent⟩ := found
      obtain ⟨other, hother, rfl, hname⟩ := exists_member_of_agent hfound
      obtain rfl : other = member :=
        List.inj_on_of_nodup_map hnodup (List.mem_of_getElem? hother) hmember hname
      exact ⟨position, rfl, hother⟩
  | error error =>
      obtain ⟨place, hplace⟩ := List.mem_iff_getElem?.1 hmember
      unfold Fleet.agent at hfound
      split at hfound
      · exact nomatch hfound
      · rename_i hnone
        have hall := List.find?_eq_none.1 (Option.map_eq_none_iff.1 hnone)
        exact absurd (hall (member, place) (List.mem_zipIdx_iff_getElem?.2 hplace)) (by simp)

theorem agent_of_unknown (h : ∀ member ∈ f.cohort.members, member.agent.name ≠ name) :
    f.agent name = .error (.unknownAgent name) := by
  cases hfound : f.agent name with
  | ok found =>
      obtain ⟨position, agent⟩ := found
      obtain ⟨member, hmember, rfl, hname⟩ := exists_member_of_agent hfound
      exact absurd hname (h member (List.mem_of_getElem? hmember))
  | error error =>
      unfold Fleet.agent at hfound
      split at hfound
      · exact nomatch hfound
      · exact hfound.symm

theorem submit_eq_ok {workload : String} {request : ResourceRequest}
    {decision : AdmissionDecision} {later : Fleet}
    (h : f.submit name workload request = .ok (decision, later)) :
    ∃ position member, f.cohort.members[position]? = some member ∧ member.agent.name = name ∧
      decision = (member.agent.submit workload request f.site).1 ∧
      later = f.setAgent position (member.agent.submit workload request f.site).2.1
        (member.agent.submit workload request f.site).2.2 := by
  cases hfound : f.agent name with
  | error error =>
      simp only [Fleet.submit, hfound] at h
      cases h
  | ok found =>
      obtain ⟨position, agent⟩ := found
      obtain ⟨member, hmember, rfl, hname⟩ := exists_member_of_agent hfound
      simp only [Fleet.submit, hfound] at h
      obtain ⟨rfl, rfl⟩ := Prod.mk.inj (Except.ok.inj h)
      exact ⟨position, member, hmember, hname, rfl, rfl⟩

/-- A submission that is not admitted changes no agent. -/
theorem members_of_rejected {workload : String} {request : ResourceRequest}
    {decision : AdmissionDecision} {later : Fleet}
    (h : f.submit name workload request = .ok (decision, later))
    (hrejected : decision.isAdmitted = false) : later.cohort.members = f.cohort.members := by
  obtain ⟨position, member, hmember, -, rfl, rfl⟩ := submit_eq_ok h
  have hledger := member.agent.submit_ledger workload request f.site
  rw [AdmissionDecision.call?, hrejected] at hledger
  have hagent : (member.agent.submit workload request f.site).2.1 = member.agent := calc
    _ = { member.agent with ledger := (member.agent.submit workload request f.site).2.1.ledger } :=
      rfl
    _ = member.agent := by rw [hledger]; rfl
  rw [hagent, setAgent, Cohort.setAgent_eq hmember]
  show f.cohort.members.set position member = f.cohort.members
  obtain ⟨hlt, hget⟩ := List.getElem?_eq_some_iff.1 hmember
  rw [← hget]
  exact List.set_getElem_self hlt

/-- A release changes nothing but the ledger of one agent. -/
theorem members_of_released {workload : String} {removed : Bool} {later : Fleet}
    (h : f.release name workload = .ok (removed, later)) :
    ∃ position member, f.cohort.members[position]? = some member ∧ member.agent.name = name ∧
      later.cohort.members = f.cohort.members.set position
        { member with agent :=
          { member.agent with ledger := (member.agent.ledger.release workload).2 } } := by
  cases hfound : f.agent name with
  | error error =>
      simp only [Fleet.release, hfound] at h
      cases h
  | ok found =>
      obtain ⟨position, agent⟩ := found
      obtain ⟨member, hmember, rfl, hname⟩ := exists_member_of_agent hfound
      simp only [Fleet.release, hfound] at h
      obtain ⟨-, rfl⟩ := Prod.mk.inj (Except.ok.inj h)
      refine ⟨position, member, hmember, hname, ?_⟩
      rw [setAgent, Cohort.setAgent_eq hmember]
      rfl

end Fleet

namespace Api

/-! ## Requests about placements -/

/-- The agent and the body of a placement whose body can be read. -/
def placement? (r : Request) : Option (String × PlacementRequest) :=
  if r.method = "POST" then
    match subject? r.target, takePlacement r with
    | some (.placements name), .ok placement => some (name, placement)
    | _, _ => none
  else none

/-- The agent and the workload of a release. -/
def release? (r : Request) : Option (String × String) :=
  if r.method = "DELETE" then
    match subject? r.target with
    | some (.placement name workload) => some (name, workload)
    | _ => none
  else none

variable {f : Fleet} {r : Request} {name workload : String} {p : PlacementRequest}

theorem handle_of_placement? (h : placement? r = some (name, p)) (f : Fleet) :
    handle f r = place f name p := by
  unfold placement? at h
  split_ifs at h with hmethod
  split at h
  · rename_i hsubject hread
    obtain ⟨rfl, rfl⟩ := Prod.mk.inj (Option.some.inj h)
    obtain ⟨route, hroute, hsubject⟩ := Option.bind_eq_some_iff.1 hsubject
    cases route with
    | placements segment =>
        obtain ⟨name, hdecode, heq⟩ := Option.map_eq_some_iff.1 hsubject
        obtain rfl := Subject.placements.inj heq
        simp only [handle, hroute, handleRoute, hmethod, withSegment, hdecode, submitPlacement,
          hread]
    | agent segment => exact absurd hsubject (by simp [Route.subject?])
    | placement segment id =>
        exact absurd hsubject (by simp [Route.subject?, Option.bind_eq_some_iff])
    | healthz | readyz | metrics | agents => cases hsubject
  · cases h

theorem handle_of_release? (h : release? r = some (name, workload)) (f : Fleet) :
    handle f r = releasePlacement f name workload := by
  unfold release? at h
  split_ifs at h with hmethod
  split at h
  · obtain ⟨rfl, rfl⟩ := Prod.mk.inj (Option.some.inj h)
    exact handle_placement hmethod ‹_› f
  · exact nomatch h

theorem refusal_status (error : FleetError) :
    (Response.refusal error).status ≠ 200 ∧ (Response.refusal error).status ≠ 204 := by
  cases error <;> exact ⟨nofun, nofun⟩

theorem read?_status {route : Route} {response : Response} (h : read? f route = some response) :
    response.status ≠ 204 := by
  have hok : 200 ≠ 204 := by decide
  have hsegment {segment : List Char} {go : String → Response}
      (hgo : ∀ name, (go name).status ≠ 204) :
      (withSegment segment (Response.bare 400) go).status ≠ 204 := by
    unfold withSegment
    split
    · exact hgo _
    · exact (by decide : 400 ≠ 204)
  cases route with
  | healthz =>
      obtain rfl := Option.some.inj h
      simp only [health, Response.json]
      split_ifs <;> simp
  | readyz =>
      obtain rfl := Option.some.inj h
      simp only [readiness, Response.json]
      split_ifs <;> simp
  | metrics =>
      obtain rfl := Option.some.inj h
      exact hok
  | agents =>
      obtain rfl := Option.some.inj h
      exact hok
  | agent segment =>
      obtain rfl := Option.some.inj h
      refine hsegment fun name => ?_
      unfold getAgent
      split
      · exact hok
      · exact (refusal_status _).2
  | placements segment =>
      obtain rfl := Option.some.inj h
      refine hsegment fun name => ?_
      unfold listPlacements
      split
      · exact hok
      · exact (refusal_status _).2
  | placement segment id => cases h

theorem takePlacement_status {status : Nat} (h : takePlacement r = .error status) :
    status ≠ 204 := by
  unfold takePlacement readPlacement at h
  split_ifs at h
  · obtain rfl := Except.error.inj h
    exact nofun
  split at h
  · obtain rfl := Except.error.inj h
    exact nofun
  · split_ifs at h
    · obtain rfl := Except.error.inj h
      exact nofun
    · split at h
      · exact nomatch h
      · obtain rfl := Except.error.inj h
        exact nofun
      · obtain rfl := Except.error.inj h
        exact nofun

/-- Any other request leaves the fleet as it is. -/
theorem handle_other (hplacement : placement? r = none) (hrelease : release? r = none)
    (f : Fleet) : (handle f r).2 = f ∧ (handle f r).1.status ≠ 204 := by
  unfold handle
  cases hroute : route? r.target with
  | none => exact ⟨rfl, by simp [Response.bare]⟩
  | some route =>
      have hsubject : subject? r.target = route.subject? := by rw [subject?, hroute]; rfl
      simp only
      unfold handleRoute
      split
      · refine ⟨rfl, ?_⟩
        cases hread : read? f _ with
        | none => simp [Response.bare]
        | some response => exact read?_status hread
      · refine ⟨rfl, ?_⟩
        cases hread : read? f _ with
        | none => simp [Response.bare]
        | some response =>
            have hstatus := read?_status hread
            exact hstatus
      · rename_i segment hmethod
        unfold withSegment
        cases hname : decodeSegment? segment with
        | none => exact ⟨rfl, by simp [Response.bare]⟩
        | some name =>
            simp only [submitPlacement]
            cases hread : takePlacement r with
            | error status => exact ⟨rfl, takePlacement_status hread⟩
            | ok p =>
                have hsome : placement? r = some (name, p) := by
                  simp [placement?, hmethod, hsubject, Route.subject?, hname, hread]
                cases hplacement.symm.trans hsome
      · rename_i segment id hmethod
        unfold withSegment
        cases hname : decodeSegment? segment with
        | none => exact ⟨rfl, by simp [Response.bare]⟩
        | some name =>
            cases hworkload : decodeSegment? id with
            | none => exact ⟨rfl, by simp [Response.bare]⟩
            | some workload =>
                have hsome : release? r = some (name, workload) := by
                  simp [release?, hmethod, hsubject, Route.subject?, hname, hworkload]
                cases hrelease.symm.trans hsome
      · exact ⟨rfl, by simp [Response.bare]⟩

theorem handle_get (hmethod : r.method = "GET") (h : subject? r.target = some (.placements name))
    (f : Fleet) : handle f r = (listPlacements f name, f) := by
  obtain ⟨route, hroute, hsubject⟩ := Option.bind_eq_some_iff.1 h
  cases route with
  | placements segment =>
      obtain ⟨name, hdecode, heq⟩ := Option.map_eq_some_iff.1 hsubject
      obtain rfl := Subject.placements.inj heq
      simp only [handle, hroute, handleRoute, hmethod, read?, withSegment, hdecode,
        Option.getD_some]
  | agent segment => exact absurd hsubject (by simp [Route.subject?])
  | placement segment id =>
      exact absurd hsubject (by simp [Route.subject?, Option.bind_eq_some_iff])
  | healthz | readyz | metrics | agents => cases hsubject

/-! ## What requests are to a fleet -/

/-- What a request is to a fleet, if it is anything. -/
def event? (r : Request) : Option Attended.Event :=
  match placement? r, release? r with
  | some (name, p), _ =>
      if Text.trim p.workload.toList = [] then none
      else some (.other (.submit name p.workload p.request))
  | none, some (name, workload) => some (.other (.release name workload))
  | none, none => none

/-- The call to a ledger that a request was, by its response. -/
def call? (r : Request) (response : Response) (now : Timestamp) : Option (String × Ledger.Call) :=
  match placement? r, release? r with
  | some (name, p), _ =>
      if response.status = 200 then some (name, .submit p.workload p.request now) else none
  | none, some (name, workload) =>
      if response.status = 204 then some (name, .release workload) else none
  | none, none => none

/-- A fleet that is called at any time, with the calls to its ledgers so far. -/
structure Front where
  attended : Attended
  calls : List (String × Ledger.Call)

namespace Front

def fleet (x : Front) : Fleet := x.attended.fleet

/-- Something that happens to a fleet, or a request. -/
inductive Event where
  | fleet (event : Attended.Event)
  | request (r : Request)

/-- Lets something happen, or handles a request. -/
def happen (x : Front) : Event → Front
  | .fleet event =>
      { attended := x.attended.happen event
        calls := x.calls ++ (x.attended.call? event).toList }
  | .request r =>
      let (response, fleet) := handle x.fleet r
      { attended := { x.attended with fleet }
        calls := x.calls ++ (call? r response x.fleet.site.wall).toList }

/-- To the fleet and its ledgers, a request is what it is about, or nothing. -/
theorem happen_request (x : Front) (r : Request) :
    x.happen (.request r) =
      match event? r with
      | some event => x.happen (.fleet event)
      | none => x := by
  cases hplacement : placement? r with
  | some placed =>
      obtain ⟨name, p⟩ := placed
      have hhandle := handle_of_placement? hplacement x.attended.fleet
      by_cases hempty : Text.trim p.workload.toList = []
      · simp [happen, event?, call?, hplacement, hhandle, place, hempty, Response.error,
          Response.json, fleet]
      · simp only [happen, event?, call?, hplacement, hhandle, place, if_neg hempty, fleet,
          Attended.happen, Attended.call?, Fleet.call?, Fleet.move, Fleet.admission?]
        cases hsubmit : x.attended.fleet.submit name p.workload p.request with
        | error error => simp [(refusal_status error).1]
        | ok result =>
            obtain ⟨decision, later⟩ := result
            cases hadmitted : decision.isAdmitted <;>
              simp [Response.json, AdmissionDecision.call?, hadmitted]
  | none =>
      cases hrelease : release? r with
      | some released =>
          obtain ⟨name, workload⟩ := released
          have hhandle := handle_of_release? hrelease x.attended.fleet
          simp only [happen, event?, call?, hplacement, hrelease, hhandle, releasePlacement, fleet,
            Attended.happen, Attended.call?, Fleet.call?, Fleet.move, Fleet.removal?]
          cases hremoved : x.attended.fleet.release name workload with
          | error error => simp [(refusal_status error).2]
          | ok result => simp [Response.bare]
      | none =>
          obtain ⟨hsame, -⟩ := handle_other hplacement hrelease x.attended.fleet
          simp [happen, event?, call?, hplacement, hrelease, hsame, fleet]

/-- What holds of a front at any time. -/
structure Sound (x : Front) : Prop where
  inOrder : x.attended.InOrder
  accounted : x.fleet.Accounted x.calls

theorem Sound.happen {x : Front} (h : x.Sound) (event : Event) : (x.happen event).Sound := by
  have hfleet (event : Attended.Event) : (x.happen (.fleet event)).Sound :=
    ⟨h.inOrder.happen event,
      h.accounted.step h.inOrder.launches (h.inOrder.happen_step event)⟩
  cases event with
  | fleet event => exact hfleet event
  | request r =>
      rw [happen_request]
      split
      · exact hfleet _
      · exact h

end Front

/-- Lets things happen to a fleet and handles requests, one after the other. -/
def front (f : Fleet) (events : List Front.Event) : Front :=
  events.foldl Front.happen { attended := f.attend [], calls := [] }

theorem front_sound {config : FleetConfig} {site : Site}
    (hcreate : Fleet.create config site = .ok f) (events : List Front.Event) :
    (front f events).Sound := by
  induction events using List.reverseRecOn with
  | nil =>
      obtain ⟨-, -, hmembers⟩ := Fleet.launches_create hcreate
      refine ⟨Fleet.attend_inOrder hcreate [], fun _ hcall => absurd hcall List.not_mem_nil, ?_⟩
      intro member hmember
      rw [show (front f []).fleet.cohort.members = [] from hmembers] at hmember
      exact absurd hmember List.not_mem_nil
  | append_singleton events event ih =>
      have hconcat : front f (events ++ [event]) = (front f events).happen event := by
        simp [front]
      rw [hconcat]
      exact ih.happen event

/-! ## The responses -/

/-- A response that is neither a 200 to a placement nor a 204 leaves all agents as they are. -/
theorem members_of_response (hplaced : placement? r ≠ none → (handle f r).1.status ≠ 200)
    (hreleased : (handle f r).1.status ≠ 204) :
    (handle f r).2.cohort.members = f.cohort.members := by
  cases hplacement : placement? r with
  | some placed =>
      obtain ⟨name, p⟩ := placed
      have hstatus := hplaced (hplacement ▸ nofun)
      rw [handle_of_placement? hplacement] at hstatus ⊢
      unfold place at hstatus ⊢
      split_ifs at hstatus ⊢
      · rfl
      · cases hsubmit : f.submit name p.workload p.request with
        | error error => rfl
        | ok result =>
            obtain ⟨decision, later⟩ := result
            refine Fleet.members_of_rejected hsubmit ?_
            rw [hsubmit] at hstatus
            cases hadmitted : decision.isAdmitted with
            | false => rfl
            | true => exact absurd (by simp [Response.json, hadmitted]) hstatus
  | none =>
      cases hrelease : release? r with
      | some released =>
          obtain ⟨name, workload⟩ := released
          rw [handle_of_release? hrelease] at hreleased ⊢
          unfold releasePlacement at hreleased ⊢
          cases hremoved : f.release name workload with
          | error error => rfl
          | ok result =>
              rw [hremoved] at hreleased
              exact absurd rfl hreleased
      | none => rw [(handle_other hplacement hrelease f).1]

/-- A placement is answered by its workload, by whether its agent is known, and by the decision of
that agent. -/
theorem place_response (hnodup : (f.cohort.members.map fun member => member.agent.name).Nodup)
    (name : String) (p : PlacementRequest) :
    let response := (place f name p).1
    (Text.trim p.workload.toList = [] → response.status = 400) ∧
      (Text.trim p.workload.toList ≠ [] →
        ((∀ member ∈ f.cohort.members, member.agent.name ≠ name) → response.status = 404) ∧
          ∀ member ∈ f.cohort.members, member.agent.name = name →
            let decision := (member.agent.submit p.workload p.request f.site).1
            (response.status = 200 ↔ ∃ record, decision = .admitted record) ∧
              (response.status = 409 ↔ ∃ reason, decision = .rejected reason) ∧
              response.body = some decision.toJson) := by
  intro response
  refine ⟨fun hempty => ?_, fun hne => ⟨fun hunknown => ?_, ?_⟩⟩
  · simp only [response, place, if_pos hempty]
    rfl
  · have hnone := Fleet.agent_of_unknown hunknown
    simp only [response, place, if_neg hne, Fleet.submit, hnone]
    rfl
  · rintro member hmember rfl
    obtain ⟨position, hfound, -⟩ := Fleet.exists_agent hnodup hmember
    intro decision
    have hresponse : response =
        Response.json (if decision.isAdmitted then 200 else 409) decision.toJson := by
      simp only [response, place, if_neg hne, Fleet.submit, hfound]
      rfl
    rw [hresponse]
    generalize decision = decision
    cases decision <;> simp [Response.json, AdmissionDecision.isAdmitted]

theorem place_status (f : Fleet) (name : String) (p : PlacementRequest) :
    (place f name p).1.status ≠ 204 := by
  unfold place
  split_ifs
  · exact nofun
  · cases hsubmit : f.submit name p.workload p.request with
    | error error => exact (refusal_status error).2
    | ok result =>
        simp only [Response.json]
        split_ifs <;> exact nofun

/-- A 204 is the response to a release by a known name. -/
theorem exists_release_of_status (h : (handle f r).1.status = 204) :
    ∃ name workload removed later, release? r = some (name, workload) ∧
      f.release name workload = .ok (removed, later) ∧ (handle f r).2 = later := by
  cases hplacement : placement? r with
  | some placed =>
      obtain ⟨name, p⟩ := placed
      rw [handle_of_placement? hplacement] at h
      exact absurd h (place_status f name p)
  | none =>
      cases hrelease : release? r with
      | none => exact absurd h (handle_other hplacement hrelease f).2
      | some released =>
          obtain ⟨name, workload⟩ := released
          rw [handle_of_release? hrelease] at h ⊢
          unfold releasePlacement at h ⊢
          cases hremoved : f.release name workload with
          | error error =>
              rw [hremoved] at h
              exact absurd h (refusal_status error).2
          | ok result =>
              obtain ⟨removed, later⟩ := result
              exact ⟨name, workload, removed, later, rfl, hremoved, rfl⟩

/-- The interface is a faithful front of the ledgers, whatever has happened to the fleet and
whatever requests there were.

* A placement is answered with 400 if its workload has no name, else with 404 if there is no such
  agent, else by the decision of the agent: 200 if it is admitted, 409 if it is rejected.
* No other response than a 200 to a placement and a 204 changes any agent.
* A 204 is the response to a release.  It changes one agent, and of this only the ledger, which is
  left without the workload.
* The ledgers are what the calls have made of empty ones, and a list of placements shows that. -/
theorem front_faithful {config : FleetConfig} {site : Site}
    (hcreate : Fleet.create config site = .ok f) (events : List Front.Event) (r : Request) :
    let x := front f events
    let members := x.fleet.cohort.members
    let response := (handle x.fleet r).1
    let later := (handle x.fleet r).2.cohort.members
    let ledger (member : Member) : Ledger :=
      (Ledger.run (.empty member.agent.setup.profile.allocatable)
        (Fleet.callsTo member.agent.name x.calls)).ledger
    (members.map fun member => member.agent.name).Nodup ∧
      (∀ name p, placement? r = some (name, p) →
        (Text.trim p.workload.toList = [] → response.status = 400) ∧
          (Text.trim p.workload.toList ≠ [] →
            ((∀ member ∈ members, member.agent.name ≠ name) → response.status = 404) ∧
              ∀ member ∈ members, member.agent.name = name →
                let decision := (member.agent.submit p.workload p.request x.fleet.site).1
                (response.status = 200 ↔ ∃ record, decision = .admitted record) ∧
                  (response.status = 409 ↔ ∃ reason, decision = .rejected reason) ∧
                  response.body = some decision.toJson)) ∧
      ((placement? r ≠ none → response.status ≠ 200) → response.status ≠ 204 →
        later = members) ∧
      (response.status = 204 → ∃ name workload position member left,
        release? r = some (name, workload) ∧ members[position]? = some member ∧
          member.agent.name = name ∧
          later = members.set position
            { member with agent := { member.agent with ledger := left } } ∧
          member.agent.ledger.Releases workload left) ∧
      ∀ member ∈ members, member.agent.ledger = ledger member ∧
        (r.method = "GET" → subject? r.target = some (.placements member.agent.name) →
          response = Response.json 200 (.list AdmissionRecord.toJson (ledger member).records)) := by
  intro x members response later ledger
  have hsound := front_sound hcreate events
  have hnodup := hsound.inOrder.launches.names_nodup
  have haccounts : ∀ member ∈ members, member.agent.ledger = ledger member :=
    hsound.accounted.accounts
  refine ⟨hnodup, fun name p hplacement => ?_, members_of_response, fun hstatus => ?_,
    fun member hmember => ⟨haccounts member hmember, fun hmethod hsubject => ?_⟩⟩
  · have hresponse : response = (place x.fleet name p).1 := by
      simp only [response, handle_of_placement? hplacement]
    rw [hresponse]
    exact place_response hnodup name p
  · obtain ⟨name, workload, removed, after, hrelease, hremoved, hafter⟩ :=
      exists_release_of_status hstatus
    obtain ⟨position, member, hmember, hname, hlater⟩ := Fleet.members_of_released hremoved
    refine ⟨name, workload, position, member, (member.agent.ledger.release workload).2, hrelease,
      hmember, hname, ?_, ?_⟩
    · exact (congrArg (fun f : Fleet => f.cohort.members) hafter).trans hlater
    · have hbalanced : member.agent.ledger.Balanced := by
        rw [haccounts member (List.mem_of_getElem? hmember)]
        exact (Ledger.run_balanced _ _).1
      exact hbalanced.releases_release workload
  · obtain ⟨position, hfound, -⟩ := Fleet.exists_agent hnodup hmember
    have hlist : response = (listPlacements x.fleet member.agent.name) := by
      simp only [response, handle_get hmethod hsubject]
    rw [hlist, ← haccounts member hmember, listPlacements,
      show x.fleet.agent member.agent.name = _ from hfound]

/-- One agent is launched and registered, and takes a workload: a second one is refused for its
blank name, and the first is released. -/
theorem front_faithful_of_one_agent :
    let config : FleetConfig := { fleetSize := 1 }
    let base := "/api/v1/agents/hollow-node-0/placements"
    let post (body : String) : Request :=
      { method := "POST", target := base, body, contentType := some "application/json" }
    let delete : Request :=
      { method := "DELETE", target := base ++ "/w", body := "", contentType := none }
    let events : List Front.Event :=
      [.fleet (.other (.start fun _ => 0)), .fleet (.other .launch),
        .fleet (.other (.act 0 .task)), .fleet (.other (.act 0 .task)),
        .request (post "\x7b\"workload_id\": \"w\", \"cpu_millis\": 1\x7d")]
    ∃ f, Fleet.create config (.create (.empty 0) ⟨0, 0⟩) = .ok f ∧
      (handle (front f events).fleet (post "\x7b\"workload_id\": \" \"\x7d")).1.status = 400 ∧
      ∃ member ∈ (front f events).fleet.cohort.members, ∃ left,
        (member.agent.ledger.records.map AdmissionRecord.workload = ["w"]) ∧
          member.agent.ledger.Releases "w" left ∧
          (handle (front f events).fleet delete).2.cohort.members =
            [{ member with agent := { member.agent with ledger := left } }] := by
  intro config base post delete events
  have hchecked : (Fleet.create config (.create (.empty 0) ⟨0, 0⟩)).toOption.any (fun f =>
      let x := (front f events).fleet
      decide ((handle x delete).1.status = 204) &&
        decide ((x.cohort.members.map fun member =>
          member.agent.ledger.records.map AdmissionRecord.workload) = [["w"]])) = true := by
    decide +kernel
  have hplacement : placement? (post "\x7b\"workload_id\": \" \"\x7d") =
      some ("hollow-node-0", ⟨" ", 0, 0, 0⟩) := by decide +kernel
  have hrelease : release? delete = some ("hollow-node-0", "w") := by decide +kernel
  obtain ⟨f, hcreate, hfleet⟩ := Fleet.exists_create_of_any hchecked
  simp only [Bool.and_eq_true, decide_eq_true_eq] at hfleet
  obtain ⟨hstatus, hlive⟩ := hfleet
  obtain ⟨-, hplaced, -⟩ :=
    front_faithful hcreate events (post "\x7b\"workload_id\": \" \"\x7d")
  obtain ⟨-, -, -, hreleased, -⟩ := front_faithful hcreate events delete
  obtain ⟨name, workload, position, member, left, hsome, hmember, -, hlater, hleft⟩ :=
    hreleased hstatus
  obtain ⟨-, rfl⟩ := Prod.mk.inj (Option.some.inj (hrelease.symm.trans hsome))
  obtain ⟨only, hmembers, hrecords⟩ := List.map_eq_singleton_iff.1 hlive
  rw [hmembers] at hmember hlater
  obtain ⟨rfl, rfl⟩ : position = 0 ∧ only = member := by
    cases position with
    | zero => exact ⟨rfl, Option.some.inj hmember⟩
    | succ position => cases hmember
  refine ⟨f, hcreate, (hplaced _ _ hplacement).1 (by decide), only, ?_, left, hrecords, hleft,
    hlater⟩
  rw [hmembers]
  exact List.mem_singleton_self _

end Api

end NodeFleet
