import Mathlib.Algebra.BigOperators.Ring.Finset
import NodeFleet.Proofs.Agent.Identity
import NodeFleet.Proofs.Agent.Metering

/-!
# The metrics and the log of calls

The metrics of an agent and the log of the control plane tell of the same calls.  An answered
call is in the log and in the metrics, one that was given up is in the metrics only, as a
failure, and one that was dropped is in neither.  So as long as the log drops nothing, the
successes in the metrics are the entries without an error in the log, and every latency has
its outcome.

Others may call the control plane under the name of the agent, but not with its uids.
-/

namespace NodeFleet

/-! ## Reading and writing the log -/

namespace ControlPlane

/-- Whether an entry of the log tells of a success under a name, with one of certain uids. -/
def isAccepted (own : String → Bool) (operation : Operation) (name : String)
    (entry : CallRecord) : Bool :=
  entry.error.isNone && own entry.uid && (entry.operation = operation && entry.agent = name)

/-- How many calls of an operation under a name did not fail, of those with certain uids. -/
def accepted (p : ControlPlane) (own : String → Bool) (operation : Operation) (name : String) :
    Nat :=
  (p.callsFor operation name).countP fun entry => entry.error.isNone && own entry.uid

theorem accepted_eq (p : ControlPlane) (own : String → Bool) (operation : Operation)
    (name : String) :
    p.accepted own operation name = p.log.toList.countP (isAccepted own operation name) := by
  rw [accepted, callsFor, List.countP_filter]
  refine List.countP_congr fun entry _ => ?_
  simp [isAccepted]

theorem accepted_congr {p later : ControlPlane} (h : later.log = p.log) (own : String → Bool)
    (operation : Operation) (name : String) :
    later.accepted own operation name = p.accepted own operation name := by
  rw [accepted_eq, accepted_eq, h]

/-- A log with room takes up the entry and keeps all others. -/
theorem accepted_append {p later : ControlPlane} {entry : CallRecord}
    (hlog : later.log = appendBounded p.logCapacity p.log entry)
    (hroom : p.log.size < p.logCapacity) (own : String → Bool) (operation : Operation)
    (name : String) :
    later.accepted own operation name =
      p.accepted own operation name + if isAccepted own operation name entry then 1 else 0 := by
  have hpush : later.log = p.log.push entry := by
    rw [hlog, appendBounded, if_neg (Nat.ne_of_gt (Nat.zero_lt_of_lt hroom)),
      if_neg (Nat.not_le.2 hroom)]
  rw [accepted_eq, accepted_eq, hpush, Array.toList_push, List.countP_append, List.countP_singleton]

theorem happen_log_of_call {p : ControlPlane} {event : Event} {operation : Operation}
    {caller : Identity} (hcall : event.call? = some (operation, caller)) :
    ∃ now error, (p.happen event).2.log = appendBounded p.logCapacity p.log
      ⟨operation, caller.name, caller.uid, now, error⟩ := by
  cases event with
  | register who profile now wall =>
      obtain ⟨rfl, rfl⟩ := Prod.mk.inj (Option.some.inj hcall)
      exact ⟨_, _, (p.complete_log .register who now (registering who profile wall)).2⟩
  | renew who version now wall =>
      obtain ⟨rfl, rfl⟩ := Prod.mk.inj (Option.some.inj hcall)
      exact ⟨_, _, (p.complete_log .renewLease who now (renewing who version wall)).2⟩
  | publish who snapshot now =>
      obtain ⟨rfl, rfl⟩ := Prod.mk.inj (Option.some.inj hcall)
      exact ⟨_, _, (p.complete_log .publishStatus who now (publishing who snapshot)).2⟩
  | deregister who now =>
      obtain ⟨rfl, rfl⟩ := Prod.mk.inj (Option.some.inj hcall)
      exact ⟨_, _, (p.complete_log .deregister who now (deregistering who)).2⟩
  | _ => cases hcall

theorem happen_log_of_control {p : ControlPlane} {event : Event} (hcall : event.call? = none) :
    (p.happen event).2.log = p.log := by
  cases event <;> first | rfl | cases hcall

end ControlPlane

namespace Agent

/-! ## Whose calls they are -/

theorem attempts_subset_cons (deed : Deed) (earlier : List Deed) :
    attempts earlier ⊆ attempts (deed :: earlier) :=
  ((List.sublist_cons_self deed earlier).filterMap _).subset

/-- An identity that an agent is attempting to register or holds is one of its own. -/
theorem mem_attempts_of_standing {name : String} {history : List Deed} {identity : Identity}
    (h : Disciplined name history)
    (hstanding : standing history = .attempting identity ∨ standing history = .holding identity) :
    identity ∈ attempts history ∧ identity.name = name := by
  induction history with
  | nil => rcases hstanding with hstanding | hstanding <;> cases hstanding
  | cons deed earlier ih =>
      obtain ⟨hlawful, hearlier⟩ := h
      have hlater (hstood : standing earlier = .attempting identity ∨
          standing earlier = .holding identity) :
          identity ∈ attempts (deed :: earlier) ∧ identity.name = name := by
        obtain ⟨hmem, hname⟩ := ih hearlier hstood
        exact ⟨attempts_subset_cons deed earlier hmem, hname⟩
      cases deed with
      | began operation other =>
          cases operation with
          | register =>
              obtain rfl : other = identity := by simpa [standing] using hstanding
              exact ⟨List.mem_cons_self, hlawful.1⟩
          | _ => exact hlater hstanding
      | ended operation other failure =>
          cases operation with
          | register =>
              -- Only an identity whose registration succeeded is held.
              cases failure with
              | none =>
                  obtain rfl : other = identity := by simpa [standing] using hstanding
                  exact hlater (.inl hlawful)
              | some error => cases error <;> simp [standing] at hstanding
          | _ => exact hlater hstanding
      | lost other => simp [standing] at hstanding

/-- A call that ended was made under the agent's name, with a uid that it tried to register. -/
theorem own_of_ended {name : String} {history : List Deed} {operation : Operation}
    {identity : Identity} {failure : Option CallError}
    (h : Disciplined name (.ended operation identity failure :: history)) :
    identity ∈ attempts history ∧ identity.name = name := by
  obtain ⟨hlawful, hearlier⟩ := h
  refine mem_attempts_of_standing hearlier ?_
  cases operation with
  | register => exact .inl hlawful
  | _ => exact .inr hlawful

/-! ## Moves -/

/-- Whether a move completes a call at the control plane. -/
def Recorded.completes (r : Recorded) : Move → Bool
  | .act actor => !r.agent.isDropping && (r.agent.call? actor).any Call.isAnswered
  | .plane event => event.call?.isSome
  | _ => false

/-- Whether the log has room for every call that is completed while moves happen. -/
def Recorded.hasRoom (r : Recorded) : List Move → Bool
  | [] => true
  | m :: rest =>
      (!r.completes m || r.site.plane.log.size < r.site.plane.logCapacity) &&
        (r.move m).hasRoom rest

/-- Whether a move leaves the calls under a name with certain uids to the agent. -/
def Move.IsApart (name : String) (own : String → Bool) : Move → Prop
  | .control _ => False
  | .plane event => ∀ operation caller, event.call? = some (operation, caller) →
      caller.name = name → own caller.uid = false
  | _ => True

theorem Recorded.hasRoom_append (r : Recorded) (moves rest : List Move) :
    r.hasRoom (moves ++ rest) =
      (r.hasRoom moves && (moves.foldl Recorded.move r).hasRoom rest) := by
  induction moves generalizing r with
  | nil => rfl
  | cons first later ih =>
      rw [List.cons_append, hasRoom, hasRoom, ih, Bool.and_assoc]
      rfl

section Moves

variable {name : String} {own : String → Bool} {r : Recorded}

/-- The log takes up a success exactly if the agent sees one. -/
theorem accepted_act {actor : Actor}
    (hdisciplined : Disciplined name (r.move (.act actor)).history)
    (hown : ∀ identity ∈ attempts r.history, own identity.uid = true)
    (hroom : r.completes (.act actor) = true → r.site.plane.log.size < r.site.plane.logCapacity)
    (operation : Operation) :
    (r.agent.act actor r.site).2.plane.accepted own operation name =
      r.site.plane.accepted own operation name +
        (r.agent.deed? actor r.site).toList.countP (Deed.succeeds operation) := by
  cases r.agent.act_booking r.site actor with
  | nothing hsilent hbooks =>
      rw [hbooks.plane_eq]
      cases hdeed : r.agent.deed? actor r.site with
      | none => rfl
      | some deed =>
          obtain ⟨-, hfails⟩ := deed?_of_silent hsilent hdeed
          simp [hfails operation]
  | @settled call request plane hcall hrequest hkept hplane hbooks =>
      have hdeed := deed?_eq_ended request hrequest hkept
      simp only [Recorded.move, hdeed, Option.toList_some, List.singleton_append] at hdisciplined
      obtain ⟨hmem, hname⟩ := own_of_ended hdisciplined
      rw [hdeed, hbooks.plane_eq, Option.toList_some, List.countP_singleton]
      cases hanswered : call.isAnswered with
      | true =>
          have hcompletes : r.completes (.act actor) = true := by
            simp [Recorded.completes, hkept, hcall, hanswered]
          rw [ControlPlane.accepted_append (hplane.answered hanswered) (hroom hcompletes)]
          have hsame : ControlPlane.isAccepted own operation name (request.entry r.site.now) =
              Deed.succeeds operation
                (.ended request.operation request.identity request.failure) := by
            cases hfailure : request.failure <;>
              simp [ControlPlane.isAccepted, Request.entry, Deed.succeeds, hfailure, hname,
                hown _ hmem]
          rw [hsame]
      | false =>
          -- A call that was given up has failed, so neither side counts it.
          obtain ⟨hlog, hfailed⟩ := hplane.unanswered hanswered
          rw [ControlPlane.accepted_congr hlog]
          cases hfailure : request.failure with
          | none => exact absurd hfailure hfailed
          | some error => rfl

/-- What others call is not counted. -/
theorem accepted_plane {event : ControlPlane.Event} (happart : (Move.plane event).IsApart name own)
    (hroom : r.completes (.plane event) = true →
      r.site.plane.log.size < r.site.plane.logCapacity) (operation : Operation) :
    (r.site.plane.happen event).2.accepted own operation name =
      r.site.plane.accepted own operation name := by
  cases hcall : event.call? with
  | none => exact ControlPlane.accepted_congr (ControlPlane.happen_log_of_control hcall) ..
  | some made =>
      obtain ⟨done, caller⟩ := made
      obtain ⟨now, error, hlog⟩ := ControlPlane.happen_log_of_call hcall
      rw [ControlPlane.accepted_append hlog (hroom (by simp [Recorded.completes, hcall]))]
      have hforeign : ControlPlane.isAccepted own operation name
          ⟨done, caller.name, caller.uid, now, error⟩ = false := by
        by_cases hname : caller.name = name
        · simp [ControlPlane.isAccepted, happart done caller hcall hname]
        · simp [ControlPlane.isAccepted, hname]
      simp [hforeign]

/-- A move adds to the log what the agent does in it. -/
theorem accepted_move {m : Move} (hdisciplined : Disciplined name (r.move m).history)
    (hown : ∀ identity ∈ attempts r.history, own identity.uid = true)
    (happart : m.IsApart name own) (hroom : r.hasRoom [m] = true) (operation : Operation) :
    (r.move m).site.plane.accepted own operation name =
      r.site.plane.accepted own operation name +
        (r.deeds m).countP (Deed.succeeds operation) := by
  have hroom : r.completes m = true → r.site.plane.log.size < r.site.plane.logCapacity := by
    intro hcompletes
    simpa [Recorded.hasRoom, hcompletes] using hroom
  cases m with
  | act actor => exact accepted_act hdisciplined hown hroom operation
  | stop =>
      have hplane : (r.agent.stop r.site).2.2.plane = r.site.plane := by
        unfold stop
        dsimp only
        split <;> rfl
      exact ControlPlane.accepted_congr (congrArg ControlPlane.log hplane) ..
  | submit workload request => rfl
  | release workload =>
      have hplane : (r.agent.release workload r.site).2.2.plane = r.site.plane := by
        simp only [release]
        split_ifs <;> rfl
      exact ControlPlane.accepted_congr (congrArg ControlPlane.log hplane) ..
  | wait instant => rfl
  | plane event => exact accepted_plane happart hroom operation
  | control plane => exact happart.elim
  | draw count => rfl

end Moves

/-! ## Runs -/

/-- In a run the entries of successes have gone up by the calls that succeeded. -/
theorem run_accepted (setup : AgentSetup) (site : Site) (moves : List Move) {own : String → Bool}
    (hown : ∀ identity ∈ attempts (run setup site moves).history, own identity.uid = true)
    (happart : ∀ m ∈ moves, m.IsApart setup.name own)
    (hroom : ({ agent := .create setup, site, history := [] } : Recorded).hasRoom moves = true)
    (operation : Operation) :
    (run setup site moves).site.plane.accepted own operation setup.name =
      site.plane.accepted own operation setup.name +
        (run setup site moves).history.countP (Deed.succeeds operation) := by
  induction moves using List.reverseRecOn with
  | nil => rfl
  | append_singleton moves m ih =>
      -- The agent is disciplined, so a call that ends is made with one of its own uids.
      have hdisciplined := run_disciplined setup site (moves ++ [m])
      rw [Recorded.hasRoom_append, Bool.and_eq_true] at hroom
      rw [run_concat] at hdisciplined hown ⊢
      rw [Recorded.history_move] at hown ⊢
      have hownEarlier : ∀ identity ∈ attempts (run setup site moves).history,
          own identity.uid = true := by
        intro identity hmem
        refine hown identity ?_
        rw [attempts, List.filterMap_append]
        exact List.mem_append_right _ hmem
      rw [accepted_move hdisciplined hownEarlier (happart m (by simp)) hroom.2,
        ih hownEarlier (fun m hm => happart m (List.mem_append_left _ hm)) hroom.1,
        List.countP_append]
      omega

/-- At every point of every run of one agent at a control plane whose log drops nothing, and where
others use other uids if they call under the agent's name: the registrations, renewals and
publications that the metrics call successes are as many as the log has without an error, and all
outcomes of a call that the metrics tell apart add up to the latencies that were recorded of it. -/
theorem calls_accounted (setup : AgentSetup) (site : Site) (moves : List Move)
    (own : String → Bool)
    (hown : ∀ identity ∈ attempts (run setup site moves).history, own identity.uid = true)
    (happart : ∀ m ∈ moves, m.IsApart setup.name own)
    (hroom : ({ agent := .create setup, site, history := [] } : Recorded).hasRoom moves = true) :
    let r := run setup site moves
    let gain (series : Series) : Int := r.site.count series - site.count series
    let logged (operation : Operation) : Int :=
      r.site.plane.accepted own operation setup.name - site.plane.accepted own operation setup.name
    (gain (.registrations none) = logged .register ∧
      gain (.leaseRenewals .success) = logged .renewLease ∧
      gain (.statusPublishes .published) = logged .publishStatus) ∧
    ∀ operation, operation ≠ .deregister →
      ((outcomes operation).map gain).sum = gain (.callLatency operation) := by
  intro r gain logged
  have hgain (series : Series) (hcalls : series.countsCalls = true) :
      gain series = (r.history.flatMap Deed.tally).count series := by
    simp only [gain, r, run_count setup site moves hcalls]
    omega
  have hlogged (operation : Operation) :
      logged operation = r.history.countP (Deed.succeeds operation) := by
    simp only [logged, r, run_accepted setup site moves hown happart hroom operation]
    push_cast
    omega
  have hsuccess {operation : Operation} {series : Series}
      (hseries : success? operation = some series) (hcalls : series.countsCalls = true) :
      gain series = logged operation := by
    rw [hgain series hcalls, hlogged, count_success_history hseries]
  refine ⟨⟨hsuccess rfl rfl, hsuccess rfl rfl, hsuccess rfl rfl⟩, fun operation hcounted => ?_⟩
  rw [hgain (.callLatency operation) rfl, ← sum_outcomes_history hcounted, Nat.cast_list_sum,
    List.map_map]
  refine congrArg List.sum (List.map_congr_left fun series hseries => ?_)
  exact hgain series (countsCalls_of_mem_outcomes operation series hseries)

/-- A renewal fails, one succeeds, and one is refused because somebody else has registered under the
name. -/
theorem calls_accounted_with_rival :
    let profile : Profile := ⟨1000, 1000, 0, 0, 10, ⟨0, 24⟩⟩
    let setup : AgentSetup := ⟨"node", profile, 10, ⟨10, 60, 1⟩, ⟨3, 1, 8, 5⟩, 30⟩
    let site : Site := .create (.empty 100) ⟨0, 0⟩
    let moves : List Move :=
      [.plane (.failNext .renewLease 1 (.unavailable "down")), .act .task, .act .task] ++
        List.replicate 4 (.act .heartbeat) ++
        [.plane (.register ⟨"node", "rival", 0⟩ profile 20 ⟨0, 0⟩)] ++
        List.replicate 2 (.act .heartbeat)
    let own (uid : String) : Bool := uid ≠ "rival"
    let r := run setup site moves
    (∀ identity ∈ attempts r.history, own identity.uid = true) ∧
      (∀ m ∈ moves, m.IsApart "node" own) ∧
      ({ agent := .create setup, site, history := [] } : Recorded).hasRoom moves = true ∧
      r.site.plane.accepted own .register "node" = 1 ∧ r.site.count (.registrations none) = 1 ∧
      r.site.plane.accepted own .renewLease "node" = 1 ∧
      r.site.count (.leaseRenewals .success) = 1 ∧ r.site.count (.callLatency .renewLease) = 3 := by
  intro profile setup site moves own r
  have hown : ∀ identity ∈ attempts r.history, own identity.uid = true := by decide +kernel
  have happart : ∀ m ∈ moves, m.IsApart "node" own := by
    intro m hm
    simp only [moves, List.mem_append, List.mem_cons, List.not_mem_nil, or_false] at hm
    rcases hm with (((rfl | rfl | rfl) | hm) | rfl) | hm
    · exact fun _ _ hcall => nomatch hcall
    · trivial
    · trivial
    · exact List.eq_of_mem_replicate hm ▸ trivial
    · rintro _ _ ⟨rfl⟩ -
      decide
    · exact List.eq_of_mem_replicate hm ▸ trivial
  have hroom :
      ({ agent := .create setup, site, history := [] } : Recorded).hasRoom moves = true := by
    decide +kernel
  obtain ⟨⟨hregistered, hrenewed, -⟩, hlatencies⟩ :=
    calls_accounted setup site moves own hown happart hroom
  have hlogged (operation : Operation) (hcalled : operation = .register ∨ operation = .renewLease) :
      r.site.plane.accepted own operation "node" = 1 := by
    rcases hcalled with rfl | rfl <;> decide +kernel
  have houtcomes : ((outcomes .renewLease).map r.site.count).sum = 3 := by decide +kernel
  have hstart (series : Series) : site.count series = 0 := rfl
  have hlatency := hlatencies .renewLease nofun
  simp only [hstart, Int.sub_zero] at hregistered hrenewed hlatency
  refine ⟨hown, happart, hroom, hlogged _ (.inl rfl), ?_, hlogged _ (.inr rfl), ?_, ?_⟩
  · rw [hregistered, hlogged _ (.inl rfl)]
    rfl
  · rw [hrenewed, hlogged _ (.inr rfl)]
    rfl
  · exact hlatency.symm.trans houtcomes

end Agent

end NodeFleet
