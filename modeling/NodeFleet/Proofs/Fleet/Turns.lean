import NodeFleet.Proofs.Agent.Answers
import NodeFleet.Proofs.Fleet.Calls

/-!
# The agents of a fleet and the calls to them

In an event of the fleet an agent either does what it could do alone or rests, while others change
the site (`Turn`).  So what holds of an agent and its stop calls when it is alone holds in a fleet,
whoever makes the calls (`Kept`), and what is for good there is for good here (`Follows`).
-/

namespace NodeFleet

namespace Fleet

theorem setAgent_self {f : Fleet} {position : Nat} {member : Member}
    (hmember : f.cohort.members[position]? = some member) :
    f.setAgent position member.agent f.site = f := by
  obtain ⟨hlt, hget⟩ := List.getElem?_eq_some_iff.1 hmember
  have hsame : f.cohort.members.set position member = f.cohort.members := by
    rw [← hget]
    exact List.set_getElem_self hlt
  have hcohort : f.cohort.setAgent position member.agent f.site = f.cohort := calc
    _ = { f.cohort with members := f.cohort.members.set position member } :=
      Cohort.setAgent_eq hmember member.agent f.site
    _ = f.cohort := by rw [hsame]
  rw [setAgent, hcohort]

namespace Attended

/-! ## One agent with its calls -/

def members (x : Attended) : List Member := x.fleet.cohort.members

/-- The names of the launched agents, in the order of their launch. -/
def names (x : Attended) : List String := x.members.map fun member => member.agent.name

/-- An agent of the fleet with the stop calls to it. -/
def tended (x : Attended) (position : Nat) (member : Member) : Agent.Attended :=
  { agent := member.agent, site := x.fleet.site, history := [], calls := x.calls position }

/-- The fleet after an agent with the calls to it has become another. -/
def put (x : Attended) (position : Nat) (y : Agent.Attended) : Attended :=
  { x with
    fleet := x.fleet.setAgent position y.agent y.site
    calls := Function.update x.calls position y.calls }

/-- Lets something happen to one agent. -/
def tend (x : Attended) (position : Nat) (member : Member) (event : Agent.Attended.Event) :
    Attended :=
  x.put position ((x.tended position member).happen event)

/-- What an event can do to the agents and to their stop calls. -/
inductive Turn (x : Attended) : Attended → Prop where
  | rested {y : Attended} (hmembers : y.members = x.members) (hcalls : y.calls = x.calls) :
      Turn x y
  | enlisted {y : Attended} {index : Nat} {setup : AgentSetup}
      (hopen : x.fleet.cohort.launchCancelled = false)
      (hmembers : y.members = x.members ++ [{ index, agent := .create setup }])
      (hcalls : y.calls = x.calls) : Turn x y
  | tended {position : Nat} {member : Member} (hmember : x.members[position]? = some member)
      (event : Agent.Attended.Event) : Turn x (x.tend position member event)
  /-- A shutdown calls for every agent to stop. -/
  | summoned {y : Attended} (hmembers : y.members = x.members)
      (hcalls : y.calls = fun position =>
        if position < x.members.length then x.calls position ++ [.called] else x.calls position) :
      Turn x y

variable {x y z : Attended}

/-- The calls to the agent stay as they are. -/
theorem tend_other {position : Nat} {member : Member} {move : Agent.Move}
    (hother : move.isStop = false) :
    x.tend position member (.other move hother) =
      let y := (x.tended position member).happen (.other move hother)
      { x with fleet := x.fleet.setAgent position y.agent y.site } := by
  have hcalls : Function.update x.calls position (x.calls position) = x.calls :=
    Function.update_eq_self position x.calls
  simp only [tend, put, Agent.Attended.happen, tended, hcalls]

theorem Turn.other {position : Nat} {member : Member} {move : Agent.Move}
    (hmember : x.members[position]? = some member) (hother : move.isStop = false) :
    let y := (x.tended position member).happen (.other move hother)
    x.Turn { x with fleet := x.fleet.setAgent position y.agent y.site } := by
  have hturn : x.Turn (x.tend position member (.other move hother)) := .tended hmember _
  rwa [tend_other hother] at hturn

theorem InOrder.move_turn (h : x.InOrder) (m : Move) : x.Turn (x.happen (.other m)) := by
  cases m with
  | start draw =>
      simp only [Attended.happen, Fleet.move]
      split
      · exact .rested (h.launches.start ‹_› ‹_›).2.1 rfl
      · exact .rested rfl rfl
  | launch =>
      simp only [Attended.happen, Fleet.move]
      split_ifs with hready
      · obtain ⟨due, hdue, -⟩ := (Option.any_eq_true _ _).1 hready
        have hstep := h.launches.perform_launch hdue
        generalize x.fleet.cohort.perform .launch = c at hstep
        cases hstep with
        | ended hlauncher hbusy hcancelled => exact .rested rfl rfl
        | launched hlauncher hbusy hopen hplan hmore => exact .enlisted hopen rfl rfl
        | completed hlauncher hbusy hopen hplan => exact .enlisted hopen rfl rfl
      · exact .rested rfl rfl
  | act position actor =>
      simp only [Attended.happen, Fleet.move]
      split_ifs with hready
      · cases hmember : x.fleet.cohort.members[position]? with
        | none =>
            simp only [Cohort.perform, hmember]
            exact .rested rfl rfl
        | some member =>
            have hother : Agent.Move.isStop (.act actor) = false := by
              cases actor with
              | stopper => exact absurd rfl hready.1
              | _ => rfl
            simp only [Cohort.perform, hmember]
            exact .other hmember hother
      · exact .rested rfl rfl
  | wait instant => exact .rested rfl rfl
  | control plane => exact .rested rfl rfl
  | submit name workload request =>
      simp only [Attended.happen, Fleet.move, Fleet.submit]
      cases hfound : x.fleet.agent name with
      | error error => exact .rested rfl rfl
      | ok found =>
          obtain ⟨position, agent⟩ := found
          obtain ⟨member, hmember, rfl, -⟩ := exists_member_of_agent hfound
          have hother : Agent.Move.isStop (.submit workload request) = false := rfl
          exact .other hmember hother
  | release name workload =>
      simp only [Attended.happen, Fleet.move, Fleet.release]
      cases hfound : x.fleet.agent name with
      | error error => exact .rested rfl rfl
      | ok found =>
          obtain ⟨position, agent⟩ := found
          obtain ⟨member, hmember, rfl, -⟩ := exists_member_of_agent hfound
          have hother : Agent.Move.isStop (.release workload) = false := rfl
          exact .other hmember hother

theorem advance_turn (x : Attended) (caller : Nat) : x.Turn (x.advance caller) := by
  cases hstage : x.shutdowns[caller]? with
  | none =>
      simp only [advance, hstage]
      exact .rested rfl rfl
  | some stage =>
      cases stage with
      | cleared =>
          simp only [advance, hstage]
          exact .summoned rfl rfl
      | cancelled | stopping =>
          simp only [advance, hstage]
          split <;> exact .rested rfl rfl
      | _ =>
          simp only [advance, hstage]
          exact .rested rfl rfl

theorem InOrder.happen_turn (h : x.InOrder) (event : Event) : x.Turn (x.happen event) := by
  cases event with
  | other m => exact h.move_turn m
  | stop position =>
      simp only [Attended.happen]
      split_ifs with hlt
      · obtain ⟨member, hmember⟩ : ∃ member, x.members[position]? = some member :=
          ⟨_, List.getElem?_eq_getElem hlt⟩
        have htend : x.tend position member .call =
            { x with
              calls := Function.update x.calls position (x.calls position ++ [.called]) } := by
          simp only [tend, put, Agent.Attended.happen, tended, setAgent_self hmember]
        exact htend ▸ .tended hmember .call
      · exact .rested rfl rfl
  | proceed position caller =>
      simp only [Attended.happen]
      cases hmember : x.fleet.cohort.members[position]? with
      | none => exact .rested rfl rfl
      | some member => exact .tended hmember (.proceed caller)
  | shutdown => exact .rested rfl rfl
  | advance caller => exact x.advance_turn caller

theorem members_tend {position : Nat} {member : Member}
    (hmember : x.members[position]? = some member) (event : Agent.Attended.Event) :
    (x.tend position member event).members =
      x.members.set position
        { member with agent := ((x.tended position member).happen event).agent } := by
  show (x.fleet.cohort.setAgent position _ _).members = _
  rw [Cohort.setAgent_eq hmember]
  rfl

/-! ## What holds at any time -/

/-- What holds of a fleet that is called at any time, and of each of its agents. -/
structure Kept (x : Attended) : Prop where
  inOrder : x.InOrder
  agents : ∀ position member, x.members[position]? = some member →
    (x.tended position member).Kept
  vacant : ∀ position, x.members.length ≤ position → x.calls position = []
  closed : x.isCleared = true → x.fleet.Closed

/-- What one time leaves to a later one, of the agents and of the calls to them. -/
structure Follows (x y : Attended) : Prop where
  lasts : ∀ position member, x.members[position]? = some member →
    ∃ later, y.members[position]? = some later ∧
      (x.tended position member).Lasts (y.tended position later)
  length_le : ∀ position, (x.calls position).length ≤ (y.calls position).length
  /-- Once launching is cancelled no agent is launched. -/
  cancelled : x.fleet.cohort.launchCancelled = true →
    y.fleet.cohort.launchCancelled = true ∧ y.members.length = x.members.length

theorem Follows.refl (x : Attended) : x.Follows x :=
  ⟨fun _ member hmember => ⟨member, hmember, .of_eq rfl rfl⟩, fun _ => Nat.le_refl _,
    fun hcancelled => ⟨hcancelled, rfl⟩⟩

theorem Follows.trans (h : x.Follows y) (hnext : y.Follows z) : x.Follows z where
  lasts := by
    intro position member hmember
    obtain ⟨middle, hmiddle, hfirst⟩ := h.lasts position member hmember
    obtain ⟨last, hlast, hsecond⟩ := hnext.lasts position middle hmiddle
    exact ⟨last, hlast, hfirst.trans hsecond⟩
  length_le := fun position => (h.length_le position).trans (hnext.length_le position)
  cancelled := by
    intro hcancelled
    obtain ⟨hstill, hlength⟩ := h.cancelled hcancelled
    obtain ⟨hlast, heq⟩ := hnext.cancelled hstill
    exact ⟨hlast, heq.trans hlength⟩

theorem Follows.names_eq (h : x.Follows y) (hcancelled : x.fleet.cohort.launchCancelled = true) :
    y.names = x.names := by
  refine List.ext_getElem? fun position => ?_
  simp only [names, List.getElem?_map]
  cases hmember : x.members[position]? with
  | none =>
      have hbeyond := List.getElem?_eq_none_iff.1 hmember
      rw [← (h.cancelled hcancelled).2] at hbeyond
      rw [List.getElem?_eq_none_iff.2 hbeyond]
  | some member =>
      obtain ⟨later, hlater, hlasts⟩ := h.lasts position member hmember
      rw [hlater]
      exact congrArg some hlasts.name_eq

/-- What a turn makes of the agent at a position and of the calls to it. -/
theorem Kept.turn (h : x.Kept) (hturn : x.Turn y) (hnow : x.fleet.site.now ≤ y.fleet.site.now)
    {position : Nat} {later : Member} (hlater : y.members[position]? = some later) :
    (y.tended position later).Kept ∧ ∀ member, x.members[position]? = some member →
      (x.tended position member).Lasts (y.tended position later) := by
  -- An agent that rests, with the calls to it.
  have hrest (hmember : x.members[position]? = some later)
      (hcalls : y.calls position = x.calls position) :
      (y.tended position later).Kept ∧ ∀ member, x.members[position]? = some member →
        (x.tended position member).Lasts (y.tended position later) := by
    refine ⟨(h.agents position later hmember).congr rfl hcalls hnow, fun member hfound => ?_⟩
    obtain rfl := Option.some.inj (hfound.symm.trans hmember)
    exact .of_eq rfl hcalls
  cases hturn with
  | rested hmembers hcalls => exact hrest (hmembers ▸ hlater) (congrFun hcalls position)
  | @enlisted _ index setup hopen hmembers hcalls =>
      rw [hmembers] at hlater
      by_cases hlt : position < x.members.length
      · rw [List.getElem?_append_left hlt] at hlater
        exact hrest hlater (congrFun hcalls position)
      · have hvacant := h.vacant position (Nat.le_of_not_lt hlt)
        have hempty : y.calls position = [] := by rw [hcalls, hvacant]
        rw [List.getElem?_append_right (Nat.le_of_not_lt hlt), List.getElem?_singleton] at hlater
        split_ifs at hlater
        obtain rfl := Option.some.inj hlater
        refine ⟨?_, fun member hmember => ?_⟩
        · exact (Agent.Attended.kept_create setup y.fleet.site []).congr rfl hempty (Nat.le_refl _)
        · exact absurd (List.getElem?_eq_some_iff.1 hmember).1 hlt
  | @tended place member hmember event =>
      rw [members_tend hmember] at hlater
      by_cases hsame : place = position
      · subst hsame
        obtain ⟨hlt, -⟩ := List.getElem?_eq_some_iff.1 hmember
        rw [List.getElem?_set_self hlt] at hlater
        obtain rfl := Option.some.inj hlater
        have hkept := h.agents place member hmember
        have hcalls : (x.tend place member event).calls place =
            ((x.tended place member).happen event).calls := Function.update_self ..
        refine ⟨(hkept.happen event).congr rfl hcalls (Nat.le_refl _), fun other hother => ?_⟩
        obtain rfl := Option.some.inj (hmember.symm.trans hother)
        exact (hkept.lasts_happen event).trans (.of_eq rfl hcalls)
      · rw [List.getElem?_set_ne hsame] at hlater
        exact hrest hlater (Function.update_of_ne (Ne.symm hsame) _ _)
  | summoned hmembers hcalls =>
      rw [hmembers] at hlater
      have hkept := h.agents position later hlater
      have hcalled : y.calls position = ((x.tended position later).happen .call).calls := by
        rw [hcalls]
        exact if_pos (List.getElem?_eq_some_iff.1 hlater).1
      refine ⟨(hkept.happen .call).congr rfl hcalled hnow, fun member hmember => ?_⟩
      obtain rfl := Option.some.inj (hmember.symm.trans hlater)
      exact (hkept.lasts_happen .call).trans (.of_eq rfl hcalled)

theorem Turn.length_le (hturn : x.Turn y) (position : Nat) :
    (x.calls position).length ≤ (y.calls position).length := by
  cases hturn with
  | rested hmembers hcalls | enlisted hopen hmembers hcalls => rw [hcalls]
  | @tended place member hmember event =>
      show _ ≤ (Function.update x.calls place _ position).length
      by_cases hsame : position = place
      · subst hsame
        rw [Function.update_self]
        exact (x.tended position member).length_le_happen event
      · rw [Function.update_of_ne hsame]
  | summoned hmembers hcalls =>
      simp only [hcalls]
      split_ifs <;> simp

theorem Turn.vacant (hturn : x.Turn y) (h : x.Kept) {position : Nat}
    (hbeyond : y.members.length ≤ position) : y.calls position = [] := by
  cases hturn with
  | rested hmembers hcalls =>
      rw [hcalls]
      exact h.vacant position (hmembers ▸ hbeyond)
  | enlisted hopen hmembers hcalls =>
      rw [hmembers, List.length_append] at hbeyond
      rw [hcalls]
      exact h.vacant position (by omega)
  | @tended place member hmember event =>
      rw [members_tend hmember, List.length_set] at hbeyond
      have hlt := (List.getElem?_eq_some_iff.1 hmember).1
      show Function.update x.calls place _ position = []
      rw [Function.update_of_ne (by omega)]
      exact h.vacant position hbeyond
  | summoned hmembers hcalls =>
      rw [hmembers] at hbeyond
      rw [hcalls]
      show (if position < x.members.length then _ else x.calls position) = []
      rw [if_neg (Nat.not_lt_of_le hbeyond)]
      exact h.vacant position hbeyond

/-- Once launching is cancelled no agent is launched. -/
theorem Turn.length_eq (hturn : x.Turn y) (hcancelled : x.fleet.cohort.launchCancelled = true) :
    y.members.length = x.members.length := by
  cases hturn with
  | rested hmembers hcalls | summoned hmembers hcalls => rw [hmembers]
  | enlisted hopen => exact absurd (hopen.symm.trans hcancelled) Bool.false_ne_true
  | tended hmember event => rw [members_tend hmember, List.length_set]

theorem Turn.exists_later (hturn : x.Turn y) {position : Nat} {member : Member}
    (hmember : x.members[position]? = some member) :
    ∃ later, y.members[position]? = some later := by
  have hlt := (List.getElem?_eq_some_iff.1 hmember).1
  have hlength : x.members.length ≤ y.members.length := by
    cases hturn with
    | rested hmembers hcalls | summoned hmembers hcalls => rw [hmembers]
    | enlisted hopen hmembers => rw [hmembers]; simp
    | tended hfound event => rw [members_tend hfound, List.length_set]
  exact ⟨_, List.getElem?_eq_getElem (hlt.trans_le hlength)⟩

theorem Kept.follows_happen (h : x.Kept) (event : Event) : x.Follows (x.happen event) := by
  have hstep := h.inOrder.happen_step event
  have hturn := h.inOrder.happen_turn event
  have hnow := hstep.now_le h.inOrder.launches
  refine ⟨fun position member hmember => ?_, hturn.length_le, fun hcancelled => ?_⟩
  · obtain ⟨later, hlater⟩ := hturn.exists_later hmember
    exact ⟨later, hlater, (h.turn hturn hnow hlater).2 member hmember⟩
  · exact ⟨hstep.launchCancelled h.inOrder.launches hcancelled, hturn.length_eq hcancelled⟩

theorem Kept.happen (h : x.Kept) (event : Event) : (x.happen event).Kept := by
  have hstep := h.inOrder.happen_step event
  have hturn := h.inOrder.happen_turn event
  have hnow := hstep.now_le h.inOrder.launches
  refine ⟨h.inOrder.happen event, fun position later hlater => (h.turn hturn hnow hlater).1,
    fun position => hturn.vacant h, fun hcleared => ?_⟩
  rw [isCleared_happen, Bool.or_eq_true] at hcleared
  rcases hcleared with hbefore | hclears
  · exact hstep.closed h.inOrder.launches (h.closed hbefore)
  · rw [hclears] at hstep
    generalize x.call? event = call at hstep
    generalize (x.happen event).fleet = later at hstep ⊢
    cases hstep with
    | cleared hcancelled => exact ⟨hcancelled, rfl⟩

theorem Kept.run (h : x.Kept) (events : List Event) : (events.foldl Attended.happen x).Kept := by
  induction events generalizing x with
  | nil => exact h
  | cons event events ih => exact ih (h.happen event)

end Attended

theorem kept_create {config : FleetConfig} {site : Site} {f : Fleet}
    (hcreate : create config site = .ok f) : (f.attend []).Kept := by
  obtain ⟨-, -, hmembers⟩ := launches_create hcreate
  refine ⟨attend_inOrder hcreate [], fun position member hmember => ?_, fun _ _ => rfl, nofun⟩
  have hfound : f.cohort.members[position]? = some member := hmember
  rw [hmembers] at hfound
  exact nomatch hfound

theorem attend_kept {config : FleetConfig} {site : Site} {f : Fleet}
    (hcreate : create config site = .ok f) (events : List Attended.Event) :
    (f.attend events).Kept :=
  (kept_create hcreate).run events

end Fleet

end NodeFleet
