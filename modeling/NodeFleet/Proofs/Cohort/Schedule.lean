import Mathlib.Algebra.GroupWithZero.Nat
import Mathlib.Algebra.Order.BigOperators.Group.List
import NodeFleet.Proofs.Agent.Ending
import NodeFleet.Proofs.Cohort.Run

/-!
# The schedule of a cohort

The next event of a cohort is the earliest of those that are due, and what is overdue happens
now (`nextEvent?_eq_some`).  A run that goes on while something is to be done ends when that
is done, if every event leaves less to do and there is fuel for all of it (`runWhile_ends`).

So a cohort whose agents were all told to end, and that launches no others, ends all its stop
calls: no agent has more than seven steps to go (`awaitStops_ends`).
-/

namespace NodeFleet.Cohort

variable {c : Cohort} {time : Instant} {event : Event}

/-! ## The next event -/

theorem mem_events : (time, event) ∈ c.events ↔
    ∃ due, c.due? event = some due ∧ time = max due c.site.now := by
  have hlaunch : (time, event) ∈
        c.launchDue?.toList.map (fun due => (max due c.site.now, .launch)) ↔
      event = .launch ∧ ∃ due, c.launchDue? = some due ∧ time = max due c.site.now := by
    simp only [List.mem_map, Option.mem_toList, Prod.mk.injEq]
    constructor
    · rintro ⟨due, hdue, rfl, rfl⟩
      exact ⟨rfl, due, hdue, rfl⟩
    · rintro ⟨rfl, due, hdue, rfl⟩
      exact ⟨due, hdue, rfl, rfl⟩
  have hagent : (time, event) ∈
        c.members.zipIdx.flatMap (fun entry => eventsOf c.site.now entry.1 entry.2) ↔
      ∃ position member actor due, event = .agent position actor ∧
        c.members[position]? = some member ∧ member.agent.due? actor = some due ∧
        time = max due c.site.now := by
    simp only [List.mem_flatMap, eventsOf, List.mem_filterMap, Option.map_eq_some_iff,
      Prod.mk.injEq, Prod.exists, List.mem_zipIdx_iff_getElem?]
    constructor
    · rintro ⟨member, position, hmember, actor, -, due, hdue, rfl, rfl⟩
      exact ⟨position, member, actor, due, rfl, hmember, hdue, rfl⟩
    · rintro ⟨position, member, actor, due, rfl, hmember, hdue, rfl⟩
      exact ⟨member, position, hmember, actor, by cases actor <;> decide, due, hdue, rfl, rfl⟩
  rw [events, List.mem_append, hlaunch, hagent]
  cases event with
  | launch => simp [due?]
  | agent position actor =>
      simp only [due?, Option.bind_eq_some_iff]
      constructor
      · rintro (⟨hlaunch, -⟩ | ⟨position, member, actor, due, heq, hmember, hdue, rfl⟩)
        · exact nomatch hlaunch
        · obtain ⟨rfl, rfl⟩ := Event.agent.inj heq
          exact ⟨due, ⟨member, hmember, hdue⟩, rfl⟩
      · rintro ⟨due, ⟨member, hmember, hdue⟩, rfl⟩
        exact .inr ⟨position, member, actor, due, rfl, hmember, hdue, rfl⟩

theorem foldl_earlier_mem (first : Instant × Event) (rest : List (Instant × Event)) :
    rest.foldl earlier first ∈ first :: rest ∧
      ∀ entry ∈ first :: rest, (rest.foldl earlier first).1 ≤ entry.1 := by
  induction rest generalizing first with
  | nil =>
      refine ⟨List.mem_singleton_self _, ?_⟩
      intro entry hentry
      obtain rfl := List.mem_singleton.1 hentry
      exact Nat.le_refl _
  | cons next rest ih =>
      obtain ⟨hmem, hle⟩ := ih (earlier first next)
      have hhead := hle _ List.mem_cons_self
      have hfirst : (earlier first next).1 ≤ first.1 ∧ (earlier first next).1 ≤ next.1 := by
        unfold earlier
        split_ifs <;> lia
      have hearlier : earlier first next = first ∨ earlier first next = next := by
        unfold earlier
        split_ifs
        · exact .inr rfl
        · exact .inl rfl
      constructor
      · rcases List.mem_cons.1 hmem with heq | hrest
        · rw [List.foldl_cons, heq]
          rcases hearlier with heq | heq <;> simp [heq]
        · exact List.mem_cons_of_mem _ (List.mem_cons_of_mem _ hrest)
      · intro entry hentry
        rcases List.mem_cons.1 hentry with rfl | hentry
        · exact Nat.le_trans hhead hfirst.1
        · rcases List.mem_cons.1 hentry with rfl | hentry
          · exact Nat.le_trans hhead hfirst.2
          · exact hle entry (List.mem_cons_of_mem _ hentry)

/-- The next event is due, and nothing is due earlier. -/
theorem nextEvent?_eq_some (h : c.nextEvent? = some (time, event)) :
    (∃ due, c.due? event = some due ∧ time = max due c.site.now) ∧
      ∀ other due, c.due? other = some due → time ≤ max due c.site.now := by
  unfold nextEvent? at h
  split at h
  · exact nomatch h
  · rename_i first rest hevents
    obtain ⟨hmem, hle⟩ := foldl_earlier_mem first rest
    rw [Option.some.inj h, ← hevents] at hmem
    rw [Option.some.inj h, ← hevents] at hle
    refine ⟨mem_events.1 hmem, ?_⟩
    intro other due hdue
    exact hle (max due c.site.now, other) (mem_events.2 ⟨due, hdue, rfl⟩)

theorem exists_nextEvent? {due : Instant} (hdue : c.due? event = some due) :
    ∃ time event, c.nextEvent? = some (time, event) := by
  have hmem : (max due c.site.now, event) ∈ c.events := mem_events.2 ⟨due, hdue, rfl⟩
  unfold nextEvent?
  cases hevents : c.events with
  | nil => rw [hevents] at hmem; exact nomatch hmem
  | cons first rest => exact ⟨_, _, rfl⟩

/-! ## Runs that end -/

theorem runWhile_ends {isBusy : Cohort → Bool} (P : Cohort → Prop) (measure : Cohort → Nat)
    (hstep : ∀ c, P c → isBusy c = true → ∃ time event, c.nextEvent? = some (time, event) ∧
      P (c.performAt time event) ∧ measure (c.performAt time event) < measure c)
    {fuel : Nat} (hP : P c) (hfuel : measure c ≤ fuel) :
    P (runWhile isBusy fuel c) ∧ isBusy (runWhile isBusy fuel c) = false := by
  induction fuel generalizing c with
  | zero =>
      refine ⟨hP, ?_⟩
      by_contra hbusy
      obtain ⟨time, event, -, -, hlt⟩ := hstep c hP ((Bool.not_eq_false _).mp hbusy)
      omega
  | succ fuel ih =>
      by_cases hbusy : isBusy c = true
      · obtain ⟨time, event, hnext, hlater, hlt⟩ := hstep c hP hbusy
        simp only [runWhile, hbusy, if_true, hnext]
        exact ih hlater (by omega)
      · simp only [runWhile, hbusy]
        exact ⟨hP, (Bool.not_eq_true _).mp hbusy⟩

/-! ## Cohorts that end -/

/-- No agent is launched any more, and every agent was told to end. -/
structure IsEnding (c : Cohort) : Prop where
  quiet : c.launchDue? = none
  cancelled : ∀ member ∈ c.members, member.agent.isCancelled = true

/-- What is left to do until all agents have ended. -/
def remaining (c : Cohort) : Nat :=
  (c.members.map fun member => member.agent.remaining).sum

/-- Whether something holds of every agent, as things stand. -/
def Each (Q : Agent → Instant → Prop) (c : Cohort) : Prop :=
  ∀ member ∈ c.members, Q member.agent c.site.now

/-- What keeps holding of an agent that was told to end, as long as nothing that is due has to
wait. -/
structure IsLasting (Q : Agent → Instant → Prop) : Prop where
  wait : ∀ {a now instant}, Q a now → a.isCancelled = true →
    (∀ actor due, a.due? actor = some due → instant ≤ max due now) → Q a (max now instant)
  act : ∀ {a actor due} {site : Site}, Q a site.now → a.isCancelled = true →
    a.due? actor = some due → due ≤ site.now → Q (a.act actor site).1 site.now

theorem sum_set_lt {counts : List Nat} {position before after : Nat}
    (hbefore : counts[position]? = some before) (hlt : after < before) :
    (counts.set position after).sum < counts.sum := by
  induction counts generalizing position with
  | nil => exact nomatch hbefore
  | cons count counts ih =>
      cases position with
      | zero =>
          obtain rfl : count = before := Option.some.inj hbefore
          show after + counts.sum < count + counts.sum
          omega
      | succ position =>
          have hrest := ih hbefore
          show count + (counts.set position after).sum < count + counts.sum
          omega

/-- What an event of a cohort that ends comes to. -/
theorem IsEnding.exists_turn (h : c.IsEnding) (hnext : c.nextEvent? = some (time, event)) :
    ∃ position member actor due, c.members[position]? = some member ∧
      member.agent.due? actor = some due ∧ time = max due c.site.now ∧
      c.performAt time event =
        { c with
          site := (member.agent.act actor (c.site.advanceTo time)).2
          members := c.members.set position
            { member with agent := (member.agent.act actor (c.site.advanceTo time)).1 } } := by
  obtain ⟨⟨due, hdue, htime⟩, -⟩ := nextEvent?_eq_some hnext
  cases event with
  | launch => exact absurd hdue (by simp [due?, h.quiet])
  | agent position actor =>
      obtain ⟨member, hmember, hdue⟩ := Option.bind_eq_some_iff.1 hdue
      refine ⟨position, member, actor, due, hmember, hdue, htime, ?_⟩
      have hadvanced : (c.advanceTo time).members[position]? = some member := hmember
      simp only [performAt, perform, hadvanced]
      rw [setAgent_eq hadvanced]
      rfl

/-- An event of a cohort that ends leaves less to do. -/
theorem IsEnding.performAt (h : c.IsEnding) (hnext : c.nextEvent? = some (time, event)) :
    (c.performAt time event).IsEnding ∧
      (c.performAt time event).members.map Member.index = c.members.map Member.index ∧
      (c.performAt time event).remaining < c.remaining := by
  obtain ⟨position, member, actor, due, hmember, hdue, -, hperform⟩ := h.exists_turn hnext
  have hcancelled := h.cancelled member (List.mem_of_getElem? hmember)
  have hless : (member.agent.act actor (c.site.advanceTo time)).1.remaining <
      member.agent.remaining := Agent.act_remaining_lt hcancelled hdue
  rw [hperform]
  refine ⟨⟨h.quiet, fun other hother => ?_⟩, ?_, ?_⟩
  · rcases List.mem_or_eq_of_mem_set hother with hkept | rfl
    · exact h.cancelled other hkept
    · exact Agent.isCancelled_act hcancelled actor _
  · exact map_set_of_eq hmember rfl
  · rw [remaining, remaining, List.map_set]
    refine sum_set_lt ?_ hless
    rw [List.getElem?_map, hmember]
    rfl

/-- What lasts goes through an event of a cohort that ends, because nothing is due earlier. -/
theorem Each.performAt {Q : Agent → Instant → Prop} (hQ : c.Each Q) (hlasting : IsLasting Q)
    (h : c.IsEnding) (hnext : c.nextEvent? = some (time, event)) :
    (c.performAt time event).Each Q := by
  obtain ⟨position, member, actor, due, hmember, hdue, htime, hperform⟩ := h.exists_turn hnext
  obtain ⟨-, hfirst⟩ := nextEvent?_eq_some hnext
  have hadvanced : ∀ other ∈ c.members, Q other.agent (max c.site.now time) := by
    intro other hother
    obtain ⟨place, hplace⟩ := List.mem_iff_getElem?.1 hother
    refine hlasting.wait (hQ other hother) (h.cancelled other hother) fun actor due hdue => ?_
    exact hfirst (.agent place actor) due (by simp [due?, hplace, hdue])
  have hmem := List.mem_of_getElem? hmember
  have hacted : Q (member.agent.act actor (c.site.advanceTo time)).1 (max c.site.now time) := by
    refine hlasting.act (hadvanced member hmem) (h.cancelled member hmem) hdue ?_
    show due ≤ max c.site.now time
    lia
  have hnow : (member.agent.act actor (c.site.advanceTo time)).2.now = max c.site.now time :=
    member.agent.act_now (c.site.advanceTo time) actor
  rw [hperform]
  intro other hother
  show Q other.agent (member.agent.act actor (c.site.advanceTo time)).2.now
  rw [hnow]
  rcases List.mem_or_eq_of_mem_set hother with hkept | rfl
  · exact hadvanced other hkept
  · exact hacted

/-! ## Stop calls that end -/

theorem exists_awaited (h : c.isStopping = true) :
    ∃ position actor due, c.due? (.agent position actor) = some due := by
  obtain ⟨member, hmember, hawaited⟩ := List.any_eq_true.1 h
  obtain ⟨position, hposition⟩ := List.mem_iff_getElem?.1 hmember
  unfold isAwaited at hawaited
  split at hawaited
  · rename_i deadline hhandle
    exact ⟨position, .stopper, _, by simp [due?, hposition, Agent.due?, hhandle]; rfl⟩
  · cases hawaited

theorem le_fuelFor (c : Cohort) (time : Duration) :
    128 * (c.members.length + 1) ≤ c.fuelFor time := by
  generalize hpending : (c.launcher.elim 0 fun launcher => launcher.pending.length) = pending
  calc 128 * (c.members.length + 1)
      ≤ 128 * (c.members.length + pending + 1) := by omega
    _ ≤ 64 * (time + 2) * (c.members.length + pending + 1) :=
        Nat.mul_le_mul_right _ (by lia)
    _ ≤ 64 * (time + 2) * (c.members.length + pending + 1) * (c.site.plane.faults.length + 1) :=
        Nat.le_mul_of_pos_right _ (Nat.succ_pos _)
    _ = c.fuelFor time := by rw [fuelFor, hpending]

theorem remaining_le_fuelFor (c : Cohort) (time : Duration) : c.remaining ≤ c.fuelFor time := by
  have hremaining : c.remaining ≤ c.members.length * 7 := by
    have hle := List.sum_le_card_nsmul (c.members.map fun member => member.agent.remaining) 7 (by
      intro count hcount
      obtain ⟨member, -, rfl⟩ := List.mem_map.1 hcount
      exact member.agent.remaining_le)
    rw [List.length_map, Nat.nsmul_eq_mul] at hle
    exact hle
  have hfuel := c.le_fuelFor time
  omega

/-- In a cohort that ends, all stop calls that wait come to their end. -/
theorem awaitStops_ends {Q : Agent → Instant → Prop} (h : c.IsEnding) (hlasting : IsLasting Q)
    (hQ : c.Each Q) :
    (c.awaitStops.IsEnding ∧ c.awaitStops.Each Q ∧
      c.awaitStops.members.map Member.index = c.members.map Member.index) ∧
      c.awaitStops.isStopping = false := by
  refine runWhile_ends (fun d => d.IsEnding ∧ d.Each Q ∧
    d.members.map Member.index = c.members.map Member.index) remaining ?_
    ⟨h, hQ, rfl⟩ (c.remaining_le_fuelFor _)
  rintro d ⟨hending, heach, hindexes⟩ hstopping
  obtain ⟨position, actor, due, hdue⟩ := exists_awaited hstopping
  obtain ⟨time, event, hnext⟩ := exists_nextEvent? hdue
  obtain ⟨hlater, hkept, hless⟩ := hending.performAt hnext
  exact ⟨time, event, hnext, ⟨hlater, heach.performAt hlasting hending hnext,
    hkept.trans hindexes⟩, hless⟩

/-! ## The end of the launch -/

theorem foldl_earlier_of_le {first : Instant × Event} {rest : List (Instant × Event)}
    (h : ∀ entry ∈ rest, first.1 ≤ entry.1) : rest.foldl earlier first = first := by
  induction rest with
  | nil => rfl
  | cons next rest ih =>
      obtain ⟨hnext, hrest⟩ := List.forall_mem_cons.1 h
      have hkept : earlier first next = first := if_neg (Nat.not_lt.2 hnext)
      rw [List.foldl_cons, hkept]
      exact ih hrest

/-- A launcher that is due at once comes before everything else. -/
theorem nextEvent?_of_launchDue (hdue : c.launchDue? = some 0) :
    c.nextEvent? = some (c.site.now, .launch) := by
  have hnow : max 0 c.site.now = c.site.now := Nat.zero_max _
  have hevents : c.events = (c.site.now, .launch) ::
      c.members.zipIdx.flatMap fun entry => eventsOf c.site.now entry.1 entry.2 := by
    rw [events, hdue, Option.toList_some, List.map_singleton, hnow]
    rfl
  have hlate : ∀ entry ∈ c.events, c.site.now ≤ entry.1 := by
    rintro ⟨time, event⟩ hentry
    obtain ⟨due, -, rfl⟩ := mem_events.1 hentry
    exact Nat.le_max_right due c.site.now
  rw [nextEvent?, hevents]
  rw [hevents] at hlate
  exact congrArg some (foldl_earlier_of_le (List.forall_mem_cons.1 hlate).2)

/-- To wait for a launcher that may not launch takes one step of it at most. -/
theorem endLaunch_eq (hcancelled : c.launchCancelled = true) :
    c.endLaunch = (if c.isLaunching then c.perform .launch else c) ∧
      c.endLaunch.isLaunching = false ∧ (c.isLaunching = true → c.launchDue? = some 0) := by
  have hsame : { c with launchCancelled := true } = c := by rw [← hcancelled]
  obtain ⟨fuel, hfuel⟩ : ∃ fuel, c.fuelFor 0 = fuel + 1 :=
    Nat.exists_eq_add_one.2 (Nat.lt_of_lt_of_le (Nat.succ_pos _) (c.le_fuelFor 0))
  have hrun : c.endLaunch = runWhile isLaunching (fuel + 1) c := by
    rw [endLaunch, hsame, hfuel]
  rw [hrun]
  cases hlaunching : c.isLaunching with
  | false =>
      have hidle : runWhile isLaunching (fuel + 1) c = c := by
        simp only [runWhile, hlaunching, Bool.false_eq_true, if_false]
      rw [hidle]
      exact ⟨rfl, hlaunching, nofun⟩
  | true =>
      obtain ⟨launcher, hlauncher, hbusy⟩ : ∃ launcher, c.launcher = some launcher ∧
          launcher.isDone = false := by
        unfold isLaunching at hlaunching
        cases hlauncher : c.launcher with
        | none => simp [hlauncher] at hlaunching
        | some launcher => exact ⟨launcher, rfl, by simpa [hlauncher] using hlaunching⟩
      have hdue : c.launchDue? = some 0 := by
        unfold launchDue?
        simp only [hlauncher, hbusy, Bool.false_eq_true, if_false, hcancelled, if_true]
        split <;> rfl
      have hended : (c.perform .launch).isLaunching = false := by
        simp only [perform, hlauncher, actLauncher, hcancelled, if_true]
        split <;> rfl
      have hstill : c.performAt c.site.now .launch = c.perform .launch := by
        rw [performAt, advanceTo, Site.advanceTo, Nat.max_self]
      have hstop : runWhile isLaunching fuel (c.perform .launch) = c.perform .launch := by
        cases fuel with
        | zero => rfl
        | succ fuel => simp only [runWhile, hended, Bool.false_eq_true, if_false]
      have hone : runWhile isLaunching (fuel + 1) c = c.perform .launch := by
        simp only [runWhile, hlaunching, if_true, nextEvent?_of_launchDue hdue]
        rw [hstill, hstop]
      rw [hone]
      exact ⟨rfl, hended, fun _ => hdue⟩

end NodeFleet.Cohort
