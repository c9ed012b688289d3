import NodeFleet.Proofs.Agent.Waiting
import NodeFleet.Proofs.Fleet.Turns
import NodeFleet.Proofs.Launch.Report

/-!
# What shutdowns report

A shutdown reports what its own stop calls have returned, one for each agent.  Its calls are made
after everything that was there when it was called (`Since`), so what was for good then is in its
report: who had stopped by an earlier report is among those that have stopped (`stopped_subset`),
and two reports differ in nothing but agents that have stopped between them (`Covers.eq_iff`).

An agent that a report has as failed was given up, or the shutdown's own call to it did not find
the task because another call waited for it.
-/

namespace NodeFleet

/-- Whether a report has each of the agents once, and its lists are in order. -/
structure ShutdownReport.Covers (r : ShutdownReport) (names : List String) : Prop where
  stopped_sorted : r.stopped.Pairwise (· ≤ ·)
  failed_sorted : r.failed.Pairwise (· ≤ ·)
  perm : (r.stopped ++ r.failed).Perm names
  nodup : (r.stopped ++ r.failed).Nodup

section Covers

variable {r s : ShutdownReport} {names : List String} {name : String}

theorem ShutdownReport.Covers.not_mem_failed (h : r.Covers names) (hstopped : name ∈ r.stopped) :
    name ∉ r.failed :=
  fun hfailed => (List.nodup_append.1 h.nodup).2.2 name hstopped name hfailed rfl

theorem ShutdownReport.Covers.mem_failed_iff (h : r.Covers names) :
    name ∈ r.failed ↔ name ∈ names ∧ name ∉ r.stopped := by
  rw [← h.perm.mem_iff, List.mem_append]
  constructor
  · exact fun hfailed => ⟨.inr hfailed, fun hstopped => h.not_mem_failed hstopped hfailed⟩
  · exact fun ⟨hor, hnot⟩ => hor.resolve_left hnot

/-- Reports on the same agents, the later of which has all that have stopped by the earlier, differ
only in agents that have stopped between them. -/
theorem ShutdownReport.Covers.eq_iff (h : r.Covers names) (hlater : s.Covers names)
    (hsubset : r.stopped ⊆ s.stopped) : s = r ↔ ∀ name ∈ r.failed, name ∉ s.stopped := by
  constructor
  · rintro rfl name hfailed hstopped
    exact h.not_mem_failed hstopped hfailed
  · intro hnone
    have hsame (name : String) : name ∈ s.stopped ↔ name ∈ r.stopped := by
      refine ⟨fun hmem => ?_, fun hmem => hsubset hmem⟩
      have hname : name ∈ names := hlater.perm.mem_iff.1 (List.mem_append_left _ hmem)
      by_contra hnot
      exact hnone name (h.mem_failed_iff.2 ⟨hname, hnot⟩) hmem
    have hrest (name : String) : name ∈ s.failed ↔ name ∈ r.failed := by
      rw [h.mem_failed_iff, hlater.mem_failed_iff, hsame]
    obtain ⟨hstopped, hfailed, -⟩ := List.nodup_append.1 h.nodup
    obtain ⟨hstopped', hfailed', -⟩ := List.nodup_append.1 hlater.nodup
    have hfirst : s.stopped = r.stopped :=
      ((List.perm_ext_iff_of_nodup hstopped' hstopped).2 hsame).eq_of_pairwise
        (fun _ _ _ _ => le_antisymm) hlater.stopped_sorted h.stopped_sorted
    have hsecond : s.failed = r.failed :=
      ((List.perm_ext_iff_of_nodup hfailed' hfailed).2 hrest).eq_of_pairwise
        (fun _ _ _ _ => le_antisymm) hlater.failed_sorted h.failed_sorted
    cases r
    cases s
    exact congrArg₂ ShutdownReport.mk hfirst hsecond

end Covers

namespace Fleet

open Agent (StopOutcome)

namespace Attended

variable {x y z : Attended}

/-! ## Shutdowns that are called after a time -/

/-- What the stop call at a position and of a number has returned. -/
def outcomeAt (x : Attended) (entry : Nat × Nat) : Option StopOutcome :=
  match (x.calls entry.1)[entry.2]? with
  | some (.returned _ _ outcome) => some outcome
  | _ => none

theorem outcomeAt_eq_some_iff {entry : Nat × Nat} {outcome : StopOutcome} :
    x.outcomeAt entry = some outcome ↔
      ∃ since time, (x.calls entry.1)[entry.2]? = some (.returned since time outcome) := by
  unfold outcomeAt
  constructor
  · intro h
    split at h
    · obtain rfl := Option.some.inj h
      exact ⟨_, _, ‹_›⟩
    · exact nomatch h
  · rintro ⟨since, time, hcall⟩
    rw [hcall]

theorem outcomes?_eq_some_iff {own : List (Nat × Nat)} {outcomes : List StopOutcome} :
    x.outcomes? own = some outcomes ↔ own.map x.outcomeAt = outcomes.map some :=
  mapM_eq_some_iff (g := x.outcomeAt)

/-- The stop calls that a shutdown makes now. -/
def newCalls (x : Attended) : List (Nat × Nat) :=
  (List.range x.members.length).map fun position => (position, (x.calls position).length)

/-- Whether stop calls are those of a shutdown that was called after a time: one to each agent, and
none of them made by then. -/
def IsOwn (x y : Attended) (own : List (Nat × Nat)) : Prop :=
  own.map Prod.fst = List.range y.members.length ∧
    ∀ entry ∈ own, (x.calls entry.1).length ≤ entry.2

/-- Whether a report is on certain stop calls. -/
def Reports (y : Attended) (own : List (Nat × Nat)) (report : ShutdownReport) : Prop :=
  ∃ outcomes, y.outcomes? own = some outcomes ∧ report = .ofOutcomes y.names outcomes

/-- What holds of a shutdown that was called after a time and has come to a stage. -/
def HasCome (x y : Attended) : ShutdownStage → Prop
  | .stopping own => x.IsOwn y own
  | .reported report => ∃ own, x.IsOwn y own ∧ y.Reports own report
  | _ => True

theorem IsOwn.follows {own : List (Nat × Nat)} (h : x.IsOwn y own) (hfollows : y.Follows z)
    (hcancelled : y.fleet.cohort.launchCancelled = true) : x.IsOwn z own :=
  ⟨(hfollows.cancelled hcancelled).2 ▸ h.1, h.2⟩

/-- A report goes on being one on what its calls have returned. -/
theorem Reports.follows {own : List (Nat × Nat)} {report : ShutdownReport}
    (h : y.Reports own report) (hown : x.IsOwn y own) (hfollows : y.Follows z)
    (hcancelled : y.fleet.cohort.launchCancelled = true) : z.Reports own report := by
  obtain ⟨outcomes, houtcomes, rfl⟩ := h
  rw [outcomes?_eq_some_iff] at houtcomes
  refine ⟨outcomes, outcomes?_eq_some_iff.2 ?_, by rw [hfollows.names_eq hcancelled]⟩
  rw [← houtcomes]
  refine List.map_congr_left fun entry hentry => ?_
  obtain ⟨outcome, -, heq⟩ : ∃ outcome ∈ outcomes, some outcome = y.outcomeAt entry :=
    List.mem_map.1 (houtcomes ▸ List.mem_map_of_mem hentry)
  obtain ⟨since, time, hcall⟩ := outcomeAt_eq_some_iff.1 heq.symm
  have hposition : entry.1 < y.members.length :=
    List.mem_range.1 (hown.1 ▸ List.mem_map_of_mem hentry)
  obtain ⟨later, -, hlasts⟩ := hfollows.lasts entry.1 _ (List.getElem?_eq_getElem hposition)
  rw [← heq, outcomeAt_eq_some_iff]
  exact ⟨since, time, hlasts.returned entry.2 since time outcome hcall⟩

theorem HasCome.follows {stage : ShutdownStage} (h : x.HasCome y stage) (hfollows : y.Follows z)
    (hcancelled : stage ≠ .called → y.fleet.cohort.launchCancelled = true) :
    x.HasCome z stage := by
  cases stage with
  | stopping own => exact IsOwn.follows h hfollows (hcancelled nofun)
  | reported report =>
      obtain ⟨own, hown, hreports⟩ := h
      exact ⟨own, hown.follows hfollows (hcancelled nofun),
        hreports.follows hown hfollows (hcancelled nofun)⟩
  | _ => trivial

/-- What one time leaves to a later one, of the shutdowns too. -/
structure Since (x y : Attended) : Prop where
  follows : x.Follows y
  cleared : x.isCleared = true → y.isCleared = true
  shutdowns_le : x.shutdowns.length ≤ y.shutdowns.length
  reported : ∀ (i : Nat) report, x.shutdowns[i]? = some (.reported report) →
    y.shutdowns[i]? = some (.reported report)
  hasCome : ∀ (i : Nat) stage, x.shutdowns.length ≤ i → y.shutdowns[i]? = some stage →
    x.HasCome y stage

theorem Since.refl (x : Attended) : x.Since x where
  follows := .refl x
  cleared := id
  shutdowns_le := Nat.le_refl _
  reported := fun _ _ hstage => hstage
  hasCome := by
    intro i stage hle hstage
    exact absurd (List.getElem?_eq_some_iff.1 hstage).1 (Nat.not_lt_of_le hle)

section Steps

variable {event : Event} {caller : Nat} {before next : ShutdownStage}

theorem Since.hasCome_happen (h : x.Since y) (hy : y.Kept) (event : Event) {i : Nat}
    {stage : ShutdownStage} (hle : x.shutdowns.length ≤ i) (hstage : y.shutdowns[i]? = some stage) :
    x.HasCome (y.happen event) stage :=
  (h.hasCome i stage hle hstage).follows (hy.follows_happen event)
    (hy.inOrder.cancelled_at hstage)

/-- An event that leaves the shutdowns as they are. -/
theorem Since.keep (h : x.Since y) (hy : y.Kept)
    (hshutdowns : (y.happen event).shutdowns = y.shutdowns) : x.Since (y.happen event) where
  follows := h.follows.trans (hy.follows_happen event)
  cleared := by
    intro hcleared
    rw [isCleared_happen, h.cleared hcleared, Bool.true_or]
  shutdowns_le := hshutdowns ▸ h.shutdowns_le
  reported := fun i report hreported => hshutdowns ▸ h.reported i report hreported
  hasCome := by
    intro i stage hle hstage
    rw [hshutdowns] at hstage
    exact h.hasCome_happen hy event hle hstage

/-- A shutdown that had not reported comes to another stage. -/
theorem Since.comeTo (h : x.Since y) (hy : y.Kept) (hbefore : y.shutdowns[caller]? = some before)
    (hne : ∀ report, before ≠ .reported report)
    (hshutdowns : (y.happen event).shutdowns = y.shutdowns.set caller next)
    (hnext : x.shutdowns.length ≤ caller → x.HasCome (y.happen event) next) :
    x.Since (y.happen event) where
  follows := h.follows.trans (hy.follows_happen event)
  cleared := by
    intro hcleared
    rw [isCleared_happen, h.cleared hcleared, Bool.true_or]
  shutdowns_le := by
    rw [hshutdowns, List.length_set]
    exact h.shutdowns_le
  reported := by
    intro i report hreported
    have hkept := h.reported i report hreported
    have hother : caller ≠ i := by
      rintro rfl
      exact hne report (Option.some.inj (hbefore.symm.trans hkept))
    rw [hshutdowns, List.getElem?_set_ne hother]
    exact hkept
  hasCome := by
    intro i stage hle hstage
    rw [hshutdowns, List.getElem?_set] at hstage
    split_ifs at hstage with hsame hlt
    · obtain rfl := Option.some.inj hstage
      exact hnext (hsame ▸ hle)
    · exact h.hasCome_happen hy event hle hstage

/-- The stop calls of a shutdown come after all that were made before. -/
theorem Follows.isOwn (h : x.Follows y) : x.IsOwn y y.newCalls := by
  refine ⟨?_, fun entry hentry => ?_⟩
  · rw [newCalls, List.map_map]
    exact List.map_id _
  · obtain ⟨position, -, rfl⟩ := List.mem_map.1 hentry
    exact h.length_le position

theorem Since.advance (h : x.Since y) (hy : y.Kept) (caller : Nat) :
    x.Since (y.happen (.advance caller)) := by
  cases hstage : y.shutdowns[caller]? with
  | none =>
      refine h.keep hy ?_
      simp only [Attended.happen, Attended.advance, hstage]
  | some stage =>
      cases stage with
      | called =>
          have hset : (y.happen (.advance caller)).shutdowns =
              y.shutdowns.set caller .cancelled := by
            simp only [Attended.happen, Attended.advance, hstage]
          exact h.comeTo hy hstage (by simp) hset fun _ => trivial
      | cancelled =>
          by_cases hbusy : (y.fleet.holdsLauncher && y.fleet.cohort.isLaunching) = true
          · refine h.keep hy ?_
            simp only [Attended.happen, Attended.advance, hstage, hbusy, if_true]
          · have hset : (y.happen (.advance caller)).shutdowns =
                y.shutdowns.set caller .released := by
              simp only [Attended.happen, Attended.advance, hstage, hbusy, if_false,
                Bool.false_eq_true]
            exact h.comeTo hy hstage (by simp) hset fun _ => trivial
      | released =>
          have hset : (y.happen (.advance caller)).shutdowns =
              y.shutdowns.set caller .cleared := by
            simp only [Attended.happen, Attended.advance, hstage]
          exact h.comeTo hy hstage (by simp) hset fun _ => trivial
      | cleared =>
          have hcome : x.HasCome y (.stopping y.newCalls) := h.follows.isOwn
          refine h.comeTo hy hstage (by simp) ?_ fun _ => hcome.follows (hy.follows_happen _)
            fun _ => hy.inOrder.cancelled_at hstage (by simp)
          simp only [Attended.happen, Attended.advance, hstage]
          rfl
      | stopping own =>
          cases houtcomes : y.outcomes? own with
          | none =>
              refine h.keep hy ?_
              simp only [Attended.happen, Attended.advance, hstage, houtcomes]
          | some outcomes =>
              have hcome (hle : x.shutdowns.length ≤ caller) :
                  x.HasCome y (.reported (.ofOutcomes y.names outcomes)) :=
                ⟨own, h.hasCome caller _ hle hstage, outcomes, houtcomes, rfl⟩
              refine h.comeTo hy hstage (by simp) ?_ fun hle => (hcome hle).follows
                (hy.follows_happen _) fun _ => hy.inOrder.cancelled_at hstage (by simp)
              simp only [Attended.happen, Attended.advance, hstage, houtcomes]
              rfl
      | reported report =>
          refine h.keep hy ?_
          simp only [Attended.happen, Attended.advance, hstage]

theorem Since.happen (h : x.Since y) (hy : y.Kept) (event : Event) : x.Since (y.happen event) := by
  cases event with
  | other m => exact h.keep hy rfl
  | stop position =>
      refine h.keep hy ?_
      simp only [Attended.happen]
      split_ifs <;> rfl
  | proceed position caller =>
      refine h.keep hy ?_
      simp only [Attended.happen]
      split <;> rfl
  | advance caller => exact h.advance hy caller
  | shutdown =>
      have hget {i : Nat} {stage : ShutdownStage} (hstage : y.shutdowns[i]? = some stage) :
          (y.shutdowns ++ [.called])[i]? = some stage :=
        List.getElem?_append_left (List.getElem?_eq_some_iff.1 hstage).1 ▸ hstage
      refine ⟨h.follows.trans (hy.follows_happen _), fun hcleared => ?_, ?_,
        fun i report hreported => hget (h.reported i report hreported),
        fun i stage hle hstage => ?_⟩
      · rw [isCleared_happen, h.cleared hcleared, Bool.true_or]
      · exact h.shutdowns_le.trans (by simp [Attended.happen])
      · have hstage : (y.shutdowns ++ [.called])[i]? = some stage := hstage
        rw [List.getElem?_append, List.getElem?_singleton] at hstage
        split_ifs at hstage with hlt hlast
        · exact h.hasCome_happen hy .shutdown hle hstage
        · obtain rfl := Option.some.inj hstage
          trivial

end Steps

theorem Kept.since_run (h : x.Kept) (events : List Event) :
    x.Since (events.foldl Attended.happen x) := by
  induction events using List.reverseRecOn with
  | nil => exact .refl x
  | append_singleton events event ih =>
      rw [List.foldl_append]
      exact ih.happen (h.run events) event

end Attended

namespace Attended

variable {x y : Attended} {report other : ShutdownReport}

/-! ## What a report says -/

/-- Whether every agent that a report has as failed was given up. -/
def Settles (x : Attended) (report : ShutdownReport) : Prop :=
  ∀ member ∈ x.members, member.agent.name ∈ report.failed → member.agent.stage = .aborted

section Outcomes

variable {own : List (Nat × Nat)} {outcomes : List StopOutcome}
  (hpositions : own.map Prod.fst = List.range y.members.length)
  (houtcomes : y.outcomes? own = some outcomes)

include hpositions houtcomes

/-- Each outcome is what one of the calls has returned. -/
theorem exists_returned {position : Nat} {member : Member}
    (hmember : y.members[position]? = some member) :
    ∃ caller since time outcome, (position, caller) ∈ own ∧ outcomes[position]? = some outcome ∧
      (y.calls position)[caller]? = some (.returned since time outcome) := by
  rw [outcomes?_eq_some_iff] at houtcomes
  have hlt := (List.getElem?_eq_some_iff.1 hmember).1
  have hentry : (own.map Prod.fst)[position]? = some position := by
    rw [hpositions, List.getElem?_range hlt]
  rw [List.getElem?_map, Option.map_eq_some_iff] at hentry
  obtain ⟨⟨place, caller⟩, hfound, rfl⟩ := hentry
  have houtcome := congrArg (fun values => values[place]?) houtcomes
  simp only [List.getElem?_map, hfound, Option.map_some] at houtcome
  obtain ⟨outcome, hoption, heq⟩ := Option.map_eq_some_iff.1 houtcome.symm
  obtain ⟨since, time, hcall⟩ := outcomeAt_eq_some_iff.1 heq.symm
  exact ⟨caller, since, time, outcome, List.mem_of_getElem? hfound, hoption, hcall⟩

theorem Kept.names_outcomes (h : y.Kept) : outcomes.map StopOutcome.name = y.names := by
  have hlength : outcomes.length = y.members.length := by
    have hown := congrArg List.length hpositions
    have hall := congrArg List.length (outcomes?_eq_some_iff.1 houtcomes)
    simp only [List.length_map, List.length_range] at hown hall
    exact hall.symm.trans hown
  refine List.ext_getElem? fun position => ?_
  simp only [names, List.getElem?_map]
  cases hmember : y.members[position]? with
  | none =>
      have hbeyond := List.getElem?_eq_none_iff.1 hmember
      rw [← hlength] at hbeyond
      rw [List.getElem?_eq_none_iff.2 hbeyond]
      rfl
  | some member =>
      obtain ⟨caller, since, time, outcome, -, houtcome, hcall⟩ :=
        exists_returned hpositions houtcomes hmember
      obtain ⟨htold, -⟩ := (h.agents position member hmember).said since time outcome
        (List.mem_of_getElem? hcall)
      rw [houtcome]
      exact congrArg some htold.name_eq

/-- The outcome of an agent tells on which list it is. -/
theorem Kept.listed_of_outcome (h : y.Kept) {outcome : StopOutcome} (hmem : outcome ∈ outcomes) :
    (outcome.name ∈ (ShutdownReport.ofOutcomes y.names outcomes).stopped ↔ outcome.clean = true) ∧
      (outcome.name ∈ (ShutdownReport.ofOutcomes y.names outcomes).failed ↔
        outcome.clean = false) := by
  have hnodup : (outcomes.map StopOutcome.name).Nodup := by
    rw [h.names_outcomes hpositions houtcomes]
    exact h.inOrder.launches.names_nodup
  exact ShutdownReport.mem_of_outcome hnodup hmem

end Outcomes

/-- A report has an outcome for each agent, which one of its calls returned. -/
theorem HasCome.exists_outcomes (hcome : x.HasCome y (.reported report)) :
    ∃ (own : List (Nat × Nat)) (outcomes : List StopOutcome),
      own.map Prod.fst = List.range y.members.length ∧ y.outcomes? own = some outcomes ∧
      report = .ofOutcomes y.names outcomes ∧
      ∀ position member, y.members[position]? = some member →
        ∃ caller since time outcome, outcomes[position]? = some outcome ∧
          (x.calls position).length ≤ caller ∧
          (y.calls position)[caller]? = some (.returned since time outcome) := by
  obtain ⟨own, ⟨hpositions, hlater⟩, outcomes, houtcomes, rfl⟩ := hcome
  refine ⟨own, outcomes, hpositions, houtcomes, rfl, fun position member hmember => ?_⟩
  obtain ⟨caller, since, time, outcome, hentry, houtcome, hcall⟩ :=
    exists_returned hpositions houtcomes hmember
  exact ⟨caller, since, time, outcome, houtcome, hlater _ hentry, hcall⟩

/-- A report has each agent once. -/
theorem Kept.covers (h : y.Kept) (hcome : x.HasCome y (.reported report)) :
    report.Covers y.names := by
  obtain ⟨own, outcomes, hpositions, houtcomes, rfl, -⟩ := hcome.exists_outcomes
  have hnames := h.names_outcomes hpositions houtcomes
  have hnodup : (outcomes.map StopOutcome.name).Nodup := hnames ▸ h.inOrder.launches.names_nodup
  obtain ⟨hstopped, hfailed, hperm, hdistinct, -⟩ := ShutdownReport.ofOutcomes_complete hnodup
  rw [hnames] at hstopped hfailed hperm hdistinct
  exact ⟨hstopped, hfailed, hperm, hdistinct⟩

/-- The list that an agent is on tells what one of its stop calls has returned. -/
theorem Kept.listed (h : y.Kept) (hcome : x.HasCome y (.reported report)) {position : Nat}
    {member : Member} (hmember : y.members[position]? = some member) :
    ∃ since time outcome, .returned since time outcome ∈ y.calls position ∧
      (member.agent.name ∈ report.stopped ↔ outcome.clean = true) ∧
      (member.agent.name ∈ report.failed ↔ outcome.clean = false) := by
  obtain ⟨own, outcomes, hpositions, houtcomes, rfl, hreturned⟩ := hcome.exists_outcomes
  obtain ⟨caller, since, time, outcome, houtcome, -, hcall⟩ := hreturned position member hmember
  have hmem := List.mem_of_getElem? hcall
  obtain ⟨htold, -⟩ := (h.agents position member hmember).said since time outcome hmem
  have hlisted := h.listed_of_outcome hpositions houtcomes (List.mem_of_getElem? houtcome)
  rw [htold.name_eq] at hlisted
  exact ⟨since, time, outcome, hmem, hlisted⟩

section Later

variable {w : Attended} (hx : x.Kept) (hfirst : w.HasCome x (.reported report))
  (hcancelled : x.fleet.cohort.launchCancelled = true) (hy : y.Kept) (hfollows : x.Follows y)

include hfollows hcancelled in
theorem Follows.exists_earlier {position : Nat} {later : Member}
    (hlater : y.members[position]? = some later) :
    ∃ member, x.members[position]? = some member ∧
      (x.tended position member).Lasts (y.tended position later) := by
  have hlt := (List.getElem?_eq_some_iff.1 hlater).1
  rw [(hfollows.cancelled hcancelled).2] at hlt
  obtain ⟨other, hother, hlasts⟩ := hfollows.lasts position _ (List.getElem?_eq_getElem hlt)
  obtain rfl := Option.some.inj (hother.symm.trans hlater)
  exact ⟨_, List.getElem?_eq_getElem hlt, hlasts⟩

include hx hfirst hcancelled hy hfollows in
/-- Once a shutdown has reported, the stop calls that are made then change nothing in the fleet. -/
theorem Follows.happen_proceed {position caller : Nat}
    (hlate : (x.calls position).length ≤ caller) :
    (y.happen (.proceed position caller)).fleet = y.fleet := by
  cases hlater : y.members[position]? with
  | none =>
      have hnone : y.fleet.cohort.members[position]? = none := hlater
      simp only [Attended.happen, hnone]
  | some later =>
      have hfound : y.fleet.cohort.members[position]? = some later := hlater
      obtain ⟨member, hmember, hlasts⟩ := hfollows.exists_earlier hcancelled hlater
      obtain ⟨since, time, outcome, hmem, -⟩ := hx.listed hfirst hmember
      -- The shutdown's own call has looked for the task, so it is taken.
      have htaken := (hx.agents position member hmember).looked _ hmem rfl
      obtain ⟨hheld, hwaiting⟩ := hlasts.taken htaken
      have hcaller (start : Instant) : (y.calls position)[caller]? ≠ some (.waiting start) := by
        intro hcall
        have hearlier := hwaiting caller start hcall
        exact absurd (List.getElem?_eq_some_iff.1 hearlier).1 (Nat.not_lt_of_le hlate)
      obtain ⟨hagent, hsite⟩ := (hy.agents position later hlater).proceed_of_taken hheld hcaller
      simp only [tended] at hagent hsite
      simp only [Attended.happen, hfound, hagent, hsite]
      exact setAgent_self hlater

include hx hfirst hfollows in
/-- In a report on stop calls that were made after another report, who had stopped has stopped. -/
theorem Follows.stopped_subset (hcome : x.HasCome y (.reported other)) :
    report.stopped ⊆ other.stopped := by
  obtain ⟨own, outcomes, hpositions, houtcomes, rfl, hreturned⟩ := hfirst.exists_outcomes
  obtain ⟨own', others, hpositions', houtcomes', rfl, hcame⟩ := hcome.exists_outcomes
  intro name hname
  obtain ⟨outcome, hmem, rfl, hclean⟩ := ShutdownReport.mem_stopped.1 hname
  obtain ⟨position, hfound⟩ := List.mem_iff_getElem?.1 hmem
  obtain ⟨member, hmember⟩ : ∃ member, x.members[position]? = some member := by
    have hlt := (List.getElem?_eq_some_iff.1 hfound).1
    have hall := congrArg List.length (hx.names_outcomes hpositions houtcomes)
    simp only [names, List.length_map] at hall
    exact ⟨_, List.getElem?_eq_getElem (hall ▸ hlt)⟩
  obtain ⟨caller, since, time, first, hoption, -, hcall⟩ := hreturned position member hmember
  obtain rfl := Option.some.inj (hoption.symm.trans hfound)
  obtain ⟨hdone, -, hanswer⟩ := (hx.agents position member hmember).of_clean
    (List.mem_of_getElem? hcall) hclean
  -- Who had stopped answers the later call as it answered the earlier one.
  obtain ⟨later, hlater, hlasts⟩ := hfollows.lasts position member hmember
  obtain ⟨caller', since', time', second, hsecond, hlate, hcall'⟩ := hcame position later hlater
  have hnew := (hlasts.answered caller' since' time' second hcall').resolve_left fun hold =>
    absurd (List.getElem?_eq_some_iff.1 hold).1 (Nat.not_lt_of_le hlate)
  have hsame : second = first := (hnew hdone).trans hanswer.symm
  exact ShutdownReport.mem_stopped.2
    ⟨second, List.mem_of_getElem? hsecond, congrArg StopOutcome.name hsame, hsame ▸ hclean⟩

end Later

end Attended

/-! ## Runs -/

theorem attend_since {config : FleetConfig} {site : Site} {f : Fleet}
    (hcreate : create config site = .ok f) (events later : List Attended.Event) :
    (f.attend events).Since (f.attend (events ++ later)) := by
  rw [attend_append]
  exact (attend_kept hcreate events).since_run later

theorem attend_hasCome {config : FleetConfig} {site : Site} {f : Fleet}
    (hcreate : create config site = .ok f) (events : List Attended.Event) {stage : ShutdownStage}
    (hmem : stage ∈ (f.attend events).shutdowns) :
    (f.attend []).HasCome (f.attend events) stage := by
  obtain ⟨i, hstage⟩ := List.mem_iff_getElem?.1 hmem
  exact (attend_since hcreate [] events).hasCome i stage (Nat.zero_le i) hstage

/-- When stop calls return, and what shutdowns make of it.

* However the stop calls to an agent overlap, a call returns what it sees, and it has waited as it
  should exactly if it is not overtaken.
* The same holds of all stop calls to the agents of a fleet, those of shutdowns among them.  An
  agent that a shutdown reports as failed was given up, or the shutdown's own call to it had not
  found the task and had returned before the agent stopped. -/
theorem stop_calls_wait_unless_overtaken (site : Site) :
    (∀ (setup : AgentSetup) (events : List Agent.Attended.Event),
      let x := Agent.attend setup site events
      ∀ caller time outcome, x.Returns caller time outcome →
        time = x.site.now ∧ outcome = x.agent.answer ∧ (x.HasWaited outcome ↔ ¬x.IsOvertaken)) ∧
    ∀ (config : FleetConfig) (f : Fleet), create config site = .ok f →
      ∀ events : List Attended.Event,
        let x := f.attend events
        ∀ position member, x.members[position]? = some member →
          (∀ caller time outcome, (x.tended position member).Returns caller time outcome →
            time = x.fleet.site.now ∧ outcome = member.agent.answer ∧
              ((x.tended position member).HasWaited outcome ↔
                ¬(x.tended position member).IsOvertaken)) ∧
          ∀ report, .reported report ∈ x.shutdowns → member.agent.name ∈ report.failed →
            member.agent.stage = .aborted ∨
              ∃ time, .returned none time ⟨member.agent.name, false, .terminating⟩ ∈
                x.calls position := by
  refine ⟨fun setup events => ?_, fun config f hcreate events => ?_⟩
  · intro x caller time outcome hreturns
    have hkept : x.Kept := Agent.attend_kept setup site events
    obtain ⟨htime, houtcome, -⟩ := hkept.returns hreturns
    exact ⟨htime, houtcome, hkept.hasWaited_iff hreturns⟩
  · intro x position member hmember
    have hx : x.Kept := attend_kept hcreate events
    have hkept := hx.agents position member hmember
    refine ⟨fun caller time outcome hreturns => ?_, fun report hreport hfailed => ?_⟩
    · obtain ⟨htime, houtcome, -⟩ := hkept.returns hreturns
      exact ⟨htime, houtcome, hkept.hasWaited_iff hreturns⟩
    · obtain ⟨since, time, outcome, hmem, -, hlisted⟩ :=
        hx.listed (attend_hasCome hcreate events hreport) hmember
      obtain ⟨rfl, hor⟩ := hkept.of_unclean hmem (hlisted.1 hfailed)
      refine hor.imp_right ?_
      rintro rfl
      exact ⟨time, hmem⟩

/-- Two stop calls overlap, and the second one is overtaken; two shutdowns overlap, and the second
one reports an agent as failed whose task its own call had not found. -/
theorem second_stop_call_is_overtaken :
    let profile : Profile := ⟨1000, 1000, 0, 0, 10, ⟨0, 24⟩⟩
    let setup : AgentSetup := ⟨"node", profile, 10, ⟨10, 60, 1⟩, ⟨3, 1, 8, 5⟩, 30⟩
    let steps : List Agent.Attended.Event :=
      [.other (.act .task) rfl, .other (.act .task) rfl,
        .call, .proceed 0, .proceed 0, .proceed 0, .call, .proceed 1, .proceed 1]
    let x := Agent.attend setup (.create (.empty 0) ⟨0, 0⟩) steps
    let early : StopOutcome := ⟨"node", false, .terminating⟩
    let config : FleetConfig := { fleetSize := 1 }
    let node := config.agentName 0
    let run : List Attended.Event := [.other (.start fun _ => 0), .other .launch]
    let events : List Attended.Event := run ++ [.shutdown, .advance 0, .advance 0, .advance 0,
      .advance 0, .proceed 0 0, .proceed 0 0, .proceed 0 0, .shutdown, .advance 1, .advance 1,
      .advance 1, .advance 1, .proceed 0 1, .proceed 0 1, .proceed 0 1, .advance 1]
    x.Returns 1 0 early ∧ ¬x.HasWaited early ∧
      ∃ f, create config (.create (.empty 0) ⟨0, 0⟩) = .ok f ∧
        .reported ⟨[], [node]⟩ ∈ (f.attend events).shutdowns ∧
        ∃ time, .returned none time ⟨node, false, .terminating⟩ ∈ (f.attend events).calls 0 := by
  intro profile setup steps x early config node run events
  obtain ⟨hagents, hfleets⟩ := stop_calls_wait_unless_overtaken (.create (.empty 0) ⟨0, 0⟩)
  have hcalls : x.calls = [.waiting 0, .cancelled] := by decide +kernel
  have hafter : (x.proceed 1).calls = [.waiting 0, .returned none 0 early] := by decide +kernel
  have hreturns : x.Returns 1 0 early := by
    refine ⟨fun since time outcome hcall => ?_, none, by rw [hafter]; rfl⟩
    rw [hcalls] at hcall
    exact nomatch Option.some.inj hcall
  have hhandle : x.agent.handle = .awaited 30 := by decide +kernel
  have hstate : x.agent.state = .terminating := by decide +kernel
  have hnow : x.site.now = 0 := by decide +kernel
  have hovertaken : x.IsOvertaken := by
    refine ⟨?_, 30, hhandle, ?_⟩
    · rw [hstate]
      decide
    · rw [hnow]
      decide
  obtain ⟨-, -, hwaited⟩ := hagents setup steps 1 0 early hreturns
  have hchecked : (create config (.create (.empty 0) ⟨0, 0⟩)).toOption.any (fun f =>
      let y := f.attend events
      decide (y.shutdowns[1]? = some (.reported ⟨[], [node]⟩)) &&
        y.members[0]?.any fun member =>
          member.agent.name == node && member.agent.handle != .released false) = true := by
    decide +kernel
  obtain ⟨f, hcreate, hfleet⟩ := exists_create_of_any hchecked
  simp only [Bool.and_eq_true, decide_eq_true_eq, Option.any_eq_true, beq_iff_eq, bne_iff_ne]
    at hfleet
  obtain ⟨hreport, member, hmember, hname, hhandle⟩ := hfleet
  have hreported := List.mem_of_getElem? hreport
  have hkept := (attend_kept hcreate events).agents 0 member hmember
  obtain ⟨-, hlisted⟩ := hfleets config f hcreate events 0 member hmember
  have hfailed := hlisted _ hreported (hname ▸ List.mem_singleton_self _)
  refine ⟨hreturns, fun hwaits => hwaited.1 hwaits hovertaken, f, hcreate, hreported, ?_⟩
  obtain ⟨time, hmem⟩ := hfailed.resolve_left fun hstage => hhandle (hkept.givenUp hstage)
  exact ⟨time, hname ▸ hmem⟩

/-- Of two shutdowns of a fleet of one agent the second one returns while the first one waits, and
reports that the agent failed.  The agent stops at the same instant, long before the time for
stopping is over, and the first shutdown reports that it stopped. -/
theorem overlapping_shutdown_reports_early :
    let config : FleetConfig := { fleetSize := 1 }
    let node := config.agentName 0
    let task : Attended.Event := .other (.act 0 .task)
    let overlap : List Attended.Event :=
      [.other (.start fun _ => 0), .other .launch, task, task,
        .shutdown, .advance 0, .advance 0, .advance 0, .advance 0,
        .shutdown, .advance 1, .advance 1, .advance 1, .advance 1,
        .proceed 0 0, .proceed 0 0, .proceed 0 0, .proceed 0 1, .proceed 0 1, .proceed 0 1,
        .advance 1]
    let ending : List Attended.Event :=
      [.other (.act 0 .heartbeat), .other (.act 0 .statusSync), task, task, .proceed 0 0,
        .advance 0]
    ∃ f, create config (.create (.empty 0) ⟨0, 0⟩) = .ok f ∧
      (f.attend overlap).calls 0 =
        [.waiting 0, .returned none 0 ⟨node, false, .terminating⟩] ∧
      (f.attend overlap).shutdowns = [.stopping [(0, 0)], .reported ⟨[], [node]⟩] ∧
      (f.attend (overlap ++ ending)).calls 0 =
        [.returned (some 0) 0 ⟨node, true, .stopped⟩,
          .returned none 0 ⟨node, false, .terminating⟩] ∧
      (f.attend (overlap ++ ending)).shutdowns =
        [.reported ⟨[node], []⟩, .reported ⟨[], [node]⟩] ∧
      0 < config.shutdownTimeout := by
  intro config node task overlap ending
  have hchecked : (create config (.create (.empty 0) ⟨0, 0⟩)).toOption.any (fun f =>
      decide ((f.attend overlap).calls 0 =
          [.waiting 0, .returned none 0 ⟨node, false, .terminating⟩]) &&
        decide ((f.attend overlap).shutdowns = [.stopping [(0, 0)], .reported ⟨[], [node]⟩]) &&
        decide ((f.attend (overlap ++ ending)).calls 0 =
          [.returned (some 0) 0 ⟨node, true, .stopped⟩,
            .returned none 0 ⟨node, false, .terminating⟩]) &&
        decide ((f.attend (overlap ++ ending)).shutdowns =
          [.reported ⟨[node], []⟩, .reported ⟨[], [node]⟩])) = true := by
    decide +kernel
  have htime : 0 < config.shutdownTimeout := by decide +kernel
  obtain ⟨f, hcreate, hfleet⟩ := exists_create_of_any hchecked
  simp only [Bool.and_eq_true, decide_eq_true_eq] at hfleet
  obtain ⟨⟨⟨hcalls, hshutdowns⟩, hlater⟩, hlast⟩ := hfleet
  exact ⟨f, hcreate, hcalls, hshutdowns, hlater, hlast, htime⟩

end Fleet

end NodeFleet
