import Mathlib.Data.List.Nodup
import Mathlib.Data.List.Sort
import Mathlib.Data.String.Basic
import NodeFleet.Launch

/-!
# The shutdown report

Stop calls return in any order, and the report does not depend on it: both of its lists are
sorted, and a sorted list is determined by its members (`ofOutcomes_congr`).

Before the lists are sorted they are, one after the other, the names of the outcomes and of the
agents without one (`perm_ofOutcomes`).  So if no two agents and no two outcomes have the same
name, and only agents have outcomes, each agent is on exactly one of the lists
(`ofOutcomes_partition`).
-/

namespace NodeFleet.ShutdownReport

variable {names other : List String} {outcomes later : List Agent.StopOutcome} {name : String}

theorem perm_sortNames (names : List String) : (sortNames names).Perm names :=
  List.mergeSort_perm names _

theorem mem_sortNames : name ∈ sortNames names ↔ name ∈ names :=
  (perm_sortNames names).mem_iff

theorem sorted_sortNames (names : List String) : (sortNames names).Pairwise (· ≤ ·) := by
  have htrans (a b c : String) (hab : decide (a ≤ b) = true) (hbc : decide (b ≤ c) = true) :
      decide (a ≤ c) = true :=
    decide_eq_true (le_trans (of_decide_eq_true hab) (of_decide_eq_true hbc))
  have htotal (a b : String) : (decide (a ≤ b) || decide (b ≤ a)) = true := by
    rcases le_total a b with h | h <;> simp [h]
  exact (List.pairwise_mergeSort htrans htotal names).imp of_decide_eq_true

theorem sortNames_congr (h : names.Perm other) : sortNames names = sortNames other := by
  refine List.Perm.eq_of_pairwise (fun a b _ _ => le_antisymm) (sorted_sortNames names)
    (sorted_sortNames other) ?_
  exact (perm_sortNames names).trans (h.trans (perm_sortNames other).symm)

/-- The order in which the stop calls return does not matter. -/
theorem ofOutcomes_congr (h : outcomes.Perm later) :
    ofOutcomes names outcomes = ofOutcomes names later := by
  have hchosen (clean : Bool) :
      ((outcomes.filter fun o => o.clean = clean).map Agent.StopOutcome.name).Perm
        ((later.filter fun o => o.clean = clean).map Agent.StopOutcome.name) :=
    (h.filter _).map _
  have hmissing : (names.filter fun name => name ∉ outcomes.map Agent.StopOutcome.name) =
      names.filter fun name => name ∉ later.map Agent.StopOutcome.name := by
    refine List.filter_congr fun name _ => ?_
    exact decide_eq_decide.2 (not_congr (h.map Agent.StopOutcome.name).mem_iff)
  rw [ofOutcomes, ofOutcomes, hmissing]
  congr 1
  · exact sortNames_congr (hchosen true)
  · exact sortNames_congr ((hchosen false).append_right _)

/-- The order in which the agents are given does not matter. -/
theorem ofOutcomes_congr_names (h : names.Perm other) :
    ofOutcomes names outcomes = ofOutcomes other outcomes := by
  rw [ofOutcomes, ofOutcomes]
  congr 1
  exact sortNames_congr ((h.filter _).append_left _)

/-! ## Who is on the lists -/

theorem mem_stopped : name ∈ (ofOutcomes names outcomes).stopped ↔
    ∃ outcome ∈ outcomes, outcome.name = name ∧ outcome.clean = true := by
  simp only [ofOutcomes, mem_sortNames, List.mem_map, List.mem_filter, decide_eq_true_eq]
  exact exists_congr fun outcome => by tauto

theorem mem_failed : name ∈ (ofOutcomes names outcomes).failed ↔
    (∃ outcome ∈ outcomes, outcome.name = name ∧ outcome.clean = false) ∨
      name ∈ names ∧ ∀ outcome ∈ outcomes, outcome.name ≠ name := by
  simp only [ofOutcomes, mem_sortNames, List.mem_append, List.mem_map, List.mem_filter,
    decide_eq_true_eq, not_exists, not_and]
  exact or_congr_left (exists_congr fun outcome => by tauto)

/-- All names of a report are those of the outcomes and of the agents without one. -/
theorem perm_ofOutcomes (names : List String) (outcomes : List Agent.StopOutcome) :
    ((ofOutcomes names outcomes).stopped ++ (ofOutcomes names outcomes).failed).Perm
      (outcomes.map Agent.StopOutcome.name ++
        names.filter fun name => name ∉ outcomes.map Agent.StopOutcome.name) := by
  have hsplit : (outcomes.filter (fun o => o.clean = true) ++
      outcomes.filter fun o => o.clean = false).Perm outcomes := by
    have h := List.filter_append_perm (fun o : Agent.StopOutcome => o.clean) outcomes
    simpa using h
  refine ((perm_sortNames _).append (perm_sortNames _)).trans ?_
  rw [← List.append_assoc, ← List.map_append]
  exact (hsplit.map _).append_right _

section Distinct

variable (hnames : names.Nodup) (houtcomes : (outcomes.map Agent.StopOutcome.name).Nodup)
  (hknown : ∀ outcome ∈ outcomes, outcome.name ∈ names)

include houtcomes in
/-- Outcomes of the same name are the same. -/
theorem eq_of_name_eq {found outcome : Agent.StopOutcome} (hfound : found ∈ outcomes)
    (houtcome : outcome ∈ outcomes) (hsame : found.name = outcome.name) : found = outcome :=
  List.inj_on_of_nodup_map houtcomes hfound houtcome hsame

include hnames houtcomes hknown

theorem perm_names_ofOutcomes :
    ((ofOutcomes names outcomes).stopped ++ (ofOutcomes names outcomes).failed).Perm names := by
  apply (perm_ofOutcomes names outcomes).trans
  have hnodup : (outcomes.map Agent.StopOutcome.name ++
      names.filter fun name => name ∉ outcomes.map Agent.StopOutcome.name).Nodup := by
    refine List.nodup_append.2 ⟨houtcomes, hnames.filter _, ?_⟩
    rintro name hreported _ hmissing rfl
    exact of_decide_eq_true (List.mem_filter.1 hmissing).2 hreported
  apply (List.perm_ext_iff_of_nodup hnodup hnames).2
  intro name
  simp only [List.mem_append, List.mem_filter, decide_eq_true_eq]
  constructor
  · rintro (hreported | ⟨hname, -⟩)
    · obtain ⟨outcome, houtcome, rfl⟩ := List.mem_map.1 hreported
      exact hknown outcome houtcome
    · exact hname
  · intro hname
    by_cases hreported : name ∈ outcomes.map Agent.StopOutcome.name
    · exact .inl hreported
    · exact .inr ⟨hname, hreported⟩

theorem nodup_ofOutcomes :
    ((ofOutcomes names outcomes).stopped ++ (ofOutcomes names outcomes).failed).Nodup :=
  (perm_names_ofOutcomes hnames houtcomes hknown).nodup_iff.2 hnames

omit hnames hknown in
/-- The list that an outcome is on is told by whether it is clean. -/
theorem mem_of_outcome {outcome : Agent.StopOutcome} (houtcome : outcome ∈ outcomes) :
    (outcome.name ∈ (ofOutcomes names outcomes).stopped ↔ outcome.clean = true) ∧
      (outcome.name ∈ (ofOutcomes names outcomes).failed ↔ outcome.clean = false) := by
  rw [mem_stopped, mem_failed]
  refine ⟨⟨?_, fun hclean => ⟨outcome, houtcome, rfl, hclean⟩⟩,
    ⟨?_, fun hclean => .inl ⟨outcome, houtcome, rfl, hclean⟩⟩⟩
  · rintro ⟨found, hfound, hsame, hclean⟩
    rwa [← eq_of_name_eq houtcomes hfound houtcome hsame]
  · rintro (⟨found, hfound, hsame, hclean⟩ | ⟨-, hmissing⟩)
    · rwa [← eq_of_name_eq houtcomes hfound houtcome hsame]
    · exact absurd rfl (hmissing outcome houtcome)

end Distinct

/-- A report on agents of different names that all have an outcome has each of them once, those
that are clean in the first list and the others in the second. -/
theorem ofOutcomes_complete (hnodup : (outcomes.map Agent.StopOutcome.name).Nodup) :
    let report := ofOutcomes (outcomes.map Agent.StopOutcome.name) outcomes
    report.stopped.Pairwise (· ≤ ·) ∧ report.failed.Pairwise (· ≤ ·) ∧
      (report.stopped ++ report.failed).Perm (outcomes.map Agent.StopOutcome.name) ∧
      (report.stopped ++ report.failed).Nodup ∧
      ∀ outcome ∈ outcomes, (outcome.name ∈ report.stopped ↔ outcome.clean = true) ∧
        (outcome.name ∈ report.failed ↔ outcome.clean = false) := by
  have hknown : ∀ outcome ∈ outcomes, outcome.name ∈ outcomes.map Agent.StopOutcome.name :=
    fun _ houtcome => List.mem_map_of_mem houtcome
  exact ⟨sorted_sortNames _, sorted_sortNames _, perm_names_ofOutcomes hnodup hnodup hknown,
    nodup_ofOutcomes hnodup hnodup hknown, fun _ houtcome => mem_of_outcome hnodup houtcome⟩

/-- A report on agents of different names, at most one outcome for each of them, divides the agents:
both lists are strictly ascending, no name is on both, and together they are the agents.  An agent
has stopped exactly if it has a clean outcome, and it has failed if its outcome is not clean or
missing.  The order of the agents and of the outcomes makes no difference. -/
theorem ofOutcomes_partition (hnames : names.Nodup)
    (houtcomes : (outcomes.map Agent.StopOutcome.name).Nodup)
    (hknown : ∀ outcome ∈ outcomes, outcome.name ∈ names) :
    let report := ofOutcomes names outcomes
    report.stopped.Pairwise (· < ·) ∧ report.failed.Pairwise (· < ·) ∧
      report.stopped.Disjoint report.failed ∧ (report.stopped ++ report.failed).Perm names ∧
      (∀ name ∈ names, name ∈ report.stopped ↔
        ∃ outcome ∈ outcomes, outcome.name = name ∧ outcome.clean = true) ∧
      (∀ name ∈ names, name ∈ report.failed ↔
        ∀ outcome ∈ outcomes, outcome.name = name → outcome.clean = false) ∧
      ∀ (others : List String) (later : List Agent.StopOutcome), others.Perm names →
        later.Perm outcomes → ofOutcomes others later = report := by
  intro report
  obtain ⟨hstopped, hfailed, happart⟩ :=
    List.nodup_append.1 (nodup_ofOutcomes hnames houtcomes hknown)
  -- A sorted list without duplicates is strictly ascending.
  have hstrict {listed : List String} (hsorted : listed.Pairwise (· ≤ ·)) (hnodup : listed.Nodup) :
      listed.Pairwise (· < ·) :=
    (hsorted.and hnodup).imp fun h => lt_of_le_of_ne h.1 h.2
  refine ⟨hstrict (sorted_sortNames _) hstopped, hstrict (sorted_sortNames _) hfailed, ?_,
    perm_names_ofOutcomes hnames houtcomes hknown, fun _ _ => mem_stopped, ?_, ?_⟩
  · intro name hfirst hsecond
    exact happart name hfirst name hsecond rfl
  · intro name hname
    constructor
    · rintro hlisted outcome houtcome rfl
      exact (mem_of_outcome houtcomes houtcome).2.1 hlisted
    · intro hunclean
      rw [mem_failed]
      by_cases hmissing : ∀ outcome ∈ outcomes, outcome.name ≠ name
      · exact .inr ⟨hname, hmissing⟩
      · push Not at hmissing
        obtain ⟨outcome, houtcome, hsame⟩ := hmissing
        exact .inl ⟨outcome, houtcome, hsame, hunclean outcome houtcome hsame⟩
  · intro others later hothers hlater
    calc ofOutcomes others later
        = ofOutcomes names later := ofOutcomes_congr_names hothers
      _ = ofOutcomes names outcomes := ofOutcomes_congr hlater

/-- Of three agents one has stopped, one has not and one has no outcome. -/
theorem ofOutcomes_partition_of_three :
    let names : List String := ["c", "a", "b"]
    let outcomes : List Agent.StopOutcome := [⟨"b", true, .stopped⟩, ⟨"a", false, .terminating⟩]
    names.Nodup ∧ (outcomes.map Agent.StopOutcome.name).Nodup ∧
      (∀ outcome ∈ outcomes, outcome.name ∈ names) ∧
      (ofOutcomes names outcomes).stopped.Disjoint (ofOutcomes names outcomes).failed ∧
      ofOutcomes names.reverse outcomes.reverse = ⟨["b"], ["a", "c"]⟩ := by
  intro names outcomes
  have hnames : names.Nodup := by decide
  have houtcomes : (outcomes.map Agent.StopOutcome.name).Nodup := by decide
  have hknown : ∀ outcome ∈ outcomes, outcome.name ∈ names := by decide
  obtain ⟨-, -, hdisjoint, -, -, -, hcongr⟩ := ofOutcomes_partition hnames houtcomes hknown
  have hreport : ofOutcomes names outcomes = ⟨["b"], ["a", "c"]⟩ := by
    simp [ofOutcomes, sortNames, names, outcomes, List.mergeSort]
  exact ⟨hnames, houtcomes, hknown, hdisjoint,
    (hcongr _ _ (List.reverse_perm _) (List.reverse_perm _)).trans hreport⟩

end NodeFleet.ShutdownReport
