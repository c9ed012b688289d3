import Mathlib
import NodeFleet.Proofs.Ledger.Run
import NodeFleet.Proofs.Table.Sorted

/-!
# The accounts of a ledger are exact

A ledger does not add up its records when it is asked what they take: it carries the sum
along, adding on admission and subtracting on release.  `Balanced` says that the carried
sum is the true one and within what the node offers, and that the records are sorted.
Every call keeps it, `Balanced.answer`, since

* an admission adds one record under a new id (`Table.insert_perm`), and only after every
  dimension was seen to have room;
* a release removes one record (`Table.Sorted.perm_cons_erase`), whose request is a
  summand of the sum, so the subtraction has enough to take from.

`Faithful` is the other half: the records are those that the answers given so far promise.
-/

namespace NodeFleet.Ledger

/-- The sum over the live records in one dimension. -/
def demand (l : Ledger) (d : Resource) : Nat :=
  (l.records.map fun record => record.requested.amount d).sum

/-- The carried sums are true and within the offer; the records are sorted by their ids. -/
structure Balanced (l : Ledger) : Prop where
  /-- The ids ascend. -/
  sorted : l.entries.Sorted
  /-- A record is kept under its own id. -/
  named : ∀ entry ∈ l.entries, entry.2.workload = entry.1
  /-- The carried sums are those over the records. -/
  total : ∀ d, l.used.amount d = l.demand d
  /-- No sum passes the offer. -/
  within : ∀ d, l.used.amount d ≤ l.allocatable.amount d

theorem balanced_empty (allocatable : NodeResources) : Balanced (empty allocatable) where
  sorted := Table.sorted_nil
  named := by simp [empty]
  total d := by cases d <;> rfl
  within d := by cases d <;> exact Nat.zero_le _

/-! ## What a call adds or takes away -/

theorem demand_put {l : Ledger} {record : AdmissionRecord}
    (hnew : l.entries.find? record.workload = none) (d : Resource) :
    (l.put record).demand d = l.demand d + record.requested.amount d := by
  have hperm := (Table.insert_perm hnew record).map fun entry => entry.2.requested.amount d
  have hsum := hperm.sum_nat
  simp only [List.map_cons, List.sum_cons] at hsum
  simp only [demand, records, put, Table.values, List.map_map, Function.comp_def]
  omega

theorem demand_takeOut {l : Ledger} (h : Balanced l) {workload : String}
    {record : AdmissionRecord} (hlive : l.entries.find? workload = some record) (d : Resource) :
    (l.takeOut workload record).demand d + record.requested.amount d = l.demand d := by
  have hperm := (h.sorted.perm_cons_erase hlive).map fun entry => entry.2.requested.amount d
  have hsum := hperm.sum_nat
  simp only [List.map_cons, List.sum_cons] at hsum
  simp only [demand, records, takeOut, Table.values, List.map_map, Function.comp_def]
  omega

/-- The request of a live record is covered by the carried sums. -/
theorem Balanced.requested_le_used {l : Ledger} (h : Balanced l) {workload : String}
    {record : AdmissionRecord} (hlive : l.entries.find? workload = some record) (d : Resource) :
    record.requested.amount d ≤ l.used.amount d := by
  have hdemand := demand_takeOut h hlive d
  rw [h.total d]
  omega

theorem Balanced.put {l : Ledger} (h : Balanced l) {record : AdmissionRecord}
    (hnew : l.entries.find? record.workload = none)
    (hroom : l.shortage? record.requested = none) : Balanced (l.put record) where
  sorted := h.sorted.insert _ _
  named entry hentry := by
    rcases Table.mem_insert hentry with rfl | hentry
    · rfl
    · exact h.named entry hentry
  total d := by
    rw [demand_put hnew d, ← h.total d]
    exact ResourceUsage.amount_add _ _ d
  within d := by
    have hfits := shortage?_eq_none_iff.1 hroom d
    rwa [← ResourceUsage.amount_add] at hfits

theorem Balanced.takeOut {l : Ledger} (h : Balanced l) {workload : String}
    {record : AdmissionRecord} (hlive : l.entries.find? workload = some record) :
    Balanced (l.takeOut workload record) where
  sorted := h.sorted.erase _
  named entry hentry := h.named entry (List.mem_of_mem_filter hentry)
  total d := by
    have hdemand := demand_takeOut h hlive d
    have hused : (l.takeOut workload record).used.amount d =
        l.used.amount d - record.requested.amount d := ResourceUsage.amount_subtract _ _ d
    rw [hused, h.total d]
    omega
  within d := by
    have hused : (l.takeOut workload record).used.amount d =
        l.used.amount d - record.requested.amount d := ResourceUsage.amount_subtract _ _ d
    rw [hused]
    exact (Nat.sub_le _ _).trans (h.within d)

theorem Balanced.answer {l : Ledger} (h : Balanced l) (call : Call) :
    Balanced (l.answer call).2 := by
  cases call with
  | submit workload request now =>
      rcases tryAdmit_cases l workload request now with
        ⟨record, -, heq⟩ | ⟨d, -, -, heq⟩ | ⟨hnew, hroom, heq⟩
      · simpa only [Ledger.answer, heq] using h
      · simpa only [Ledger.answer, heq] using h
      · simpa only [Ledger.answer, heq] using h.put hnew hroom
  | release workload =>
      rcases release_cases l workload with ⟨-, heq⟩ | ⟨record, hlive, heq⟩
      · simpa only [Ledger.answer, heq] using h
      · simpa only [Ledger.answer, heq] using h.takeOut hlive

theorem answer_allocatable (l : Ledger) (call : Call) :
    (l.answer call).2.allocatable = l.allocatable := by
  cases call with
  | submit workload request now =>
      rcases tryAdmit_cases l workload request now with
        ⟨record, -, heq⟩ | ⟨d, -, -, heq⟩ | ⟨-, -, heq⟩ <;> rw [Ledger.answer, heq]
      rfl
  | release workload =>
      rcases release_cases l workload with ⟨-, heq⟩ | ⟨record, -, heq⟩ <;>
        rw [Ledger.answer, heq]
      rfl

/-! ## What the answers promise -/

/-- A ledger holds what its answers promise. -/
def Faithful (r : Recorded) : Prop :=
  ∀ workload, r.ledger.entries.find? workload = liveRecord? workload r.history

theorem Faithful.answer {r : Recorded} (h : Faithful r) (call : Call) :
    Faithful (r.answer call) := by
  intro other
  cases call with
  | submit workload request now =>
      rcases tryAdmit_cases r.ledger workload request now with
        ⟨record, hlive, heq⟩ | ⟨d, -, -, heq⟩ | ⟨-, -, heq⟩ <;>
        simp only [Recorded.answer, Ledger.answer, heq, liveRecord?]
      · -- A workload that is live is answered with the record that it has.
        by_cases hname : workload = other
        · rw [if_pos hname, ← hname, hlive]
        · rw [if_neg hname]
          exact h other
      · exact h other
      · rw [Ledger.put, Table.find?_insert, h other]
  | release workload =>
      rcases release_cases r.ledger workload with ⟨hdead, heq⟩ | ⟨record, hlive, heq⟩ <;>
        simp only [Recorded.answer, Ledger.answer, heq, liveRecord?]
      · by_cases hname : workload = other
        · rw [if_pos hname, ← hname, hdead]
        · rw [if_neg hname]
          exact h other
      · rw [Ledger.takeOut, Table.find?_erase, h other]

/-! ## Runs -/

/-- What holds after every run from the empty ledger. -/
theorem run_balanced (allocatable : NodeResources) (calls : List Call) :
    Balanced (run (empty allocatable) calls).ledger ∧
      Faithful (run (empty allocatable) calls) ∧
      (run (empty allocatable) calls).ledger.allocatable = allocatable := by
  induction calls using List.reverseRecOn with
  | nil => exact ⟨balanced_empty allocatable, fun _ => rfl, rfl⟩
  | append_singleton calls call ih =>
      obtain ⟨hbalanced, hfaithful, hoffer⟩ := ih
      rw [run_concat]
      refine ⟨hbalanced.answer call, hfaithful.answer call, ?_⟩
      exact (answer_allocatable _ call).trans hoffer

theorem Balanced.mem_records_iff {l : Ledger} (h : Balanced l) {record : AdmissionRecord} :
    record ∈ l.records ↔ l.entries.find? record.workload = some record := by
  rw [h.sorted.find?_eq_some_iff, records, Table.values, List.mem_map]
  constructor
  · rintro ⟨entry, hentry, rfl⟩
    rw [h.named entry hentry]
    exact hentry
  · exact fun hentry => ⟨_, hentry, rfl⟩

theorem Balanced.records_pairwise {l : Ledger} (h : Balanced l) :
    l.records.Pairwise fun a b => a.workload < b.workload := by
  refine List.pairwise_map.2 (h.sorted.imp_of_mem fun ha hb hlt => ?_)
  rw [h.named _ ha, h.named _ hb]
  exact hlt

theorem Balanced.find?_eq_none_iff {l : Ledger} (h : Balanced l) {workload : String} :
    l.entries.find? workload = none ↔ ∀ record ∈ l.records, record.workload ≠ workload := by
  constructor
  · rintro hnew record hrecord rfl
    rw [h.mem_records_iff.1 hrecord] at hnew
    exact nomatch hnew
  · intro hdead
    by_contra hlive
    obtain ⟨record, hrecord⟩ := Option.ne_none_iff_exists'.1 hlive
    have hentry := h.sorted.find?_eq_some_iff.1 hrecord
    have hname : record.workload = workload := h.named _ hentry
    exact hdead record (h.mem_records_iff.2 (hname ▸ hrecord)) hname

/-! ## What a release takes away -/

/-- One ledger is another without a workload: its record is gone and the sums are those over what
is left.  The change is counted if the workload was live, and there is none if it was not. -/
structure Releases (before : Ledger) (workload : String) (after : Ledger) : Prop where
  records : after.records = before.records.filter fun record => record.workload ≠ workload
  used : ∀ d, after.used.amount d = (after.records.map fun record => record.requested.amount d).sum
  allocatable : after.allocatable = before.allocatable
  live : (∃ record ∈ before.records, record.workload = workload) →
    after.generation = before.generation + 1
  idle : (∀ record ∈ before.records, record.workload ≠ workload) → after = before

theorem Balanced.records_takeOut {l : Ledger} (h : Balanced l) (workload : String)
    (record : AdmissionRecord) : (l.takeOut workload record).records =
      l.records.filter fun record => record.workload ≠ workload := by
  show (l.entries.filter fun entry => entry.1 ≠ workload).map Prod.snd =
    (l.entries.map Prod.snd).filter fun record => record.workload ≠ workload
  rw [List.filter_map]
  congr 1
  refine List.filter_congr fun entry hentry => ?_
  simp only [Function.comp_apply, h.named entry hentry]

theorem Balanced.releases_release {l : Ledger} (h : Balanced l) (workload : String) :
    l.Releases workload (l.release workload).2 := by
  rcases release_cases l workload with ⟨hfind, heq⟩ | ⟨record, hfind, heq⟩
  · have hdead := h.find?_eq_none_iff.1 hfind
    rw [heq]
    refine ⟨?_, h.total, rfl, ?_, fun _ => rfl⟩
    · exact (List.filter_eq_self.2 fun record hrecord =>
        decide_eq_true (hdead record hrecord)).symm
    · rintro ⟨record, hrecord, hname⟩
      exact absurd hname (hdead record hrecord)
  · rw [heq]
    refine ⟨h.records_takeOut workload record, (h.takeOut hfind).total, rfl, fun _ => rfl, ?_⟩
    intro hdead
    rw [h.find?_eq_none_iff.2 hdead] at hfind
    exact nomatch hfind

/-! ## Arithmetic in words -/

/-- The sum of two words, if it is one. -/
def wordSum? (a b : Nat) : Option Nat :=
  if a + b < 2 ^ 64 then some (a + b) else none

/-- The sums and differences that a call forms come out in words as they do in the natural
numbers: the test for room decides the same, an admission stays below the bound, and a release
has enough to subtract from. -/
def IsExactFor (l : Ledger) : Call → Prop
  | .submit workload request _ =>
      (∀ d, l.fits request d =
        (wordSum? (l.used.amount d) (request.amount d)).any (· ≤ l.allocatable.amount d)) ∧
      (l.entries.find? workload = none → l.shortage? request = none →
        ∀ d, l.used.amount d + request.amount d < 2 ^ 64)
  | .release workload =>
      ∀ record, l.entries.find? workload = some record →
        ∀ d, record.requested.amount d ≤ l.used.amount d

theorem fits_eq_wordSum? {l : Ledger} {d : Resource} (hword : l.allocatable.amount d < 2 ^ 64)
    (request : ResourceRequest) :
    l.fits request d =
      (wordSum? (l.used.amount d) (request.amount d)).any (· ≤ l.allocatable.amount d) := by
  unfold fits wordSum?
  split_ifs with hsum
  · rfl
  · have hshort : ¬ l.used.amount d + request.amount d ≤ l.allocatable.amount d := by omega
    simpa using hshort

theorem Balanced.isExactFor {l : Ledger} (h : Balanced l)
    (hwords : ∀ d, l.allocatable.amount d < 2 ^ 64) (call : Call) : l.IsExactFor call := by
  cases call with
  | submit workload request now =>
      refine ⟨fun d => fits_eq_wordSum? (hwords d) request, ?_⟩
      intro _ hroom d
      exact (shortage?_eq_none_iff.1 hroom d).trans_lt (hwords d)
  | release workload => exact fun record hlive d => h.requested_le_used hlive d

/-- After any run, what a ledger carries as used is the exact sum over its records, one pod for
each, and within the offer; the records ascend by their ids and are those that the answers given
so far promise; and the arithmetic of the next call, whatever it is, is exact in words. -/
theorem run_accounts_exact (allocatable : NodeResources)
    (hwords : ∀ d, allocatable.amount d < 2 ^ 64) (calls : List Call) :
    let r := run (empty allocatable) calls
    (∀ d, r.ledger.used.amount d =
      (r.ledger.records.map fun record => record.requested.amount d).sum) ∧
    r.ledger.used.pods = r.ledger.records.length ∧
    (∀ d, r.ledger.used.amount d ≤ allocatable.amount d) ∧
    (∀ call, r.ledger.IsExactFor call) ∧
    r.ledger.records.Pairwise (fun a b => a.workload < b.workload) ∧
    ∀ record, record ∈ r.ledger.records ↔
      liveRecord? record.workload r.history = some record := by
  obtain ⟨hbalanced, hfaithful, hoffer⟩ := run_balanced allocatable calls
  refine ⟨hbalanced.total, ?_, ?_, ?_, hbalanced.records_pairwise, ?_⟩
  · have hpods := hbalanced.total .pods
    simpa [demand, ResourceRequest.amount, ResourceUsage.amount] using hpods
  · intro d
    have hwithin := hbalanced.within d
    rwa [hoffer] at hwithin
  · refine hbalanced.isExactFor fun d => ?_
    rw [hoffer]
    exact hwords d
  · intro record
    rw [hbalanced.mem_records_iff, hfaithful]

/-- A workload takes all memory that words can express, a second one asks for a single byte more,
and the first asks again before it is released. -/
theorem run_accounts_exact_at_word_bound :
    let offer : NodeResources := ⟨4000, 2 ^ 64 - 1, 0, 0, 2⟩
    let whole : ResourceRequest := ⟨1, 2 ^ 64 - 1, 0⟩
    let calls : List Call :=
      [.submit "a" whole ⟨0, 0⟩, .submit "b" ⟨1, 1, 0⟩ ⟨1, 0⟩, .submit "a" ⟨9, 9, 9⟩ ⟨2, 0⟩]
    (∀ d, offer.amount d < 2 ^ 64) ∧
      (run (empty offer) calls).ledger.used = ⟨1, 2 ^ 64 - 1, 0, 1⟩ ∧
      (run (empty offer) calls).ledger.IsExactFor (.release "a") := by
  intro offer whole calls
  have hwords : ∀ d, offer.amount d < 2 ^ 64 := by
    intro d
    cases d <;> simp [offer, NodeResources.amount]
  exact ⟨hwords, by decide +kernel, (run_accounts_exact offer hwords calls).2.2.2.1 _⟩

end NodeFleet.Ledger
