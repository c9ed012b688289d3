import Mathlib.Data.List.Induction
import Mathlib.Order.Basic
import NodeFleet.Proofs.Ledger.Accounts

/-!
# The generation of a ledger

The generation of a ledger is raised by one with every call that changes it and by no
other, so it counts changes, and it names a state: as long as it stays, the ledger stays
(`Precedes`).

What it counts can be read off the answers.  An admission under a workload that was not
live is a change, `admissions`, and so is a release that found its workload live,
`releases`.  The first adds a record and the second removes one.  The other answers, to
a workload that is live already, to one that does not fit and to a release of one that is
not live, count for nothing and leave the ledger as it was.
-/

namespace NodeFleet.Ledger

/-! ## States of a ledger -/

/-- A ledger went through this state before that one, or is still in it. -/
def Precedes (l later : Ledger) : Prop := l = later ∨ l.generation < later.generation

variable {l middle later : Ledger}

theorem Precedes.trans (h : l.Precedes middle) (h' : middle.Precedes later) :
    l.Precedes later := by
  rcases h with rfl | hlt
  · exact h'
  · rcases h' with rfl | hlt'
    · exact .inr hlt
    · exact .inr (hlt.trans hlt')

theorem Precedes.generation_le (h : l.Precedes later) : l.generation ≤ later.generation := by
  rcases h with rfl | hlt
  · exact Nat.le_refl _
  · exact hlt.le

theorem Precedes.eq_of_generation_eq (h : l.Precedes later)
    (hgeneration : l.generation = later.generation) : l = later :=
  h.resolve_right hgeneration.not_lt

theorem precedes_tryAdmit (l : Ledger) (workload : String) (request : ResourceRequest)
    (now : Timestamp) : l.Precedes (l.tryAdmit workload request now).2 := by
  rcases l.tryAdmit_cases workload request now with
    ⟨record, -, heq⟩ | ⟨d, -, -, heq⟩ | ⟨-, -, heq⟩
  · exact .inl (by rw [heq])
  · exact .inl (by rw [heq])
  · exact .inr (by rw [heq]; exact Nat.lt_succ_self _)

theorem precedes_release (l : Ledger) (workload : String) :
    l.Precedes (l.release workload).2 := by
  rcases l.release_cases workload with ⟨-, heq⟩ | ⟨record, -, heq⟩
  · exact .inl (by rw [heq])
  · exact .inr (by rw [heq]; exact Nat.lt_succ_self _)

theorem precedes_answer (l : Ledger) (call : Call) : l.Precedes (l.answer call).2 := by
  cases call with
  | submit workload request now => exact l.precedes_tryAdmit workload request now
  | release workload => exact l.precedes_release workload

theorem precedes_run_append (l : Ledger) (calls more : List Call) :
    (run l calls).ledger.Precedes (run l (calls ++ more)).ledger := by
  induction more using List.reverseRecOn with
  | nil =>
      rw [List.append_nil]
      exact .inl rfl
  | append_singleton more call ih =>
      rw [← List.append_assoc, run_concat]
      exact ih.trans (precedes_answer _ call)

/-! ## Changes in a history -/

/-- The number of admissions of workloads that were not live. -/
def admissions : List (Call × Answer) → Nat
  | [] => 0
  | (.submit workload _ _, .decided (.admitted _)) :: earlier =>
      if liveRecord? workload earlier = none then admissions earlier + 1 else admissions earlier
  | _ :: earlier => admissions earlier

/-- The number of releases of workloads that were live. -/
def releases : List (Call × Answer) → Nat
  | [] => 0
  | (.release _, .released true) :: earlier => releases earlier + 1
  | _ :: earlier => releases earlier

/-- The generation is the number of changes so far, and the records are those that were added and
not removed since. -/
structure Tallied (r : Recorded) : Prop where
  generation : r.ledger.generation = admissions r.history + releases r.history
  records : r.ledger.records.length + releases r.history = admissions r.history
  /-- No call is more than one change. -/
  calls : r.ledger.generation ≤ r.history.length

theorem length_records_put {l : Ledger} {record : AdmissionRecord}
    (hnew : l.entries.find? record.workload = none) :
    (l.put record).records.length = l.records.length + 1 := by
  have hperm := (Table.insert_perm hnew record).length_eq
  show ((l.entries.insert record.workload record).map Prod.snd).length =
    (l.entries.map Prod.snd).length + 1
  simpa only [List.length_map, List.length_cons] using hperm

theorem Balanced.length_records_takeOut {l : Ledger} (h : Balanced l) {workload : String}
    {record : AdmissionRecord} (hlive : l.entries.find? workload = some record) :
    (l.takeOut workload record).records.length + 1 = l.records.length := by
  have hperm := (h.sorted.perm_cons_erase hlive).length_eq
  show ((l.entries.erase workload).map Prod.snd).length + 1 = (l.entries.map Prod.snd).length
  simpa only [List.length_map, List.length_cons] using hperm.symm

theorem Tallied.answer {r : Recorded} (h : Tallied r) (hbalanced : Balanced r.ledger)
    (hfaithful : Faithful r) (call : Call) : Tallied (r.answer call) := by
  obtain ⟨hgeneration, hrecords, hcalls⟩ := h
  cases call with
  | submit workload request now =>
      have hlive := hfaithful workload
      rcases tryAdmit_cases r.ledger workload request now with
        ⟨record, hfind, heq⟩ | ⟨d, -, -, heq⟩ | ⟨hfind, -, heq⟩ <;>
        rw [Recorded.answer, Ledger.answer, heq]
      · -- The workload was live, so its admission is not a new one.
        have hold : liveRecord? workload r.history ≠ none := by simp [← hlive, hfind]
        exact ⟨by simpa [admissions, releases, hold], by simpa [admissions, releases, hold],
          Nat.le_succ_of_le hcalls⟩
      · exact ⟨hgeneration, hrecords, Nat.le_succ_of_le hcalls⟩
      · have hnew : liveRecord? workload r.history = none := hlive ▸ hfind
        have hput : (r.ledger.put ⟨workload, request, now⟩).records.length =
            r.ledger.records.length + 1 := length_records_put hfind
        constructor <;> simp only [admissions, releases, hnew, if_true, List.length_cons]
        · show r.ledger.generation + 1 = _
          omega
        · omega
        · exact Nat.succ_le_succ hcalls
  | release workload =>
      rcases release_cases r.ledger workload with ⟨-, heq⟩ | ⟨record, hfind, heq⟩ <;>
        rw [Recorded.answer, Ledger.answer, heq]
      · exact ⟨hgeneration, hrecords, Nat.le_succ_of_le hcalls⟩
      · have htake := hbalanced.length_records_takeOut hfind
        constructor <;> simp only [admissions, releases, List.length_cons]
        · show r.ledger.generation + 1 = _
          omega
        · omega
        · exact Nat.succ_le_succ hcalls

theorem run_tallied (allocatable : NodeResources) (calls : List Call) :
    Tallied (run (empty allocatable) calls) := by
  induction calls using List.reverseRecOn with
  | nil => exact ⟨rfl, rfl, Nat.le_refl _⟩
  | append_singleton calls call ih =>
      obtain ⟨hbalanced, hfaithful, -⟩ := run_balanced allocatable calls
      rw [run_concat]
      exact ih.answer hbalanced hfaithful call

theorem length_history_run (l : Ledger) (calls : List Call) :
    (run l calls).history.length = calls.length := by
  induction calls using List.reverseRecOn with
  | nil => rfl
  | append_singleton calls call ih =>
      rw [run_concat, List.length_append, ← ih]
      rfl

theorem eq_of_prefix_of_generation_eq (l : Ledger) {fewer more : List Call}
    (hinitial : fewer <+: more)
    (hgeneration : (run l fewer).ledger.generation = (run l more).ledger.generation) :
    (run l fewer).ledger = (run l more).ledger := by
  obtain ⟨rest, rfl⟩ := hinitial
  exact (precedes_run_append l fewer rest).eq_of_generation_eq hgeneration

/-- The generation identifies the state of a ledger.  At every point of every run it is the number
of new admissions and of effective releases so far, the live records are as many as the first are
more than the second, and it has been raised at most once for each call, so that within `2 ^ 64`
calls it is a word.  Any two points of a run with one generation have one and the same ledger: the
same live records, the same usage. -/
theorem run_generation_identifies (allocatable : NodeResources) (calls : List Call) :
    (∀ earlier, earlier <+: calls →
      let r := run (empty allocatable) earlier
      r.ledger.snapshot.generation = admissions r.history + releases r.history ∧
      r.ledger.snapshot.live + releases r.history = admissions r.history ∧
      r.ledger.snapshot.generation ≤ earlier.length) ∧
    ∀ one other, one <+: calls → other <+: calls →
      (run (empty allocatable) one).ledger.snapshot.generation =
        (run (empty allocatable) other).ledger.snapshot.generation →
      (run (empty allocatable) one).ledger = (run (empty allocatable) other).ledger := by
  constructor
  · intro earlier _ r
    obtain ⟨hgeneration, hrecords, hcalls⟩ := run_tallied allocatable earlier
    refine ⟨hgeneration, ?_, ?_⟩
    · rw [← hrecords, records, Table.values, List.length_map]
      rfl
    · rw [← length_history_run (empty allocatable) earlier]
      exact hcalls
  · intro one other hone hother hgeneration
    -- Of two prefixes of one list, one is a prefix of the other.
    rcases List.prefix_or_prefix_of_prefix hone hother with hinitial | hinitial
    · exact eq_of_prefix_of_generation_eq _ hinitial hgeneration
    · exact (eq_of_prefix_of_generation_eq _ hinitial hgeneration.symm).symm

/-- A workload is admitted and asks again, one that does not fit and one that is not known follow,
and the ledger is still that of the first call; the release and the second admission count. -/
theorem run_generation_identifies_across_idle_calls :
    let offer : NodeResources := ⟨1000, 100, 0, 0, 2⟩
    let idle : List Call :=
      [.submit "a" ⟨600, 1, 0⟩ ⟨0, 0⟩, .submit "a" ⟨1, 1, 0⟩ ⟨1, 0⟩,
        .submit "b" ⟨600, 1, 0⟩ ⟨2, 0⟩, .release "c"]
    let calls := idle ++ [.release "a", .submit "a" ⟨1, 1, 0⟩ ⟨3, 0⟩]
    idle.take 1 <+: calls ∧ idle <+: calls ∧
      (run (empty offer) (idle.take 1)).ledger = (run (empty offer) idle).ledger ∧
      (run (empty offer) calls).ledger.snapshot.generation = 3 ∧
      1 + releases (run (empty offer) calls).history =
        admissions (run (empty offer) calls).history := by
  intro offer idle calls
  have hidentifies := run_generation_identifies offer calls
  have hall : idle <+: calls := ⟨_, rfl⟩
  have hfirst : idle.take 1 <+: calls := (List.take_prefix 1 idle).trans hall
  have hsame : (run (empty offer) (idle.take 1)).ledger.snapshot.generation =
      (run (empty offer) idle).ledger.snapshot.generation := by decide +kernel
  have hlive : (run (empty offer) calls).ledger.snapshot.live = 1 := by decide +kernel
  have hcount := (hidentifies.1 calls (List.prefix_refl calls)).2.1
  rw [hlive] at hcount
  exact ⟨hfirst, hall, hidentifies.2 _ _ hfirst hall hsame, by decide +kernel, hcount⟩

end NodeFleet.Ledger
