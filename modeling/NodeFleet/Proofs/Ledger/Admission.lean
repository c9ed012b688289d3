import NodeFleet.Proofs.Ledger.Accounts

/-!
# What an admission decides

The check of an admission walks the dimensions in their order and stops at the first
without room; the ledger it leaves differs only if no dimension stopped it.  Here the
decision is stated by what is live and by the sums over the live records, as a reader of
the answers sees them: `tryAdmit_live` for a workload that is live, `tryAdmit_short` for
one that does not fit and `tryAdmit_new` for one that does.

`Balanced` enters in two places.  The sum that the check adds to is the true one, so an
answer quotes true quantities; and a record is found under its workload exactly if it is
one of the records.
-/

namespace NodeFleet.Ledger

/-! ## The first dimension without room -/

/-- The dimension named as short has no room, and all those checked before it have. -/
theorem shortage?_eq_some_iff {l : Ledger} {request : ResourceRequest} {d : Resource} :
    l.shortage? request = some d ↔
      ¬ l.used.amount d + request.amount d ≤ l.allocatable.amount d ∧
        ∃ before after, Resource.tracked = before ++ d :: after ∧
          ∀ e ∈ before, l.used.amount e + request.amount e ≤ l.allocatable.amount e := by
  simp only [shortage?, List.find?_eq_some_iff_append, fits, Bool.not_eq_true',
    decide_eq_false_iff_not, Bool.not_not, decide_eq_true_eq]

theorem exists_shortage {l : Ledger} {request : ResourceRequest}
    (h : ¬ ∀ d, l.used.amount d + request.amount d ≤ l.allocatable.amount d) :
    ∃ d, l.shortage? request = some d := by
  rw [← shortage?_eq_none_iff] at h
  exact Option.ne_none_iff_exists'.1 h

/-! ## The three answers -/

theorem Balanced.tryAdmit_live {l : Ledger} (h : Balanced l) {record : AdmissionRecord}
    (hlive : record ∈ l.records) (request : ResourceRequest) (now : Timestamp) :
    l.tryAdmit record.workload request now = (.admitted record, l) := by
  rw [tryAdmit, h.mem_records_iff.1 hlive]

theorem tryAdmit_short {l : Ledger} {workload : String} {request : ResourceRequest}
    {d : Resource} (hnew : l.entries.find? workload = none)
    (hshort : l.shortage? request = some d) (now : Timestamp) :
    l.tryAdmit workload request now =
      (.rejected (.insufficient d (request.amount d) (l.used.amount d)
        (l.allocatable.amount d)), l) := by
  simp only [tryAdmit, hnew, hshort]

theorem tryAdmit_new {l : Ledger} {workload : String} {request : ResourceRequest}
    (hnew : l.entries.find? workload = none) (hroom : l.shortage? request = none)
    (now : Timestamp) :
    l.tryAdmit workload request now =
      (.admitted ⟨workload, request, now⟩, l.put ⟨workload, request, now⟩) := by
  simp only [tryAdmit, hnew, hroom]

/-- One ledger is another with one more record: what the record asks for comes on top of what was
used, and the change is counted. -/
structure Admits (before : Ledger) (record : AdmissionRecord) (after : Ledger) : Prop where
  records : after.records.Perm (record :: before.records)
  used : ∀ d, after.used.amount d = before.used.amount d + record.requested.amount d
  generation : after.generation = before.generation + 1
  allocatable : after.allocatable = before.allocatable

theorem admits_put {l : Ledger} {record : AdmissionRecord}
    (hnew : l.entries.find? record.workload = none) : l.Admits record (l.put record) where
  records := (Table.insert_perm hnew record).map Prod.snd
  used := ResourceUsage.amount_add _ _
  generation := rfl
  allocatable := rfl

/-- After any run, a workload is admitted under a new record of its request exactly if it is not
live and its request, on top of what the live records take, stays within the offer in all four
dimensions.  A live workload is answered with its record and nothing changes, whatever is asked
for.  Any other workload is refused: the answer names the first dimension that does not suffice
and quotes what is asked for, taken and offered there, and nothing changes.  Guarded sums in words
decide the same. -/
theorem run_tryAdmit_decides (allocatable : NodeResources)
    (hwords : ∀ d, allocatable.amount d < 2 ^ 64) (calls : List Call) (workload : String)
    (request : ResourceRequest) (now : Timestamp) :
    let l := (run (empty allocatable) calls).ledger
    let taken (d : Resource) := (l.records.map fun record => record.requested.amount d).sum
    let room (d : Resource) := taken d + request.amount d ≤ allocatable.amount d
    ((∃ after, l.tryAdmit workload request now = (.admitted ⟨workload, request, now⟩, after) ∧
        l.Admits ⟨workload, request, now⟩ after) ↔
      (∀ record ∈ l.records, record.workload ≠ workload) ∧ ∀ d, room d) ∧
    (∀ record ∈ l.records, record.workload = workload →
      l.tryAdmit workload request now = (.admitted record, l)) ∧
    ((∀ record ∈ l.records, record.workload ≠ workload) → (¬ ∀ d, room d) →
      ∃ d before after, [.cpu, .memory, .gpu, .pods] = before ++ d :: after ∧
        (∀ e ∈ before, room e) ∧ ¬ room d ∧
        l.tryAdmit workload request now =
          (.rejected (.insufficient d (request.amount d) (taken d) (allocatable.amount d)), l)) ∧
    l.IsExactFor (.submit workload request now) := by
  intro l taken room
  obtain ⟨hbalanced, -, hoffer⟩ := run_balanced allocatable calls
  have hroom (d : Resource) :
      room d ↔ l.used.amount d + request.amount d ≤ l.allocatable.amount d := by
    rw [hbalanced.total d, hoffer]
    rfl
  have hlive (record : AdmissionRecord) (hrecord : record ∈ l.records)
      (hname : record.workload = workload) :
      l.tryAdmit workload request now = (.admitted record, l) :=
    hname ▸ hbalanced.tryAdmit_live hrecord request now
  have hrefused (hdead : ∀ record ∈ l.records, record.workload ≠ workload)
      (hfull : ¬ ∀ d, room d) :
      ∃ d before after, [.cpu, .memory, .gpu, .pods] = before ++ d :: after ∧
        (∀ e ∈ before, room e) ∧ ¬ room d ∧
        l.tryAdmit workload request now =
          (.rejected (.insufficient d (request.amount d) (taken d) (allocatable.amount d)),
            l) := by
    simp only [hroom] at hfull ⊢
    obtain ⟨d, hshort⟩ := exists_shortage hfull
    obtain ⟨hover, before, after, horder, hbefore⟩ := shortage?_eq_some_iff.1 hshort
    refine ⟨d, before, after, horder, hbefore, hover, ?_⟩
    rw [tryAdmit_short (hbalanced.find?_eq_none_iff.2 hdead) hshort now, hbalanced.total d,
      hoffer]
    rfl
  refine ⟨⟨?_, ?_⟩, hlive, hrefused, hbalanced.isExactFor (by rwa [hoffer]) _⟩
  · rintro ⟨after, hanswer, hadmits⟩
    have hdead : ∀ record ∈ l.records, record.workload ≠ workload := by
      -- The answer to a live workload would leave the generation as it was.
      intro record hrecord hname
      rw [hlive record hrecord hname] at hanswer
      obtain rfl : l = after := (Prod.mk.inj hanswer).2
      exact absurd hadmits.generation (Nat.succ_ne_self _).symm
    refine ⟨hdead, ?_⟩
    by_contra hfull
    obtain ⟨d, _, _, _, _, _, hrejected⟩ := hrefused hdead hfull
    rw [hrejected] at hanswer
    exact nomatch hanswer
  · rintro ⟨hdead, hfits⟩
    have hnew := hbalanced.find?_eq_none_iff.2 hdead
    have hshort := shortage?_eq_none_iff.2 fun d => (hroom d).1 (hfits d)
    exact ⟨_, tryAdmit_new hnew hshort now, admits_put hnew⟩

/-- With one byte taken, a request for all memory that words can express goes beyond them; there
is no graphics processor and no second pod either, and memory is what the answer names. -/
theorem run_tryAdmit_decides_beyond_words :
    let offer : NodeResources := ⟨4000, 2 ^ 64 - 1, 0, 0, 1⟩
    let l := (run (empty offer) [.submit "a" ⟨4000, 1, 0⟩ ⟨0, 0⟩]).ledger
    let request : ResourceRequest := ⟨0, 2 ^ 64 - 1, 1⟩
    (∀ d, offer.amount d < 2 ^ 64) ∧
      l.tryAdmit "b" request ⟨1, 0⟩ =
        (.rejected (.insufficient .memory (2 ^ 64 - 1) 1 (2 ^ 64 - 1)), l) ∧
      l.IsExactFor (.submit "b" request ⟨1, 0⟩) := by
  intro offer l request
  have hwords : ∀ d, offer.amount d < 2 ^ 64 := by
    intro d
    cases d <;> simp [offer, NodeResources.amount]
  have hdecides :=
    run_tryAdmit_decides offer hwords [.submit "a" ⟨4000, 1, 0⟩ ⟨0, 0⟩] "b" request ⟨1, 0⟩
  exact ⟨hwords, by decide +kernel, hdecides.2.2.2⟩

end NodeFleet.Ledger
