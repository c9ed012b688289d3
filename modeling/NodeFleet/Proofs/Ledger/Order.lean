import Mathlib.Data.List.Sort
import NodeFleet.Proofs.Ledger.Admission

/-!
# The order of admissions and releases

Clients that share a ledger do not agree on an order.  If all that they ask for fits
together, none is needed: what fits in the end fits at every point on the way, in
whatever order one gets there, so every workload is admitted (`Balanced.admitsAll`).  And
if all that they release is live, it is live until it is released
(`Balanced.releasesAll`).

In both cases the records at the end are those of the list and not of its order, up to
the times of the admissions.  As the records of a ledger are sorted and its sums are
those over the records, nothing else can differ (`Balanced.eq_of_records_eq`).
-/

namespace NodeFleet

/-- What is placed by an admission, whenever it is made. -/
def AdmissionRecord.placement (record : AdmissionRecord) : String × ResourceRequest :=
  (record.workload, record.requested)

namespace Ledger

/-- The call that asks for a record. -/
def submission (record : AdmissionRecord) : Call :=
  .submit record.workload record.requested record.admittedAt

variable {l middle later : Ledger}

/-! ## Ledgers with the same records -/

theorem Balanced.entries_eq (h : Balanced l) :
    l.entries = l.records.map fun record => (record.workload, record) := by
  have hown : ∀ entry ∈ l.entries, entry = (entry.2.workload, entry.2) := fun entry hentry => by
    rw [h.named entry hentry]
  calc l.entries
      = l.entries.map fun entry => (entry.2.workload, entry.2) :=
        (List.map_id l.entries).symm.trans (List.map_congr_left hown)
    _ = l.records.map fun record => (record.workload, record) := by
        rw [records, Table.values, List.map_map]
        rfl

/-- A balanced ledger is determined by its records, its offer and its generation. -/
theorem Balanced.eq_of_records_eq (h : Balanced l) (hlater : Balanced later)
    (hrecords : l.records = later.records) (hoffer : l.allocatable = later.allocatable)
    (hgeneration : l.generation = later.generation) : l = later := by
  have hentries : l.entries = later.entries := by
    rw [h.entries_eq, hlater.entries_eq, hrecords]
  have hused : l.used = later.used := ResourceUsage.ext_amount fun d => by
    rw [h.total d, hlater.total d, demand, demand, hrecords]
  cases l
  cases later
  simp_all

/-- The records of two balanced ledgers that hold the same placements are listed alike. -/
theorem Balanced.placements_eq (h : Balanced l) (hlater : Balanced later)
    (hperm : (l.records.map AdmissionRecord.placement).Perm
      (later.records.map AdmissionRecord.placement)) :
    l.records.map AdmissionRecord.placement = later.records.map AdmissionRecord.placement := by
  have hsorted {l : Ledger} (h : Balanced l) :
      (l.records.map AdmissionRecord.placement).Pairwise fun a b => a.1 < b.1 :=
    List.pairwise_map.2 h.records_pairwise
  exact hperm.eq_of_pairwise (fun a b _ _ hlt hgt => absurd hgt hlt.asymm) (hsorted h)
    (hsorted hlater)

theorem sum_requested_congr {records other : List AdmissionRecord}
    (hperm : (records.map AdmissionRecord.placement).Perm (other.map AdmissionRecord.placement))
    (d : Resource) :
    (records.map fun record => record.requested.amount d).sum =
      (other.map fun record => record.requested.amount d).sum := by
  have hsum := (hperm.map fun placement => placement.2.amount d).sum_nat
  rwa [List.map_map, List.map_map] at hsum

/-! ## Admissions -/

/-- There is room for records all at once, under ids of their own that are not live. -/
structure Accommodates (l : Ledger) (records : List AdmissionRecord) : Prop where
  nodup : (records.map AdmissionRecord.workload).Nodup
  dead : ∀ record ∈ records, ∀ live ∈ l.records, live.workload ≠ record.workload
  room : ∀ d, l.used.amount d + (records.map fun record => record.requested.amount d).sum ≤
    l.allocatable.amount d

/-- One ledger is another with more records, each of them one change. -/
structure AdmitsAll (before : Ledger) (added : List AdmissionRecord) (after : Ledger) :
    Prop where
  records : after.records.Perm (added ++ before.records)
  used : ∀ d, after.used.amount d =
    before.used.amount d + (added.map fun record => record.requested.amount d).sum
  generation : after.generation = before.generation + added.length
  allocatable : after.allocatable = before.allocatable

theorem Accommodates.congr {records other : List AdmissionRecord} (h : l.Accommodates records)
    (hperm : (records.map AdmissionRecord.placement).Perm
      (other.map AdmissionRecord.placement)) : l.Accommodates other := by
  have hnames : (records.map AdmissionRecord.workload).Perm
      (other.map AdmissionRecord.workload) := by
    have hfirst := hperm.map Prod.fst
    rwa [List.map_map, List.map_map] at hfirst
  refine ⟨hnames.nodup_iff.1 h.nodup, fun record hrecord live hlive hname => ?_, fun d => ?_⟩
  · obtain ⟨same, hsame, hequal⟩ :=
      List.mem_map.1 (hnames.mem_iff.2 (List.mem_map_of_mem hrecord))
    exact h.dead same hsame live hlive (hname.trans hequal.symm)
  · rw [← sum_requested_congr hperm d]
    exact h.room d

/-- What has room all at once has room without the last. -/
theorem Accommodates.of_concat {records : List AdmissionRecord} {record : AdmissionRecord}
    (h : l.Accommodates (records ++ [record])) : l.Accommodates records := by
  refine ⟨?_, fun other hother => h.dead other (List.mem_append_left _ hother), fun d => ?_⟩
  · have hnodup := h.nodup
    rw [List.map_append] at hnodup
    exact (List.nodup_append.1 hnodup).1
  · have hroom := h.room d
    rw [List.map_append, List.sum_append] at hroom
    omega

theorem AdmitsAll.concat {records : List AdmissionRecord} {record : AdmissionRecord}
    (h : l.AdmitsAll records middle) (hlast : middle.Admits record later) :
    l.AdmitsAll (records ++ [record]) later where
  records := by
    rw [List.append_assoc]
    exact hlast.records.trans ((h.records.cons record).trans List.perm_middle.symm)
  used d := by
    rw [hlast.used d, h.used d, List.map_append, List.sum_append, List.map_singleton,
      List.sum_singleton, Nat.add_assoc]
  generation := by
    rw [hlast.generation, h.generation, List.length_append]
    rfl
  allocatable := hlast.allocatable.trans h.allocatable

/-- A ledger that has room for records all at once admits them one after the other. -/
theorem Balanced.admitsAll (h : Balanced l) {records : List AdmissionRecord}
    (hroom : l.Accommodates records) :
    Balanced (run l (records.map submission)).ledger ∧
      l.AdmitsAll records (run l (records.map submission)).ledger ∧
      (run l (records.map submission)).history =
        (records.map fun record => (submission record, .decided (.admitted record))).reverse := by
  induction records using List.reverseRecOn with
  | nil => exact ⟨h, ⟨.refl _, fun _ => rfl, rfl, rfl⟩, rfl⟩
  | append_singleton records record ih =>
      obtain ⟨hbalanced, hadmits, hhistory⟩ := ih hroom.of_concat
      rw [List.map_append, List.map_singleton, run_concat]
      -- The record is neither one of those before it nor live from the beginning.
      have hnew : (run l (records.map submission)).ledger.entries.find? record.workload =
          none := by
        refine hbalanced.find?_eq_none_iff.2 fun live hlive hname => ?_
        rcases List.mem_append.1 (hadmits.records.mem_iff.1 hlive) with hearlier | hold
        · have hnodup := hroom.nodup
          rw [List.map_append] at hnodup
          exact (List.nodup_append.1 hnodup).2.2 _ (List.mem_map_of_mem hearlier) _
            (List.mem_singleton_self _) hname
        · exact hroom.dead record (List.mem_append_right _ (List.mem_singleton_self _)) live
            hold hname
      have hshort : (run l (records.map submission)).ledger.shortage? record.requested =
          none := by
        refine shortage?_eq_none_iff.2 fun d => ?_
        have hall := hroom.room d
        rw [List.map_append, List.sum_append, List.map_singleton, List.sum_singleton] at hall
        rw [hadmits.used d, hadmits.allocatable, Nat.add_assoc]
        exact hall
      have hanswer : (run l (records.map submission)).answer (submission record) =
          { ledger := (run l (records.map submission)).ledger.put record
            history := (submission record, .decided (.admitted record)) ::
              (run l (records.map submission)).history } := by
        rw [Recorded.answer, submission, Ledger.answer, tryAdmit_new hnew hshort]
      rw [hanswer]
      refine ⟨hbalanced.put hnew hshort, hadmits.concat (admits_put hnew), ?_⟩
      rw [hhistory, List.map_append, List.reverse_append]
      rfl

/-! ## Releases -/

/-- One ledger is another without some workloads that were live, each of them one change. -/
structure ReleasesAll (before : Ledger) (workloads : List String) (after : Ledger) : Prop where
  records : after.records = before.records.filter fun record => record.workload ∉ workloads
  generation : after.generation = before.generation + workloads.length
  allocatable : after.allocatable = before.allocatable

theorem ReleasesAll.concat {workloads : List String} {workload : String}
    (h : l.ReleasesAll workloads middle) (hlast : middle.Releases workload later)
    (hlive : ∃ record ∈ middle.records, record.workload = workload) :
    l.ReleasesAll (workloads ++ [workload]) later where
  records := by
    rw [hlast.records, h.records, List.filter_filter]
    refine List.filter_congr fun record _ => ?_
    simp only [List.mem_append, List.mem_singleton, not_or, ← Bool.decide_and]
    exact decide_eq_decide.2 And.comm
  generation := by
    rw [hlast.live hlive, h.generation, List.length_append]
    rfl
  allocatable := hlast.allocatable.trans h.allocatable

theorem Balanced.release_live (h : Balanced l) {workload : String}
    (hlive : ∃ record ∈ l.records, record.workload = workload) :
    (l.release workload).1 = true := by
  rcases release_cases l workload with ⟨hdead, -⟩ | ⟨record, -, heq⟩
  · obtain ⟨record, hrecord, hname⟩ := hlive
    exact absurd hname (h.find?_eq_none_iff.1 hdead record hrecord)
  · rw [heq]

/-- A ledger releases live workloads one after the other. -/
theorem Balanced.releasesAll (h : Balanced l) {workloads : List String}
    (hnodup : workloads.Nodup)
    (hlive : ∀ workload ∈ workloads, ∃ record ∈ l.records, record.workload = workload) :
    Balanced (run l (workloads.map .release)).ledger ∧
      l.ReleasesAll workloads (run l (workloads.map .release)).ledger ∧
      (run l (workloads.map .release)).history =
        (workloads.map fun workload => (.release workload, .released true)).reverse := by
  induction workloads using List.reverseRecOn with
  | nil =>
      refine ⟨h, ⟨?_, rfl, rfl⟩, rfl⟩
      exact (List.filter_eq_self.2 fun record _ => by simp).symm
  | append_singleton workloads workload ih =>
      obtain ⟨hearlier, -, hother⟩ := List.nodup_append.1 hnodup
      obtain ⟨hbalanced, hreleases, hhistory⟩ :=
        ih hearlier fun name hname => hlive name (List.mem_append_left _ hname)
      rw [List.map_append, List.map_singleton, run_concat]
      -- None of the releases before was of this workload, so its record is still there.
      have hstill : ∃ record ∈ (run l (workloads.map .release)).ledger.records,
          record.workload = workload := by
        obtain ⟨record, hrecord, rfl⟩ :=
          hlive workload (List.mem_append_right _ (List.mem_singleton_self _))
        refine ⟨record, ?_, rfl⟩
        rw [hreleases.records, List.mem_filter, decide_eq_true_iff]
        exact ⟨hrecord, fun hmem => hother _ hmem _ (List.mem_singleton_self _) rfl⟩
      refine ⟨hbalanced.answer (.release workload),
        hreleases.concat (hbalanced.releases_release workload) hstill, ?_⟩
      have hanswer : ((run l (workloads.map .release)).answer (.release workload)).history =
          (.release workload, .released ((run l (workloads.map .release)).ledger.release
            workload).1) :: (run l (workloads.map .release)).history := rfl
      rw [hanswer, hbalanced.release_live hstill, hhistory, List.map_append, List.reverse_append]
      rfl

/-! ## Any order -/

/-- The order of admissions and of releases does not matter.  In any reachable ledger that has
room for some records all at once, the calls that ask for them, in any order and at any times, are
all answered with admissions, and at the end there are the same records but for their times, the
same usage and the same generation.  Live workloads that are released in any order are all found
live and leave one and the same ledger; and once all are released, nothing is used. -/
theorem order_immaterial (allocatable : NodeResources) (calls : List Call) :
    let l := (run (empty allocatable) calls).ledger
    (∀ records other, l.Accommodates records →
      (records.map AdmissionRecord.placement).Perm (other.map AdmissionRecord.placement) →
      let one := run l (records.map submission)
      let another := run l (other.map submission)
      another.history =
        (other.map fun record => (submission record, .decided (.admitted record))).reverse ∧
      l.AdmitsAll other another.ledger ∧
      another.ledger.records.map AdmissionRecord.placement =
        one.ledger.records.map AdmissionRecord.placement ∧
      another.ledger.used = one.ledger.used ∧
      another.ledger.generation = one.ledger.generation) ∧
    (∀ workloads other : List String, workloads.Nodup →
      (∀ workload ∈ workloads, ∃ record ∈ l.records, record.workload = workload) →
      workloads.Perm other →
      (run l (other.map .release)).history =
        (other.map fun workload => (.release workload, .released true)).reverse ∧
      l.ReleasesAll other (run l (other.map .release)).ledger ∧
      (run l (other.map .release)).ledger = (run l (workloads.map .release)).ledger) ∧
    ∀ workloads : List String, workloads.Perm (l.records.map AdmissionRecord.workload) →
      (run l (workloads.map .release)).ledger.records = [] ∧
      (run l (workloads.map .release)).ledger.used = .zero := by
  intro l
  obtain ⟨hl, -, -⟩ := run_balanced allocatable calls
  refine ⟨?_, ?_, ?_⟩
  · intro records other hroom hperm one another
    obtain ⟨hone, hfirst, -⟩ := hl.admitsAll hroom
    obtain ⟨hanother, hsecond, hhistory⟩ := hl.admitsAll (hroom.congr hperm)
    have hplacements : (another.ledger.records.map AdmissionRecord.placement).Perm
        (one.ledger.records.map AdmissionRecord.placement) := by
      have hadded := hperm.symm.append_right (l.records.map AdmissionRecord.placement)
      rw [← List.map_append, ← List.map_append] at hadded
      exact (hsecond.records.map _).trans (hadded.trans (hfirst.records.map _).symm)
    refine ⟨hhistory, hsecond, hanother.placements_eq hone hplacements, ?_, ?_⟩
    · refine ResourceUsage.ext_amount fun d => ?_
      rw [hsecond.used d, hfirst.used d, sum_requested_congr hperm d]
    · have hlength := hperm.length_eq
      rw [List.length_map, List.length_map] at hlength
      rw [hsecond.generation, hfirst.generation, hlength]
  · intro workloads other hnodup hlive hperm
    obtain ⟨hone, hfirst, -⟩ := hl.releasesAll hnodup hlive
    obtain ⟨hanother, hsecond, hhistory⟩ :=
      hl.releasesAll (hperm.nodup_iff.1 hnodup) fun workload hmem =>
        hlive workload (hperm.mem_iff.2 hmem)
    refine ⟨hhistory, hsecond, hanother.eq_of_records_eq hone ?_ ?_ ?_⟩
    · rw [hsecond.records, hfirst.records]
      exact List.filter_congr fun record _ => decide_eq_decide.2 (not_congr hperm.symm.mem_iff)
    · rw [hsecond.allocatable, hfirst.allocatable]
    · rw [hsecond.generation, hfirst.generation, hperm.length_eq]
  · intro workloads hperm
    have hnodup : (l.records.map AdmissionRecord.workload).Nodup :=
      List.pairwise_map.2 (hl.records_pairwise.imp fun hlt => hlt.ne)
    obtain ⟨hempty, hall, -⟩ := hl.releasesAll (hperm.nodup_iff.2 hnodup) fun workload hmem =>
      List.mem_map.1 (hperm.mem_iff.1 hmem)
    have hrecords : (run l (workloads.map .release)).ledger.records = [] := by
      rw [hall.records, List.filter_eq_nil_iff]
      intro record hrecord
      simpa using hperm.mem_iff.2 (List.mem_map_of_mem hrecord)
    refine ⟨hrecords, ResourceUsage.ext_amount fun d => ?_⟩
    rw [hempty.total d, demand, hrecords]
    cases d <;> rfl

/-- Two workloads fill what a third has left, in either order; and nothing is used when the third,
alone, is released. -/
theorem order_immaterial_filling_the_offer :
    let offer : NodeResources := ⟨1000, 100, 1, 0, 3⟩
    let calls : List Call := [.submit "c" ⟨100, 10, 0⟩ ⟨0, 0⟩]
    let records : List AdmissionRecord :=
      [⟨"b", ⟨500, 40, 1⟩, ⟨1, 0⟩⟩, ⟨"d", ⟨400, 50, 0⟩, ⟨2, 0⟩⟩]
    let other : List AdmissionRecord :=
      [⟨"d", ⟨400, 50, 0⟩, ⟨1, 0⟩⟩, ⟨"b", ⟨500, 40, 1⟩, ⟨2, 0⟩⟩]
    (run (empty offer) calls).ledger.Accommodates records ∧
      (records.map AdmissionRecord.placement).Perm (other.map AdmissionRecord.placement) ∧
      (run (run (empty offer) calls).ledger (records.map submission)).ledger.used =
        ⟨1000, 100, 1, 3⟩ ∧
      (run (run (empty offer) calls).ledger (other.map submission)).ledger.used =
        (run (run (empty offer) calls).ledger (records.map submission)).ledger.used ∧
      (run (run (empty offer) calls).ledger (["c"].map .release)).ledger.used = .zero := by
  intro offer calls records other
  have hroom : (run (empty offer) calls).ledger.Accommodates records := by
    refine ⟨by decide, by decide +kernel, fun d => ?_⟩
    cases d <;> decide +kernel
  have hperm : (records.map AdmissionRecord.placement).Perm
      (other.map AdmissionRecord.placement) := .swap _ _ _
  have hlive : ["c"] = (run (empty offer) calls).ledger.records.map AdmissionRecord.workload := by
    decide +kernel
  obtain ⟨hadmissions, -, hreleases⟩ := order_immaterial offer calls
  obtain ⟨-, -, -, hused, -⟩ := hadmissions records other hroom hperm
  exact ⟨hroom, hperm, by decide +kernel, hused, (hreleases ["c"] (.of_eq hlive)).2⟩

end Ledger

end NodeFleet
