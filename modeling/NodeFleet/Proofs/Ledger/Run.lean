import NodeFleet.Ledger

/-!
# Runs of a ledger

A run is any sequence of calls to one ledger.  `Ledger.run` keeps, beside the ledger, the
calls with their answers; `liveRecord?` reads off them alone which workloads are live and
under which records.  What a ledger holds can so be compared with what it has answered.

`tryAdmit_cases` and `release_cases` say all that a call can do.  No proof about runs
opens the two functions again.
-/

namespace NodeFleet.Ledger

/-! ## What a call can do -/

/-- A dimension is named as short exactly if some dimension has no room. -/
theorem shortage?_eq_none_iff {l : Ledger} {request : ResourceRequest} :
    l.shortage? request = none ↔
      ∀ d, l.used.amount d + request.amount d ≤ l.allocatable.amount d := by
  simp only [shortage?, List.find?_eq_none, fits, Bool.not_eq_true', decide_eq_false_iff_not,
    Decidable.not_not]
  exact ⟨fun h d => h d (Resource.mem_tracked d), fun h d _ => h d⟩

/-- An admission finds the workload live, finds a dimension short, or puts the workload in. -/
theorem tryAdmit_cases (l : Ledger) (workload : String) (request : ResourceRequest)
    (now : Timestamp) :
    (∃ record, l.entries.find? workload = some record ∧
      l.tryAdmit workload request now = (.admitted record, l)) ∨
    (∃ d, l.entries.find? workload = none ∧ l.shortage? request = some d ∧
      l.tryAdmit workload request now =
        (.rejected (.insufficient d (request.amount d) (l.used.amount d)
          (l.allocatable.amount d)), l)) ∨
    (l.entries.find? workload = none ∧ l.shortage? request = none ∧
      l.tryAdmit workload request now =
        (.admitted ⟨workload, request, now⟩, l.put ⟨workload, request, now⟩)) := by
  unfold tryAdmit
  cases hfind : l.entries.find? workload with
  | some record => exact .inl ⟨record, rfl, rfl⟩
  | none =>
      cases hshort : l.shortage? request with
      | some d => exact .inr (.inl ⟨d, rfl, rfl, rfl⟩)
      | none => exact .inr (.inr ⟨rfl, rfl, rfl⟩)

/-- The ledger without the workload of a live record; the counterpart of `Ledger.put`. -/
def takeOut (l : Ledger) (workload : String) (record : AdmissionRecord) : Ledger :=
  { l with
    entries := l.entries.erase workload
    used := l.used.subtract record.requested
    generation := l.generation + 1 }

/-- A release finds no such workload, or finds it live and takes it out. -/
theorem release_cases (l : Ledger) (workload : String) :
    (l.entries.find? workload = none ∧ l.release workload = (false, l)) ∨
    (∃ record, l.entries.find? workload = some record ∧
      l.release workload = (true, l.takeOut workload record)) := by
  unfold release
  cases hfind : l.entries.find? workload with
  | none => exact .inl ⟨rfl, rfl⟩
  | some record => exact .inr ⟨record, rfl, rfl⟩

/-! ## Runs -/

inductive Call where
  | submit (workload : String) (request : ResourceRequest) (now : Timestamp)
  | release (workload : String)

/-- What a call is answered with. -/
inductive Answer where
  /-- Whether a workload was admitted. -/
  | decided (decision : AdmissionDecision)
  /-- Whether a workload was live when it was released. -/
  | released (wasLive : Bool)

def answer (l : Ledger) : Call → Answer × Ledger
  | .submit workload request now =>
      let (decision, l) := l.tryAdmit workload request now
      (.decided decision, l)
  | .release workload =>
      let (wasLive, l) := l.release workload
      (.released wasLive, l)

/-- A ledger with the calls that it has answered, the last first. -/
structure Recorded where
  ledger : Ledger
  history : List (Call × Answer)

/-- Answers a call and writes it down. -/
def Recorded.answer (r : Recorded) (call : Call) : Recorded :=
  let (answer, ledger) := r.ledger.answer call
  { ledger, history := (call, answer) :: r.history }

/-- Answers calls one after the other. -/
def run (l : Ledger) (calls : List Call) : Recorded :=
  calls.foldl Recorded.answer { ledger := l, history := [] }

theorem run_concat (l : Ledger) (calls : List Call) (call : Call) :
    run l (calls ++ [call]) = (run l calls).answer call := by
  simp [run]

/-- The record under which a workload is live after a history: the one that it was last admitted
under, unless it was released since. -/
def liveRecord? (workload : String) : List (Call × Answer) → Option AdmissionRecord
  | [] => none
  | (.submit name _ _, .decided (.admitted record)) :: earlier =>
      if name = workload then some record else liveRecord? workload earlier
  | (.release name, _) :: earlier =>
      if name = workload then none else liveRecord? workload earlier
  | _ :: earlier => liveRecord? workload earlier

end NodeFleet.Ledger
