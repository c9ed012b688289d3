import Mathlib.Data.List.Induction
import Mathlib.Data.List.Perm.Basic
import Mathlib.Tactic.SplitIfs
import NodeFleet.Health
import NodeFleet.Proofs.Table.Sorted

/-!
# The overall status

The overall status is the worst of the components' statuses, and to find it one need not look
at all of them: `HealthRegistry.scan` goes through them in any order, returns at the first
one that is unhealthy, and remembers otherwise whether one was degraded.

Both are decided by which statuses there are (`worst_eq`, `scan_eq`), so neither the order of
the components nor that of the updates matters.  `IsOverall` says of a status that it is the
worst by what is known of each name last.
-/

namespace NodeFleet

namespace HealthStatus

/-- How bad a status is. -/
def rank : HealthStatus → Nat
  | .healthy => 0
  | .degraded => 1
  | .unhealthy => 2

theorem eq_of_rank_eq {a b : HealthStatus} (h : a.rank = b.rank) : a = b := by
  cases a <;> cases b <;> first | rfl | exact nomatch h

/-- The worst of a list is decided by which statuses are on it. -/
theorem worst_eq (statuses : List HealthStatus) :
    worst statuses =
      if .unhealthy ∈ statuses then .unhealthy
      else if .degraded ∈ statuses then .degraded
      else .healthy := by
  -- The fold is at the worst of what it has passed.
  have hfold (first : HealthStatus) : statuses.foldl worse first =
      if .unhealthy ∈ first :: statuses then .unhealthy
      else if .degraded ∈ first :: statuses then .degraded
      else .healthy := by
    induction statuses generalizing first with
    | nil => cases first <;> rfl
    | cons next rest ih =>
        rw [List.foldl_cons, ih]
        cases first <;> cases next <;> simp [worse]
  rw [worst, hfold]
  simp

theorem rank_le_worst {status : HealthStatus} {statuses : List HealthStatus}
    (hmem : status ∈ statuses) : status.rank ≤ (worst statuses).rank := by
  rw [worst_eq]
  cases status with
  | healthy => exact Nat.zero_le _
  | degraded =>
      split_ifs
      · exact Nat.le_succ 1
      · exact Nat.le_refl 1
  | unhealthy =>
      rw [if_pos hmem]

theorem worst_mem {statuses : List HealthStatus} (hne : statuses ≠ []) :
    worst statuses ∈ statuses := by
  rw [worst_eq]
  split_ifs with hunhealthy hdegraded
  · exact hunhealthy
  · exact hdegraded
  · obtain ⟨status, rest, rfl⟩ := List.exists_cons_of_ne_nil hne
    cases status with
    | healthy => exact List.mem_cons_self
    | degraded => exact absurd List.mem_cons_self hdegraded
    | unhealthy => exact absurd List.mem_cons_self hunhealthy

end HealthStatus

namespace HealthRegistry

/-- Looks through components for the worst status; `hasDegraded` tells whether one was degraded
before. -/
def scan (hasDegraded : Bool) : List ComponentHealth → HealthStatus
  | [] => if hasDegraded then .degraded else .healthy
  | health :: rest =>
      match health.status with
      | .unhealthy => .unhealthy
      | .degraded => scan true rest
      | .healthy => scan hasDegraded rest

theorem scan_eq (hasDegraded : Bool) (components : List ComponentHealth) :
    scan hasDegraded components =
      if .unhealthy ∈ components.map ComponentHealth.status then .unhealthy
      else if hasDegraded = true ∨ .degraded ∈ components.map ComponentHealth.status then .degraded
      else .healthy := by
  induction components generalizing hasDegraded with
  | nil => simp [scan]
  | cons health rest ih =>
      cases hstatus : health.status with
      | unhealthy => simp [scan, hstatus]
      | degraded => simp [scan, hstatus, ih]
      | healthy => simp [scan, hstatus, ih]

/-- The components may be looked through in any order. -/
theorem scan_eq_overall {components : Table ComponentHealth} {order : List ComponentHealth}
    (horder : order.Perm components.values) : scan false order = overall components := by
  have hstatuses := horder.map ComponentHealth.status
  rw [scan_eq, overall, HealthStatus.worst_eq]
  simp only [hstatuses.mem_iff, Bool.false_eq_true, false_or]

/-! ## What is known of each name -/

/-- A status is the worst of those of all names, by what is known of each; with nothing known it
is `healthy`. -/
structure IsOverall (known : String → Option ComponentHealth) (status : HealthStatus) : Prop where
  bound : ∀ name health, known name = some health → health.status.rank ≤ status.rank
  attained : (∃ name health, known name = some health ∧ health.status = status) ∨
    (∀ name, known name = none) ∧ status = .healthy

theorem IsOverall.unique {known : String → Option ComponentHealth} {status other : HealthStatus}
    (h : IsOverall known status) (hother : IsOverall known other) : status = other := by
  -- Each is attained, or nothing is known, and so neither is worse than the other.
  have hle {a b : HealthStatus} (ha : IsOverall known a) (hb : IsOverall known b) :
      a.rank ≤ b.rank := by
    rcases ha.attained with ⟨name, health, hknown, rfl⟩ | ⟨-, rfl⟩
    · exact hb.bound name health hknown
    · exact Nat.zero_le _
  exact HealthStatus.eq_of_rank_eq (Nat.le_antisymm (hle h hother) (hle hother h))

theorem mem_statuses_iff {components : Table ComponentHealth} (hsorted : components.Sorted)
    {status : HealthStatus} :
    status ∈ components.values.map ComponentHealth.status ↔
      ∃ name health, components.find? name = some health ∧ health.status = status := by
  constructor
  · intro hmem
    obtain ⟨health, hhealth, rfl⟩ := List.mem_map.1 hmem
    obtain ⟨⟨name, health⟩, hentry, rfl⟩ := List.mem_map.1 hhealth
    exact ⟨name, health, hsorted.find?_eq_some_iff.2 hentry, rfl⟩
  · rintro ⟨name, health, hfind, rfl⟩
    exact List.mem_map_of_mem (List.mem_map_of_mem (Table.mem_of_find? hfind))

theorem isOverall_overall {components : Table ComponentHealth} (hsorted : components.Sorted) :
    IsOverall (fun name => components.find? name) (overall components) := by
  refine ⟨fun name health hfind => ?_, ?_⟩
  · exact HealthStatus.rank_le_worst ((mem_statuses_iff hsorted).2 ⟨name, health, hfind, rfl⟩)
  · by_cases hnil : components = []
    · subst hnil
      exact .inr ⟨fun _ => rfl, rfl⟩
    · refine .inl ((mem_statuses_iff hsorted).1 (HealthStatus.worst_mem ?_))
      simpa [Table.values] using hnil

theorem overall_eq_unhealthy_iff {components : Table ComponentHealth}
    (hsorted : components.Sorted) :
    overall components = .unhealthy ↔
      ∃ name health, components.find? name = some health ∧ health.status = .unhealthy := by
  rw [← mem_statuses_iff hsorted, overall, HealthStatus.worst_eq]
  split_ifs <;> simp [*]

theorem ready_iff (h : HealthRegistry) :
    h.readiness.ready = true ↔ h.declaredReady = true ∧ overall h.components ≠ .unhealthy := by
  unfold readiness
  cases h.declaredReady with
  | false => simp
  | true => by_cases hunhealthy : overall h.components = .unhealthy <;> simp [hunhealthy]

/-! ## Updates -/

/-- What the updates say of a name last. -/
def latest? (updates : List (String × ComponentHealth)) (name : String) : Option ComponentHealth :=
  (updates.reverse.find? fun update => update.1 = name).map Prod.snd

/-- The registry after certain updates. -/
def ofUpdates (updates : List (String × ComponentHealth)) : HealthRegistry :=
  updates.foldl (fun h update => h.update update.1 update.2) .empty

theorem ofUpdates_components (updates : List (String × ComponentHealth)) :
    (ofUpdates updates).components.Sorted ∧
      ∀ name, (ofUpdates updates).components.find? name = latest? updates name := by
  induction updates using List.reverseRecOn with
  | nil => exact ⟨Table.sorted_nil, fun _ => rfl⟩
  | append_singleton updates update ih =>
      obtain ⟨hsorted, hfind⟩ := ih
      have hupdate : ofUpdates (updates ++ [update]) =
          (ofUpdates updates).update update.1 update.2 := by
        simp [ofUpdates]
      rw [hupdate]
      refine ⟨hsorted.insert _ _, fun name => ?_⟩
      by_cases hname : update.1 = name
      · simp [HealthRegistry.update, latest?, Table.find?_insert, hname]
      · simp only [HealthRegistry.update, latest?, Table.find?_insert, hname, if_false, hfind,
          List.reverse_append, List.reverse_singleton, List.singleton_append, List.find?_cons,
          decide_false]

/-- The overall status is the worst of what the updates say of each name last. -/
theorem isOverall_ofUpdates (updates : List (String × ComponentHealth)) :
    IsOverall (latest? updates) (ofUpdates updates).report.status := by
  obtain ⟨hsorted, hfind⟩ := ofUpdates_components updates
  have hoverall := isOverall_overall hsorted
  rwa [funext hfind] at hoverall

end HealthRegistry

end NodeFleet
