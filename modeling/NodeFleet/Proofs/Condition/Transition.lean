import Mathlib.Data.Nat.Basic
import Mathlib.Order.Basic
import NodeFleet.Condition

/-!
# Transition times

Each report of a node's conditions is built from the one before it.  A condition takes over
the time of the earlier entry that has its type and its status, so its time stays the same
as long as its status does, and becomes that of the step with which the status changed.

`transitionTime_buildConditions` is the step: a report that was built has one entry of each
type, so looking up a type with a status finds that entry or nothing.  By induction the time
is that of the first step of the run of steps with the present status (`transitionTime_reports`).
Only a run that goes back to the first step depends on what the first report was built from.
-/

namespace NodeFleet

/-- What a report is built from, apart from the report before it. -/
structure Reading where
  usage : LedgerSnapshot
  now : Timestamp

section Reports

variable (pressed : LedgerSnapshot → Resource → Bool) (readings : Nat → Reading)
  (initial : List NodeCondition)

/-- The reports built one after the other, where `reports 0` is what the first is built from. -/
def reports : Nat → List NodeCondition
  | 0 => initial
  | step + 1 =>
      buildConditions (reports step) (pressed (readings step).usage) (readings step).now

/-- The status of a condition as evaluated in a step. -/
def statusAt (type : ConditionType) (step : Nat) : ConditionStatus :=
  (evaluate (pressed (readings step).usage) type).status

end Reports

/-- The longest run of steps up to `last` with the same status begins with `first`. -/
structure BeginsRun (status : Nat → ConditionStatus) (first last : Nat) : Prop where
  le : first ≤ last
  same : ∀ step, first ≤ step → step ≤ last → status step = status last
  differs : ∀ before, before + 1 = first → status before ≠ status last

namespace BeginsRun

variable {status : Nat → ConditionStatus} {first last : Nat}

theorem zero : BeginsRun status 0 0 :=
  { le := le_rfl
    same := fun step _ hle => by rw [Nat.le_zero.1 hle]
    differs := nofun }

/-- A step with the status of the one before it goes on with the run. -/
theorem succ (h : BeginsRun status first last) (hsame : status last = status (last + 1)) :
    BeginsRun status first (last + 1) := by
  refine ⟨h.le.trans (Nat.le_succ last), fun step hfirst hlast => ?_, fun before hbefore => ?_⟩
  · rcases Nat.le_succ_iff.1 hlast with hle | rfl
    · exact (h.same step hfirst hle).trans hsame
    · rfl
  · exact hsame ▸ h.differs before hbefore

theorem self (hdiffers : status last ≠ status (last + 1)) :
    BeginsRun status (last + 1) (last + 1) := by
  refine ⟨le_rfl, fun step hfirst hlast => by rw [le_antisymm hlast hfirst], ?_⟩
  intro before hbefore
  obtain rfl := Nat.succ.inj hbefore
  exact hdiffers

end BeginsRun

/-! ## Looking up the earlier entry -/

section Lookup

variable {previous before after : List NodeCondition} {entry : NodeCondition}
  {type : ConditionType} {status : ConditionStatus} {now : Timestamp}

/-- The first entry of a type with a status gives its time. -/
theorem transitionTime_of_first (htype : entry.type = type) (hstatus : entry.status = status)
    (hbefore : ∀ earlier ∈ before, ¬ (earlier.type = type ∧ earlier.status = status)) :
    transitionTime (before ++ entry :: after) type status now = entry.transitionAt := by
  have hfind : (before ++ entry :: after).find? (fun c => c.type = type ∧ c.status = status) =
      some entry :=
    List.find?_eq_some_iff_append.2 ⟨decide_eq_true ⟨htype, hstatus⟩, before, after, rfl,
      fun earlier hearlier => by rw [decide_eq_false (hbefore earlier hearlier), Bool.not_false]⟩
  simp only [transitionTime, hfind]

theorem transitionTime_of_none
    (hnone : ∀ earlier ∈ previous, ¬ (earlier.type = type ∧ earlier.status = status)) :
    transitionTime previous type status now = now := by
  have hfind : previous.find? (fun c => c.type = type ∧ c.status = status) = none :=
    List.find?_eq_none.2 fun earlier hearlier hfound =>
      hnone earlier hearlier (of_decide_eq_true hfound)
  simp only [transitionTime, hfind]

theorem ConditionType.mem_all (type : ConditionType) : type ∈ ConditionType.all := by
  cases type <;> decide

/-- A report that was built has one entry of each type: with the same status it passes its time
on, and with another status it does not. -/
theorem transitionTime_buildConditions (previous : List NodeCondition)
    (pressed : Resource → Bool) (now later : Timestamp) (type : ConditionType)
    (status : ConditionStatus) :
    transitionTime (buildConditions previous pressed now) type status later =
      if (evaluate pressed type).status = status then transitionTime previous type status now
      else later := by
  split_ifs with hstatus
  · subst hstatus
    obtain ⟨before, after, hall, hbefore⟩ := List.eq_append_cons_of_mem type.mem_all
    rw [buildConditions, hall, List.map_append, List.map_cons]
    refine transitionTime_of_first rfl rfl fun earlier hearlier => ?_
    obtain ⟨found, hfound, rfl⟩ := List.mem_map.1 hearlier
    rintro ⟨rfl, -⟩
    exact hbefore hfound
  · refine transitionTime_of_none fun earlier hearlier => ?_
    obtain ⟨found, -, rfl⟩ := List.mem_map.1 hearlier
    rintro ⟨rfl, hsame⟩
    exact hstatus hsame

end Lookup

/-! ## Reports one after the other -/

section Histories

variable (pressed : LedgerSnapshot → Resource → Bool) (readings : Nat → Reading)
  (initial : List NodeCondition)

theorem map_type_buildConditions (previous : List NodeCondition) (pressed : Resource → Bool)
    (now : Timestamp) :
    (buildConditions previous pressed now).map NodeCondition.type = ConditionType.all := rfl

/-- The time that a step gives to a condition is that of the first step of its run.  Only for a run
that begins with the first of all steps it may come from what that step was given. -/
theorem transitionTime_reports (type : ConditionType) (step : Nat) :
    ∃ first, BeginsRun (statusAt pressed readings type) first step ∧
      transitionTime (reports pressed readings initial step) type
          (statusAt pressed readings type step) (readings step).now =
        if first = 0 then
          transitionTime initial type (statusAt pressed readings type 0) (readings 0).now
        else (readings first).now := by
  induction step with
  | zero => exact ⟨0, .zero, rfl⟩
  | succ step ih =>
      obtain ⟨first, hrun, htime⟩ := ih
      by_cases hsame : statusAt pressed readings type step =
          statusAt pressed readings type (step + 1)
      · refine ⟨first, hrun.succ hsame, ?_⟩
        rw [← htime, reports, transitionTime_buildConditions, ← hsame]
        exact if_pos rfl
      · refine ⟨step + 1, .self hsame, ?_⟩
        rw [reports, transitionTime_buildConditions, if_neg (Nat.succ_ne_zero step)]
        exact if_neg hsame

/-- Every report has each type of condition once, in order, with the status evaluated in its step.
The time of a condition is that of the first step of the run of steps with this status.  For a run
that goes back to the first of all steps, that step keeps the time of the first entry with this
type and status in what it was given, if there is one. -/
theorem transition_times_exact (step : Nat) :
    (reports pressed readings initial (step + 1)).map NodeCondition.type = ConditionType.all ∧
    ∀ condition ∈ reports pressed readings initial (step + 1),
      condition.status = statusAt pressed readings condition.type step ∧
      ∃ first, BeginsRun (statusAt pressed readings condition.type) first step ∧
        (0 < first ∨ initial = [] → condition.transitionAt = (readings first).now) ∧
        (first = 0 → ∀ before entry after, initial = before ++ entry :: after →
          entry.type = condition.type → entry.status = condition.status →
          (∀ earlier ∈ before,
            ¬ (earlier.type = condition.type ∧ earlier.status = condition.status)) →
          condition.transitionAt = entry.transitionAt) ∧
        (first = 0 → (∀ earlier ∈ initial,
            ¬ (earlier.type = condition.type ∧ earlier.status = condition.status)) →
          condition.transitionAt = (readings 0).now) := by
  refine ⟨map_type_buildConditions _ _ _, fun condition hcondition => ?_⟩
  obtain ⟨type, -, rfl⟩ := List.mem_map.1 hcondition
  obtain ⟨first, hrun, htime⟩ := transitionTime_reports pressed readings initial type step
  refine ⟨rfl, first, hrun, fun hlater => htime.trans ?_, ?_, ?_⟩
  · rcases hlater with hpos | rfl
    · exact if_neg hpos.ne'
    · split_ifs with hfirst
      · rw [hfirst]
        exact transitionTime_of_none nofun
      · rfl
  · rintro rfl before entry after rfl htype hstatus hbefore
    have hsame := hrun.same 0 le_rfl hrun.le
    rw [if_pos rfl, hsame] at htime
    exact htime.trans (transitionTime_of_first htype hstatus hbefore)
  · rintro rfl hnone
    have hsame := hrun.same 0 le_rfl hrun.le
    rw [if_pos rfl, hsame] at htime
    exact htime.trans (transitionTime_of_none hnone)

end Histories

/-- Memory is under pressure in all steps but the second, so in the fourth its condition has the time
of the third.  The disk never is, and its condition keeps the time of the first of two entries that
the first step was given. -/
theorem transition_times_exact_of_flapping :
    let pressed (usage : LedgerSnapshot) (_ : Resource) : Bool := usage.live ≠ 1
    let readings (step : Nat) : Reading :=
      { usage := { used := .zero, allocatable := ⟨0, 0, 0, 0, 0⟩, live := step, generation := 0 }
        now := ⟨step, 0⟩ }
    let initial : List NodeCondition :=
      [⟨.memoryPressure, .unknown, "", "", ⟨-9, 0⟩⟩, ⟨.diskPressure, .no, "", "", ⟨-5, 0⟩⟩,
        ⟨.diskPressure, .no, "", "", ⟨-7, 0⟩⟩]
    ∀ condition ∈ reports pressed readings initial 4,
      (condition.type = .memoryPressure → condition.transitionAt = ⟨2, 0⟩) ∧
      (condition.type = .diskPressure → condition.transitionAt = ⟨-5, 0⟩) := by
  intro pressed readings initial condition hmem
  obtain ⟨-, hexact⟩ := transition_times_exact pressed readings initial 3
  obtain ⟨hstatus, first, hrun, hlater, hkept, -⟩ := hexact condition hmem
  refine ⟨fun htype => ?_, fun htype => ?_⟩
  · rw [htype] at hrun
    have hfirst : first = 2 := by
      have hle := hrun.le
      have hafter : ¬ first ≤ 1 := fun h => absurd (hrun.same 1 h (by decide)) (by decide)
      have hbefore : 3 ≠ first := fun h => hrun.differs 2 h rfl
      omega
    rw [hlater (.inl (by omega)), hfirst]
    rfl
  · rw [htype] at hrun hstatus hkept
    have hfirst : first = 0 := by
      by_contra hne
      obtain ⟨before, rfl⟩ := Nat.exists_eq_succ_of_ne_zero hne
      exact hrun.differs before rfl rfl
    refine hkept hfirst [_] _ [_] rfl rfl hstatus.symm ?_
    exact List.forall_mem_singleton.2 fun hsame => nomatch hsame.1

end NodeFleet
