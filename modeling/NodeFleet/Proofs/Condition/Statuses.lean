import Mathlib.Data.Bool.Basic
import NodeFleet.Condition

/-!
# The statuses in a report

A report lists conditions, and a status is looked up in it by the type of its condition.
`statusIn_buildConditions` says that a report that was built has the evaluated status for
every type, and `statusIn_of_not_conditionsDiffer` that a report which does not differ
from an earlier one shows the statuses of that one.  The other way round, reports built from
the same statuses do not differ.
-/

namespace NodeFleet

/-- The status that a report shows for a type of condition. -/
def statusIn (conditions : List NodeCondition) (type : ConditionType) : Option ConditionStatus :=
  (conditions.find? fun c => c.type = type).map NodeCondition.status

theorem statusIn_buildConditions (previous : List NodeCondition) (pressed : Resource → Bool)
    (now : Timestamp) (type : ConditionType) :
    statusIn (buildConditions previous pressed now) type =
      some (evaluate pressed type).status := by
  cases type <;> rfl

/-- A condition does not differ from a report exactly if the report shows its status. -/
theorem differsFrom_eq_false_iff {previous : List NodeCondition} {current : NodeCondition} :
    differsFrom previous current = false ↔
      statusIn previous current.type = some current.status := by
  unfold differsFrom statusIn
  cases hfind : previous.find? fun p => p.type = current.type with
  | none => simp
  | some p => simp

theorem statusIn_of_not_conditionsDiffer {current previous : List NodeCondition}
    {type : ConditionType} {status : ConditionStatus}
    (h : conditionsDiffer current previous = false) (hstatus : statusIn current type = some status) :
    statusIn previous type = some status := by
  obtain ⟨-, hany⟩ := Bool.or_eq_false_iff.1 h
  obtain ⟨condition, hfind, rfl⟩ := Option.map_eq_some_iff.1 hstatus
  have htype : condition.type = type := by simpa using List.find?_some hfind
  have hsame : differsFrom previous condition = false :=
    Bool.eq_false_iff.2 (List.any_eq_false.1 hany condition (List.mem_of_find?_eq_some hfind))
  rw [← htype]
  exact differsFrom_eq_false_iff.1 hsame

/-- Reports that were built do not differ if all statuses were evaluated to the same. -/
theorem conditionsDiffer_buildConditions {pressed before : Resource → Bool}
    (h : ∀ type, (evaluate pressed type).status = (evaluate before type).status)
    (previous earlier : List NodeCondition) (now past : Timestamp) :
    conditionsDiffer (buildConditions previous pressed now)
      (buildConditions earlier before past) = false := by
  have hlength : (buildConditions previous pressed now).length =
      (buildConditions earlier before past).length := rfl
  refine Bool.or_eq_false_iff.2 ⟨decide_eq_false (not_not_intro hlength), ?_⟩
  refine List.any_eq_false.2 fun condition hcondition => Bool.eq_false_iff.1 ?_
  obtain ⟨type, -, rfl⟩ := List.mem_map.1 hcondition
  rw [differsFrom_eq_false_iff, statusIn_buildConditions]
  exact congrArg some (h type).symm

end NodeFleet
