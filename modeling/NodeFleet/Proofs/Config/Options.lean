import Mathlib.Tactic.SplitIfs
import NodeFleet.Config

/-!
# The options of a valid configuration

Validation goes through the options in a fixed order and stops at the first that is wrong,
so a configuration that it accepts has passed every one of its checks.
-/

namespace NodeFleet.FleetConfig

variable {c : FleetConfig}

theorem validate_eq_ok (h : (c.validate matches .ok ()) = true) : c.validate = .ok () := by
  cases hvalidate : c.validate with
  | ok done => rfl
  | error error =>
      rw [hvalidate] at h
      exact nomatch h

/-- What has passed when validation accepts a configuration. -/
theorem checks_of_validate (h : c.validate = .ok ()) :
    (c.positiveOptions.find? fun option => option.2 = 0) = none ∧
      (c.boundedOptions.find? fun option => maxInterval < option.2) = none ∧
      c.validateAddresses = .ok () := by
  unfold validate at h
  cases hpositive : c.positiveOptions.find? fun option => option.2 = 0 with
  | some option =>
      rw [hpositive] at h
      split_ifs at h
  | none =>
      cases hbounded : c.boundedOptions.find? fun option => maxInterval < option.2 with
      | some option =>
          rw [hpositive, hbounded] at h
          split_ifs at h
      | none =>
          rw [hpositive, hbounded] at h
          split_ifs at h
          exact ⟨rfl, rfl, h⟩

theorem positiveOptions_of_validate (h : c.validate = .ok ()) :
    ∀ option ∈ c.positiveOptions, 0 < option.2 := by
  intro option hoption
  have hpositive := List.find?_eq_none.1 (checks_of_validate h).1 option hoption
  rw [decide_eq_true_iff] at hpositive
  exact Nat.pos_of_ne_zero hpositive

theorem boundedOptions_of_validate (h : c.validate = .ok ()) :
    ∀ option ∈ c.boundedOptions, option.2 ≤ maxInterval := by
  intro option hoption
  have hbounded := List.find?_eq_none.1 (checks_of_validate h).2.1 option hoption
  rw [decide_eq_true_iff] at hbounded
  exact Nat.not_lt.1 hbounded

/-- A configuration is valid only if its addresses are, whatever else is checked. -/
theorem validateAddresses_of_validate (h : c.validate = .ok ()) :
    c.validateAddresses = .ok () :=
  (checks_of_validate h).2.2

/-- The waits after a failure lie between a millisecond and the bound for intervals. -/
theorem backoff_of_validate (h : c.validate = .ok ()) :
    0 < c.backoffBaseMillis ∧ c.retryPolicy.backoffBase ≤ maxInterval ∧
      c.retryPolicy.backoffMax ≤ maxInterval := by
  refine ⟨?_, ?_, ?_⟩
  · exact positiveOptions_of_validate h ("backoff_base_millis", c.backoffBaseMillis)
      (by simp [positiveOptions])
  · exact boundedOptions_of_validate h ("backoff_base_millis", c.retryPolicy.backoffBase)
      (by simp [boundedOptions, retryPolicy])
  · exact boundedOptions_of_validate h ("backoff_max_millis", c.retryPolicy.backoffMax)
      (by simp [boundedOptions, retryPolicy])

/-- The wait after a failure is positive, and it stays within the durations. -/
theorem retryPolicy_of_validate (h : c.validate = .ok ()) :
    0 < c.retryPolicy.backoffBase ∧
      max c.retryPolicy.backoffMax c.retryPolicy.backoffBase ≤ Duration.max := by
  obtain ⟨hpositive, hbase, hlongest⟩ := backoff_of_validate h
  refine ⟨Nat.mul_pos hpositive (by decide), ?_⟩
  exact Nat.le_trans (Nat.max_le.2 ⟨hlongest, hbase⟩) (by decide)

end NodeFleet.FleetConfig
