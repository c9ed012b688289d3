import Mathlib.Order.MinMax
import NodeFleet.Backoff

/-!
# The delays of a backoff

A delay is the base, doubled with each failure in a row, up to the cap.  The model forms
the product only as long as it is a duration; under a cap that is one, that makes no
difference (`delay_eq`), and the delays never shrink while failures add up.  Nor does it
matter that failures are counted up to a bound only: the schedule after any number of
failures in a row is `counting`, and gives the delay of that number (`delay_counting`).
-/

namespace NodeFleet.Backoff

/-- The delay after the failure that follows `failures` others in a row. -/
def delayAfter (base longest : Duration) (failures : Nat) : Duration :=
  min (base * 2 ^ min failures maxDoublings) (max longest base)

theorem delay_eq {b : Backoff} (hcap : b.cap ≤ Duration.max) :
    b.delay = min (b.base * 2 ^ min b.failures maxDoublings) b.cap := by
  unfold delay Duration.scale? Duration.checked
  split_ifs with hproduct
  · rfl
  · have hover : b.cap ≤ b.base * 2 ^ min b.failures maxDoublings :=
      hcap.trans (Nat.le_of_lt (Nat.not_le.1 hproduct))
    exact (min_eq_right hover).symm

theorem base_le_delay {b : Backoff} (h : b.base ≤ b.cap) : b.base ≤ b.delay := by
  unfold delay Duration.scale? Duration.checked
  split_ifs
  · exact le_min (Nat.le_mul_of_pos_right b.base (Nat.two_pow_pos _)) h
  · exact h

theorem base_le_delayAfter (base longest : Duration) (failures : Nat) :
    base ≤ delayAfter base longest failures :=
  le_min (Nat.le_mul_of_pos_right base (Nat.two_pow_pos _)) (le_max_right longest base)

theorem delayAfter_le (base longest : Duration) (failures : Nat) :
    delayAfter base longest failures ≤ max longest base :=
  min_le_right _ _

theorem delayAfter_zero (base longest : Duration) : delayAfter base longest 0 = base := by
  simp [delayAfter]

theorem delayAfter_mono (base longest : Duration) {fewer more : Nat} (h : fewer ≤ more) :
    delayAfter base longest fewer ≤ delayAfter base longest more := by
  have hpower : 2 ^ min fewer maxDoublings ≤ 2 ^ min more maxDoublings :=
    Nat.pow_le_pow_right Nat.two_pos (min_le_min_right _ h)
  exact min_le_min_right _ (Nat.mul_le_mul_left base hpower)

/-- The count of failures that is kept suffices for the delay. -/
theorem delayAfter_min_maxFailures (base longest : Duration) (failures : Nat) :
    delayAfter base longest (min failures maxFailures) = delayAfter base longest failures := by
  have hmin : min (min failures maxFailures) maxDoublings = min failures maxDoublings := by
    simp only [maxFailures, maxDoublings]
    omega
  rw [delayAfter, delayAfter, hmin]

/-- A further failure doubles the delay, unless that reaches the cap or the doublings are used up. -/
theorem delayAfter_succ (base longest : Duration) (failures : Nat) :
    delayAfter base longest (failures + 1) = 2 * delayAfter base longest failures ∨
      delayAfter base longest (failures + 1) = max longest base ∨
      delayAfter base longest (failures + 1) = delayAfter base longest failures := by
  unfold delayAfter
  by_cases hmore : failures < maxDoublings
  · have hnow : min failures maxDoublings = failures := min_eq_left hmore.le
    have hnext : min (failures + 1) maxDoublings = failures + 1 := min_eq_left hmore
    have hdouble : base * 2 ^ (failures + 1) = 2 * (base * 2 ^ failures) := by
      rw [Nat.pow_succ, ← Nat.mul_assoc, Nat.mul_comm]
    rw [hnow, hnext, hdouble]
    by_cases hfits : 2 * (base * 2 ^ failures) ≤ max longest base
    · have hfewer : base * 2 ^ failures ≤ max longest base :=
        (Nat.le_mul_of_pos_left _ Nat.two_pos).trans hfits
      exact .inl (by rw [min_eq_left hfits, min_eq_left hfewer])
    · exact .inr (.inl (min_eq_right (Nat.le_of_not_le hfits)))
  · have hused (more : Nat) (h : failures ≤ more) : min more maxDoublings = maxDoublings :=
      min_eq_right ((Nat.not_lt.1 hmore).trans h)
    rw [hused failures le_rfl, hused (failures + 1) (Nat.le_succ failures)]
    exact .inr (.inr rfl)

/-! ## Schedules that count -/

/-- A schedule after failures in a row. -/
def counting (base longest : Duration) (failures : Nat) : Backoff :=
  { start base longest with failures := min failures maxFailures }

theorem fail_counting (base longest : Duration) (failures : Nat) :
    (counting base longest failures).fail = counting base longest (failures + 1) := by
  simp only [counting, fail, start, mk.injEq, true_and]
  omega

theorem delay_counting {base longest : Duration} (hcap : max longest base ≤ Duration.max)
    (failures : Nat) :
    (counting base longest failures).delay = delayAfter base longest failures := by
  rw [← delayAfter_min_maxFailures]
  exact delay_eq (b := counting base longest failures) hcap

end NodeFleet.Backoff
