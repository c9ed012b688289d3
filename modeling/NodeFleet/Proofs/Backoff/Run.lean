import Mathlib.Data.List.Chain
import NodeFleet.Proofs.Backoff.Delay
import NodeFleet.Proofs.Config.Options

/-!
# Runs of a backoff

A run is any sequence of failures and successes.  The only thing that a schedule keeps of it
is the number of failures since the last success (`after_counting`).  So a delay depends on
that number alone, nothing of a run outlasts a success, and a stretch of failures goes
through the delays of consecutive numbers (`delays_replicate`).

The base is doubled at most 31 times.  With the smallest base that a configuration may give,
one millisecond, that is less than the longest wait it may ask for, so such a wait is never
reached; from two milliseconds on every longest wait is (`backoffMax_le_iff`).
-/

namespace NodeFleet.Backoff

/-! ## Runs -/

inductive Call where
  /-- A failure; the answer is the delay. -/
  | next
  /-- A success. -/
  | reset
  deriving DecidableEq

/-- The schedule after calls. -/
def after (b : Backoff) : List Call → Backoff
  | [] => b
  | .next :: later => b.fail.after later
  | .reset :: later => b.reset.after later

/-- The delays that calls are answered with. -/
def delays (b : Backoff) : List Call → List Duration
  | [] => []
  | .next :: later => b.delay :: b.fail.delays later
  | .reset :: later => b.reset.delays later

/-- The failures since the last success, if there were some before the calls. -/
def failuresAfter (failures : Nat) : List Call → Nat
  | [] => failures
  | .next :: later => failuresAfter (failures + 1) later
  | .reset :: later => failuresAfter 0 later

variable {base longest : Duration}

theorem after_counting (failures : Nat) (calls : List Call) :
    (counting base longest failures).after calls =
      counting base longest (failuresAfter failures calls) := by
  induction calls generalizing failures with
  | nil => rfl
  | cons call later ih =>
      cases call with
      | next =>
          rw [after, fail_counting, ih]
          rfl
      | reset => exact ih 0

theorem after_start (calls : List Call) :
    (start base longest).after calls = counting base longest (failuresAfter 0 calls) :=
  after_counting 0 calls

theorem failuresAfter_replicate (failures count : Nat) :
    failuresAfter failures (.replicate count .next) = failures + count := by
  induction count generalizing failures with
  | zero => rfl
  | succ count ih =>
      rw [List.replicate_succ, failuresAfter, ih]
      omega

section Delays

variable (hcap : max longest base ≤ Duration.max)
include hcap

/-- Every delay of a run is that of some number of failures. -/
theorem exists_of_mem_delays (failures : Nat) {calls : List Call} {d : Duration}
    (h : d ∈ (counting base longest failures).delays calls) :
    ∃ count, d = delayAfter base longest count := by
  induction calls generalizing failures with
  | nil => exact absurd h List.not_mem_nil
  | cons call later ih =>
      cases call with
      | next =>
          rw [delays, fail_counting] at h
          rcases List.mem_cons.1 h with rfl | h
          · exact ⟨failures, delay_counting hcap failures⟩
          · exact ih (failures + 1) h
      | reset => exact ih 0 h

/-- A stretch of failures goes through the delays of consecutive numbers of failures. -/
theorem delays_replicate (failures count : Nat) :
    (counting base longest failures).delays (.replicate count .next) =
      (List.range' failures count).map (delayAfter base longest) := by
  induction count generalizing failures with
  | zero => rfl
  | succ count ih =>
      rw [List.replicate_succ, delays, delay_counting hcap, fail_counting, ih, List.range'_succ,
        List.map_cons]

end Delays

theorem length_delays (b : Backoff) (calls : List Call) :
    (b.delays calls).length = calls.count .next := by
  induction calls generalizing b with
  | nil => rfl
  | cons call later ih =>
      cases call with
      | next => rw [delays, List.length_cons, ih, List.count_cons_self]
      | reset => rw [delays, ih, List.count_cons_of_ne (by decide)]

theorem delays_append (b : Backoff) (calls later : List Call) :
    b.delays (calls ++ later) = b.delays calls ++ (b.after calls).delays later := by
  induction calls generalizing b with
  | nil => rfl
  | cons call calls ih =>
      cases call with
      | next => exact congrArg (b.delay :: ·) (ih b.fail)
      | reset => exact ih b.reset

/-- In every run, from any base and any longest delay, each failure is answered with a delay, and
all that is counted and multiplied stays a word.  A delay is the one of the failures in a row in
unbounded arithmetic; it lies between the base and the cap.  While failures go on, delays do not
shrink, and each is twice the one before, or the cap, or the one before.  The first delay is the
base, and so is the first after a success, with which the run starts anew. -/
theorem delays_lawful {base longest : Duration} (hbase : base ≤ Duration.max)
    (hlongest : longest ≤ Duration.max) (calls : List Call) :
    let fresh := start base longest
    let b := fresh.after calls
    ((fresh.delays calls).length = calls.count .next ∧ b.failures < 2 ^ 32 ∧
      2 ^ min b.failures maxDoublings < 2 ^ 32 ∧ b.delay ≤ Duration.max ∧
      b.delay = min (base * 2 ^ min (failuresAfter 0 calls) 31) (max longest base)) ∧
    (∀ d ∈ fresh.delays calls, base ≤ d ∧ d ≤ max longest base) ∧
    (∀ count, ∃ stretch : List Duration, stretch.length = count ∧
      fresh.delays (calls ++ .replicate count .next) = fresh.delays calls ++ stretch ∧
      stretch.Pairwise (· ≤ ·) ∧
      stretch.IsChain fun d next => next = 2 * d ∨ next = max longest base ∨ next = d) ∧
    fresh.delay = base ∧ b.reset.delay = base ∧
      ∀ later, fresh.delays (calls ++ .reset :: later) = fresh.delays calls ++ fresh.delays later := by
  intro fresh b
  have hcap : max longest base ≤ Duration.max := max_le hlongest hbase
  have hb : b = counting base longest (failuresAfter 0 calls) := after_start calls
  have hreset : b.reset = fresh := by
    rw [hb]
    rfl
  have hfirst : fresh.delay = base := (delay_counting hcap 0).trans (delayAfter_zero base longest)
  have hdelay : b.delay = delayAfter base longest (failuresAfter 0 calls) := by
    rw [hb, delay_counting hcap]
  refine ⟨⟨length_delays fresh calls, ?_, ?_, ?_, hdelay⟩, ?_, fun count => ?_, hfirst, ?_, ?_⟩
  · have hle : b.failures ≤ maxFailures := by
      rw [hb]
      exact min_le_right _ _
    exact Nat.lt_of_le_of_lt hle (by decide)
  · exact Nat.pow_lt_pow_right (by decide) (Nat.lt_of_le_of_lt (min_le_right _ _) (by decide))
  · rw [hdelay]
    exact (delayAfter_le _ _ _).trans hcap
  · intro d hd
    obtain ⟨count, rfl⟩ := exists_of_mem_delays hcap 0 hd
    exact ⟨base_le_delayAfter base longest count, delayAfter_le base longest count⟩
  · refine ⟨b.delays (.replicate count .next), ?_, delays_append fresh calls _, ?_, ?_⟩
    · rw [length_delays, List.count_replicate_self]
    · rw [hb, delays_replicate hcap]
      apply List.pairwise_map.2
      exact (List.pairwise_lt_range' 1).imp fun hlt => delayAfter_mono base longest hlt.le
    · rw [hb, delays_replicate hcap]
      refine (List.isChain_map _).2 ((List.isChain_range' _ count 1).imp ?_)
      rintro failures _ rfl
      exact delayAfter_succ base longest failures
  · rw [hreset, hfirst]
  · intro later
    have hrest : (fresh.after calls).delays (.reset :: later) = fresh.delays later :=
      congrArg (delays · later) hreset
    rw [delays_append, hrest]

/-- The shortest base under the longest cap, over more failures than are doubled. -/
theorem delays_lawful_at_bounds :
    let calls : List Call := .replicate 40 .next
    let b := (start 1 Duration.max).after calls
    1 ≤ Duration.max ∧ Duration.max ≤ Duration.max ∧ calls.count .next = 40 ∧
      failuresAfter 0 calls = 40 ∧ b.delay = 2 ^ 31 ∧ b.reset.delay = 1 := by
  intro calls b
  have hbase : 1 ≤ Duration.max := by decide
  obtain ⟨⟨-, -, -, -, hdelay⟩, -, -, -, hreset, -⟩ := delays_lawful hbase le_rfl calls
  exact ⟨hbase, le_rfl, by decide, by decide, hdelay.trans (by decide), hreset⟩

/-! ## Whether the cap is reached -/

section Cap

variable (hcap : max longest base ≤ Duration.max) (calls : List Call)
include hcap

/-- From the last doubling on, the delay stays what it is. -/
theorem delay_settled {count : Nat} (h : maxDoublings ≤ count) :
    (((start base longest).after calls).after (.replicate count .next)).delay =
      min (base * 2 ^ maxDoublings) (max longest base) := by
  rw [after_start, after_counting, failuresAfter_replicate, delay_counting hcap, delayAfter,
    min_eq_right (h.trans (Nat.le_add_left count _))]

/-- Failures in a row bring the delay to the cap exactly if the last doubling gets there. -/
theorem cap_reached_iff :
    (∃ enough, ∀ count, enough ≤ count →
      (((start base longest).after calls).after (.replicate count .next)).delay =
        max longest base) ↔ longest ≤ base * 2 ^ maxDoublings := by
  constructor
  · rintro ⟨enough, hreached⟩
    have hsettled := delay_settled hcap calls (le_max_right enough maxDoublings)
    rw [hreached _ (le_max_left _ _)] at hsettled
    exact (le_max_left longest base).trans (min_eq_right_iff.1 hsettled.symm)
  · intro hle
    have hbase : base ≤ base * 2 ^ maxDoublings := Nat.le_mul_of_pos_right base (Nat.two_pow_pos _)
    refine ⟨maxDoublings, fun count hcount => ?_⟩
    rw [delay_settled hcap calls hcount, min_eq_right (max_le hle hbase)]

end Cap

end NodeFleet.Backoff

namespace NodeFleet.FleetConfig

open Backoff (start)

/-- The only longest wait of a valid configuration that doublings do not get to is one of more than
`2 ^ 31` milliseconds, over a base of one. -/
theorem backoffMax_le_iff {c : FleetConfig} (h : c.validate = .ok ()) :
    c.retryPolicy.backoffMax ≤ c.retryPolicy.backoffBase * 2 ^ Backoff.maxDoublings ↔
      ¬ (c.backoffBaseMillis = 1 ∧ 2 ^ 31 < c.backoffMaxMillis) := by
  obtain ⟨hpositive, -, hlongest⟩ := backoff_of_validate h
  have hmillis : c.backoffMaxMillis * 1000000 ≤ 2592000 * 1000000000 := hlongest
  show c.backoffMaxMillis * 1000000 ≤ c.backoffBaseMillis * 1000000 * 2 ^ 31 ↔ _
  omega

/-- Under a valid configuration, failures in a row settle at a delay from the thirty-second on,
whatever came before them.  This is the longest wait that the configuration asks for, or its base
if that is longer, unless the base is one millisecond and the longest wait more than `2 ^ 31`. -/
theorem longest_wait_reached_unless_beyond_doublings (c : FleetConfig) (h : c.validate = .ok ())
    (calls : List Backoff.Call) :
    let base := c.retryPolicy.backoffBase
    let longest := c.retryPolicy.backoffMax
    let delayAt (count : Nat) : Duration :=
      (((start base longest).after calls).after (.replicate count .next)).delay
    (∀ count, 31 ≤ count → delayAt count = min (base * 2 ^ 31) (max longest base)) ∧
      ((∃ enough, ∀ count, enough ≤ count → delayAt count = max longest base) ↔
        ¬ (c.backoffBaseMillis = 1 ∧ 2 ^ 31 < c.backoffMaxMillis)) := by
  intro base longest delayAt
  have hcap := (retryPolicy_of_validate h).2
  refine ⟨fun count hcount => Backoff.delay_settled hcap calls hcount, ?_⟩
  exact (Backoff.cap_reached_iff hcap calls).trans (backoffMax_le_iff h)

/-- The longest wait that one millisecond gets to. -/
theorem longest_wait_reached_by_last_doubling :
    let c : FleetConfig := { backoffBaseMillis := 1, backoffMaxMillis := 2 ^ 31 }
    c.validate = .ok () ∧ ∃ enough, ∀ count, enough ≤ count →
      ((start c.retryPolicy.backoffBase c.retryPolicy.backoffMax).after
        (.replicate count .next)).delay =
          max c.retryPolicy.backoffMax c.retryPolicy.backoffBase := by
  intro c
  have hvalid : c.validate = .ok () := validate_eq_ok (by decide +kernel)
  have hnot : ¬ (c.backoffBaseMillis = 1 ∧ 2 ^ 31 < c.backoffMaxMillis) :=
    fun hboth => Nat.lt_irrefl _ hboth.2
  exact ⟨hvalid, (longest_wait_reached_unless_beyond_doublings c hvalid []).2.2 hnot⟩

/-- One millisecond does not get to thirty days. -/
theorem longest_wait_beyond_doublings :
    let c : FleetConfig := { backoffBaseMillis := 1, backoffMaxMillis := 2592000000 }
    c.validate = .ok () ∧ 1 ≤ c.backoffBaseMillis ∧ ¬ ∃ enough, ∀ count, enough ≤ count →
      ((start c.retryPolicy.backoffBase c.retryPolicy.backoffMax).after
        (.replicate count .next)).delay =
          max c.retryPolicy.backoffMax c.retryPolicy.backoffBase := by
  intro c
  have hvalid : c.validate = .ok () := validate_eq_ok (by decide +kernel)
  refine ⟨hvalid, by decide, fun hreached => ?_⟩
  have hle := (Backoff.cap_reached_iff (retryPolicy_of_validate hvalid).2 []).1 hreached
  exact absurd hle (by decide)

end NodeFleet.FleetConfig
