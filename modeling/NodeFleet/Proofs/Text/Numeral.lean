import Mathlib.Data.List.Induction
import Mathlib.Data.Nat.Digits.Defs
import NodeFleet.Proofs.Text.Parts

/-!
# What a numeral denotes

`Numeral.Denotes` is the grammar of numerals: one or more decimal digits, with at most one plus
sign in front of them.  The number is what the digits stand for in base ten, however many
zeros lead.  `below?_eq_some_iff` says that the reader takes exactly these texts, and refuses
nothing but numbers that reach its bound.  A number has many numerals, and one of them without
a sign and without leading zeros: the one that is written for it (`write_value`).
-/

namespace NodeFleet.Text.Numeral

/-- The number that digits stand for in base ten, the last of them counting ones. -/
def value (digits : List Char) : Nat :=
  Nat.ofDigits 10 (digits.reverse.map fun c => c.toNat - '0'.toNat)

/-- A text is a numeral of a number. -/
inductive Denotes : List Char → Nat → Prop
  | unsigned {digits : List Char} (hne : digits ≠ []) (hdigits : ∀ c ∈ digits, c.isDigit = true) :
      Denotes digits (value digits)
  | signed {digits : List Char} (hne : digits ≠ []) (hdigits : ∀ c ∈ digits, c.isDigit = true) :
      Denotes ('+' :: digits) (value digits)

/-! ## Digits -/

theorem isDigit_iff {c : Char} : c.isDigit = true ↔ 48 ≤ c.toNat ∧ c.toNat ≤ 57 := by
  rw [Char.isDigit, Bool.and_eq_true, decide_eq_true_iff, decide_eq_true_iff]
  exact Iff.rfl

theorem digit?_eq (c : Char) :
    digit? c = if c.isDigit = true then some (c.toNat - '0'.toNat) else none := by
  have hrange : ('0' ≤ c ∧ c ≤ '9') ↔ c.isDigit = true := isDigit_iff.symm
  simp only [digit?, hrange]

theorem value_cons (c : Char) (digits : List Char) :
    value (c :: digits) = (c.toNat - '0'.toNat) * 10 ^ digits.length + value digits := by
  simp only [value, List.reverse_cons, List.map_append, List.map_singleton, Nat.ofDigits_append,
    Nat.ofDigits_singleton, List.length_map, List.length_reverse]
  rw [Nat.add_comm, Nat.mul_comm]

/-- The digits that are left move what was read before them by one place each. -/
theorem continue?_eq_some_iff {front n : Nat} {digits : List Char} :
    continue? front digits = some n ↔
      (∀ c ∈ digits, c.isDigit = true) ∧ front * 10 ^ digits.length + value digits = n := by
  induction digits generalizing front with
  | nil => simp [continue?, value]
  | cons c digits ih =>
      rw [continue?, digit?_eq, List.forall_mem_cons]
      by_cases hc : c.isDigit = true
      · have hplace : (10 * front + (c.toNat - '0'.toNat)) * 10 ^ digits.length + value digits =
            front * 10 ^ (c :: digits).length + value (c :: digits) := by
          rw [value_cons, List.length_cons, Nat.pow_succ]
          ring
        rw [if_pos hc, Option.bind_some, ih, hplace]
        simp only [hc, true_and]
      · rw [if_neg hc]
        simp only [Option.bind_none, hc, false_and, reduceCtorEq]

theorem digits?_eq_some_iff {digits : List Char} {n : Nat} :
    digits? digits = some n ↔
      digits ≠ [] ∧ (∀ c ∈ digits, c.isDigit = true) ∧ value digits = n := by
  cases digits with
  | nil => simp [digits?]
  | cons c digits => simp [digits?, continue?_eq_some_iff]

/-! ## Digits without leading zeros -/

theorem value_concat (front : List Char) (c : Char) :
    value (front ++ [c]) = 10 * value front + (c.toNat - '0'.toNat) := by
  rw [value, List.reverse_append, List.reverse_singleton, List.singleton_append, List.map_cons,
    Nat.ofDigits_cons, Nat.add_comm]
  rfl

theorem digitChar_of_isDigit {c : Char} (h : c.isDigit = true) (n : Nat) :
    c.toNat - '0'.toNat < 10 ∧ digitChar (10 * n + (c.toNat - '0'.toNat)) = c := by
  have hrange := isDigit_iff.1 h
  have hzero : '0'.toNat = 48 := rfl
  rw [digitChar, hzero]
  refine ⟨by omega, ?_⟩
  have hplace : 48 + (10 * n + (c.toNat - 48)) % 10 = c.toNat := by omega
  rw [hplace, Char.ofNat_toNat]

/-- Digits with another one than zero in front stand for a positive number. -/
theorem value_pos {digits : List Char} (hne : digits ≠ [])
    (hdigits : ∀ c ∈ digits, c.isDigit = true) (hlead : digits.head? ≠ some '0') :
    0 < value digits := by
  obtain ⟨c, digits, rfl⟩ := List.exists_cons_of_ne_nil hne
  have hrange := isDigit_iff.1 (hdigits c List.mem_cons_self)
  have hother : c.toNat ≠ 48 := by
    intro hcode
    have hzero : c = '0' := Char.toNat_inj.1 hcode
    exact hlead (congrArg some hzero)
  have hfirst : 0 < c.toNat - '0'.toNat := by
    have hzero : '0'.toNat = 48 := rfl
    omega
  rw [value_cons]
  exact Nat.add_pos_left (Nat.mul_pos hfirst (Nat.pow_pos (by decide))) _

/-- Digits without a leading zero are what is written for their number. -/
theorem write_value {digits : List Char} (hne : digits ≠ [])
    (hdigits : ∀ c ∈ digits, c.isDigit = true)
    (hlead : digits.length = 1 ∨ digits.head? ≠ some '0') : write (value digits) = digits := by
  induction digits using List.reverseRecOn with
  | nil => exact absurd rfl hne
  | append_singleton front c ih =>
      obtain ⟨hlt, hlast⟩ := digitChar_of_isDigit (hdigits c (by simp)) (value front)
      rw [value_concat]
      by_cases hfront : front = []
      · subst hfront
        have hnone : value [] = 0 := rfl
        rw [hnone] at hlast ⊢
        rw [write_of_lt (by omega), hlast, List.nil_append]
      · -- The first digit of all is the first of the others.
        have hothers : ∀ c ∈ front, c.isDigit = true := fun c hc =>
          hdigits c (List.mem_append_left _ hc)
        have hfirst : front.head? ≠ some '0' := by
          have hlength : (front ++ [c]).length ≠ 1 := by
            have hpos := List.length_pos_iff.2 hfront
            rw [List.length_append, List.length_singleton]
            omega
          have hhead := hlead.resolve_left hlength
          rwa [List.head?_append_of_ne_nil _ hfront] at hhead
        have hpos : 0 < value front := value_pos hfront hothers hfirst
        have hrest : (10 * value front + (c.toNat - '0'.toNat)) / 10 = value front := by omega
        rw [write_of_le (by omega), hrest, ih hfront hothers (.inr hfirst), hlast]

/-! ## Numerals -/

/-- The reader takes the numerals of the numbers below its bound and nothing else. -/
theorem below?_eq_some_iff {bound n : Nat} {cs : List Char} :
    below? bound cs = some n ↔ Denotes cs n ∧ n < bound := by
  rw [below?, Option.filter_eq_some_iff, digits?_eq_some_iff, decide_eq_true_iff]
  refine and_congr_left fun _ => ⟨?_, ?_⟩
  · rintro ⟨hne, hdigits, rfl⟩
    by_cases hplus : cs.head? = some '+'
    · obtain ⟨digits, rfl⟩ := List.head?_eq_some_iff.1 hplus
      exact .signed hne hdigits
    · rw [unsigned_of_head? hplus] at hne hdigits ⊢
      exact .unsigned hne hdigits
  · rintro (⟨hne, hdigits⟩ | ⟨hne, hdigits⟩)
    · have hplus : cs.head? ≠ some '+' := fun hhead =>
        absurd (hdigits '+' (List.mem_of_mem_head? hhead)) (by decide)
      rw [unsigned_of_head? hplus]
      exact ⟨hne, hdigits, rfl⟩
    · exact ⟨hne, hdigits, rfl⟩

/-- A numeral that is written denotes its number. -/
theorem denotes_write (n : Nat) : Denotes (write n) n :=
  (below?_eq_some_iff.1 (below?_write (Nat.lt_succ_self n))).1

/-! ## The characters of a numeral -/

theorem Denotes.ne_nil {cs : List Char} {n : Nat} (h : Denotes cs n) : cs ≠ [] := by
  cases h with
  | unsigned hne _ => exact hne
  | signed _ _ => exact List.cons_ne_nil _ _

/-- A numeral ends in a digit. -/
theorem Denotes.getLast? {cs : List Char} {n : Nat} (h : Denotes cs n) :
    ∃ c, cs.getLast? = some c ∧ c.isDigit = true := by
  cases h with
  | unsigned hne hdigits =>
      exact ⟨_, List.getLast?_eq_some_getLast hne, hdigits _ (List.getLast_mem hne)⟩
  | @signed digits hne hdigits =>
      refine ⟨digits.getLast hne, ?_, hdigits _ (List.getLast_mem hne)⟩
      rw [List.getLast?_cons, List.getLast?_eq_some_getLast hne]
      rfl

/-- What holds of digits and of the plus sign holds of all characters of a numeral. -/
theorem Denotes.forall_mem {P : Char → Prop} {cs : List Char} {n : Nat} (h : Denotes cs n)
    (hplus : P '+') (hdigit : ∀ c, c.isDigit = true → P c) : ∀ c ∈ cs, P c := by
  cases h with
  | unsigned hne hdigits => exact fun c hc => hdigit c (hdigits c hc)
  | signed hne hdigits => exact List.forall_mem_cons.2 ⟨hplus, fun c hc => hdigit c (hdigits c hc)⟩

theorem isBlank_of_isDigit {c : Char} (h : c.isDigit = true) : isBlank c = false := by
  have hrange := isDigit_iff.1 h
  simp only [isBlank, Bool.or_eq_false_iff, Bool.and_eq_false_iff, beq_eq_false_iff_ne,
    decide_eq_false_iff_not]
  omega

theorem Denotes.not_blank {cs : List Char} {n : Nat} (h : Denotes cs n) :
    ∀ c ∈ cs, isBlank c = false :=
  h.forall_mem (by decide) fun _ => isBlank_of_isDigit

end NodeFleet.Text.Numeral
