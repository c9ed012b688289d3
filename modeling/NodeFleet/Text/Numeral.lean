import NodeFleet.Power

/-!
# Decimal numerals

Unsigned numbers are written as decimal digits without leading zeros and read
back from one or more decimal digits, with any number of leading zeros and at
most one plus sign in front.  A reader takes the bound that the value has to
stay below, so "does not fit" and "is not a number" are the same refusal, `none`.
-/

namespace NodeFleet.Text.Numeral

/-- The value of a decimal digit. -/
def digit? (c : Char) : Option Nat :=
  if '0' ≤ c ∧ c ≤ '9' then some (c.toNat - '0'.toNat) else none

/-- The digit that stands for `n % 10`. -/
def digitChar (n : Nat) : Char :=
  Char.ofNat ('0'.toNat + n % 10)

/-- Reads digits to the end, `value` being what the digits before them denote. -/
def continue? (value : Nat) : List Char → Option Nat
  | [] => some value
  | c :: rest => (digit? c).bind fun d => continue? (10 * value + d) rest

/-- The value of one or more digits. -/
def digits? : List Char → Option Nat
  | [] => none
  | cs => continue? 0 cs

/-- Drops one plus sign. -/
def unsigned : List Char → List Char
  | '+' :: rest => rest
  | cs => cs

/-- The value of an optional plus sign and digits, if it lies below `bound`. -/
def below? (bound : Nat) (cs : List Char) : Option Nat :=
  (digits? (unsigned cs)).filter (· < bound)

/-- The value of an unsigned 64-bit numeral. -/
def word? (cs : List Char) : Option Nat :=
  below? (2 ^ 64) cs

/-- The digits of `n`, most significant first, in front of `rest`. -/
def writeOnto (n : Nat) (rest : List Char) : List Char :=
  if n < 10 then digitChar n :: rest else writeOnto (n / 10) (digitChar n :: rest)
termination_by n
decreasing_by omega

/-- The digits of `n`, most significant first. -/
def write (n : Nat) : List Char :=
  writeOnto n []

/-- The numeral of `n` as text. -/
def text (n : Nat) : String :=
  String.ofList (write n)

/-- The numeral of `n` with zeros in front up to `width` digits. -/
def padded (width n : Nat) : List Char :=
  let digits := write n
  List.replicate (width - digits.length) '0' ++ digits

/-- The numeral of an integer, with a minus sign below zero. -/
def signedText (n : Int) : String :=
  if n < 0 then "-" ++ text n.natAbs else text n.natAbs

/-! ## Reading what was written -/

theorem digit?_digitChar (n : Nat) : digit? (digitChar n) = some (n % 10) := by
  have h : ∀ d : Fin 10, digit? (digitChar d.val) = some d.val := by decide
  have hd := h ⟨n % 10, Nat.mod_lt _ (by decide)⟩
  simpa [digitChar, Nat.mod_mod] using hd

theorem continue?_append (value : Nat) (front back : List Char) :
    continue? value (front ++ back) =
      (continue? value front).bind fun v => continue? v back := by
  induction front generalizing value with
  | nil => rfl
  | cons c front ih =>
      simp only [List.cons_append, continue?]
      cases digit? c with
      | none => rfl
      | some d => exact ih _

theorem writeOnto_eq_append (n : Nat) (rest : List Char) :
    writeOnto n rest = writeOnto n [] ++ rest := by
  induction n using Nat.strongRecOn generalizing rest with
  | ind n ih =>
      unfold writeOnto
      by_cases h : n < 10
      · simp [h]
      · simp only [h, if_false]
        rw [ih (n / 10) (by omega) (digitChar n :: rest), ih (n / 10) (by omega) [digitChar n]]
        simp

theorem continue?_write (n : Nat) : continue? 0 (write n) = some n := by
  unfold write
  induction n using Nat.strongRecOn with
  | ind n ih =>
      unfold writeOnto
      by_cases h : n < 10
      · simp [h, continue?, digit?_digitChar, Nat.mod_eq_of_lt h]
      · simp only [h, if_false]
        rw [writeOnto_eq_append, continue?_append, ih (n / 10) (by omega)]
        simp only [Option.bind_some, continue?, digit?_digitChar]
        congr 1
        omega

theorem write_ne_nil (n : Nat) : write n ≠ [] := by
  unfold write writeOnto
  by_cases h : n < 10
  · simp [h]
  · simp only [h, if_false]
    rw [writeOnto_eq_append]
    simp

/-- A numeral is read back as the number it was written for. -/
theorem digits?_write (n : Nat) : digits? (write n) = some n := by
  have hread := continue?_write n
  cases h : write n with
  | nil => exact absurd h (write_ne_nil n)
  | cons c rest => rw [h] at hread; exact hread

end NodeFleet.Text.Numeral
