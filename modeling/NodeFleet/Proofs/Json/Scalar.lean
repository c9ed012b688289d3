import Mathlib.Tactic.SplitIfs
import NodeFleet.Json.Parser
import NodeFleet.Json.Printer
import NodeFleet.Proofs.Text.Parts

/-!
# Numbers and strings in JSON text

A number that was written is read back if what follows it cannot belong to a number (`Ends`).  A
string ends at its closing quotation mark, because the writer escapes every other one.
-/

namespace NodeFleet.Json

open NodeFleet.Text

/-- Whether a text is what can follow a value. -/
def Ends (rest : List Char) : Prop :=
  ∀ c ∈ rest.head?, c = ',' ∨ c = ']' ∨ c = '\x7d'

/-! ## Numbers -/

/-- The value of a digit as the reader takes it. -/
def digitValue (c : Char) : Nat := c.toNat - '0'.toNat

theorem digitValue_digitChar (n : Nat) : digitValue (Numeral.digitChar n) = n % 10 := by
  have h : ∀ d : Fin 10, digitValue (Numeral.digitChar d.val) = d.val := by decide
  have hd := h ⟨n % 10, Nat.mod_lt n (by decide)⟩
  simpa [Numeral.digitChar, Nat.mod_mod] using hd

theorem isDigit_write (n : Nat) : ∀ c ∈ Numeral.write n, c.isDigit = true :=
  Numeral.forall_mem_write (by decide) n

theorem Ends.not_digit {rest : List Char} (h : Ends rest) :
    rest.takeWhile Char.isDigit = [] ∧ rest.dropWhile Char.isDigit = rest := by
  cases rest with
  | nil => exact ⟨rfl, rfl⟩
  | cons c rest =>
      have hc : c.isDigit = false := by
        rcases h c rfl with rfl | rfl | rfl <;> decide
      exact ⟨List.takeWhile_cons_of_neg (by simp [hc]), List.dropWhile_cons_of_neg (by simp [hc])⟩

theorem takeDigits_write (n : Nat) {rest : List Char} (h : Ends rest) :
    takeDigits (Numeral.write n ++ rest) = ((Numeral.write n).map digitValue, rest) := by
  obtain ⟨htake, hdrop⟩ := h.not_digit
  rw [takeDigits, List.takeWhile_append_of_pos (isDigit_write n),
    List.dropWhile_append_of_pos (isDigit_write n), htake, hdrop, List.append_nil]
  rfl

/-- As long as the number is a word, all digits count. -/
theorem addWhole_write {n : Nat} (h : n < 2 ^ 64) (more : List Nat) :
    Significand.addWhole ⟨0, 0⟩ ((Numeral.write n).map digitValue ++ more) =
      Significand.addWhole ⟨n, 0⟩ more := by
  induction n using Nat.strongRecOn generalizing more with
  | ind n ih =>
      by_cases hlt : n < 10
      · have hvalue : digitValue (Numeral.digitChar n) = n := by
          rw [digitValue_digitChar, Nat.mod_eq_of_lt hlt]
        have hpush : Significand.push? ⟨0, 0⟩ n = some n := by
          simp only [Significand.push?, Nat.mul_zero, Nat.zero_add, if_pos h]
        rw [Numeral.write_of_lt hlt, List.map_singleton, hvalue, List.singleton_append,
          Significand.addWhole, hpush]
      · have hvalue : 10 * (n / 10) + n % 10 = n := Nat.div_add_mod n 10
        have hpush : Significand.push? ⟨n / 10, 0⟩ (n % 10) = some n := by
          simp only [Significand.push?, hvalue, if_pos h]
        rw [Numeral.write_of_le (Nat.not_lt.1 hlt), List.map_append, List.append_assoc,
          ih (n / 10) (by omega) (by omega), List.map_singleton, digitValue_digitChar,
          List.singleton_append, Significand.addWhole, hpush]

/-- No digit is left out at the start. -/
theorem not_padded (n : Nat) : ¬ (((Numeral.write n).map digitValue).head? = some 0 ∧
    1 < ((Numeral.write n).map digitValue).length) := by
  rintro ⟨hzero, hlong⟩
  rw [List.length_map] at hlong
  have hpos : 0 < n := by
    by_contra hnot
    obtain rfl : n = 0 := by omega
    rw [Numeral.write_of_lt (by decide)] at hlong
    exact absurd hlong (by decide)
  rw [List.head?_map, Option.map_eq_some_iff] at hzero
  obtain ⟨c, hc, hvalue⟩ := hzero
  have hdigit : ∀ d < 10, digitValue (Numeral.digitChar d) = 0 → Numeral.digitChar d = '0' := by
    decide
  obtain ⟨d, hd, rfl⟩ := Numeral.mem_write (List.mem_of_mem_head? hc)
  exact Numeral.head?_write hpos (hdigit d hd hvalue ▸ hc)

theorem readUnsigned_write {n : Nat} (h : n < 2 ^ 64) {rest : List Char} (hends : Ends rest) :
    readUnsigned false (Numeral.write n ++ rest) = (.number (.natural n), some rest) ∧
      (0 < n → n ≤ 2 ^ 63 →
        readUnsigned true (Numeral.write n ++ rest) = (.number (.negative n), some rest)) := by
  have hwhole : Significand.addWhole ⟨0, 0⟩ ((Numeral.write n).map digitValue) = ⟨n, 0⟩ := by
    have hread := addWhole_write h []
    rwa [List.append_nil] at hread
  obtain ⟨d, digits, hdigits⟩ : ∃ d digits, (Numeral.write n).map digitValue = d :: digits :=
    List.exists_cons_of_ne_nil fun hnil => Numeral.write_ne_nil n (List.map_eq_nil_iff.1 hnil)
  have hfirst := not_padded n
  have htake := takeDigits_write n hends
  rw [hdigits] at hwhole hfirst htake
  -- Nothing that follows a value goes on with a number.
  have hrest (isNegative : Bool) : readUnsigned isNegative (Numeral.write n ++ rest) =
      if ¬ isNegative then (.number (.natural n), some rest)
      else if 0 < n ∧ n ≤ 2 ^ 63 then (.number (.negative n), some rest)
      else (finish true ⟨n, 0⟩, some rest) := by
    simp only [readUnsigned, htake, if_neg hfirst, hwhole]
    cases rest with
    | nil => rfl
    | cons c rest => rcases hends c rfl with rfl | rfl | rfl <;> rfl
  refine ⟨hrest false, fun hpos hle => ?_⟩
  rw [hrest true]
  simp only [not_true_eq_false, if_false, if_pos (And.intro hpos hle)]

/-! ## Strings -/

theorem hexDigit?_hexLower : ∀ d < 16, Percent.hexDigit? (hexLower d) = some d := by decide

theorem readUnit?_control {c : Char} (h : c.toNat < 0x20) (rest : List Char) :
    readUnit? ('0' :: '0' :: hexLower (c.toNat / 16) :: hexLower (c.toNat % 16) :: rest) =
      some (c.toNat, rest) := by
  have hzero : Percent.hexDigit? '0' = some 0 := by decide
  have hvalue : ((0 * 16 + 0) * 16 + c.toNat / 16) * 16 + c.toNat % 16 = c.toNat := by omega
  simp only [readUnit?, hzero, hexDigit?_hexLower (c.toNat / 16) (by omega),
    hexDigit?_hexLower (c.toNat % 16) (by omega), Option.bind_eq_bind, Option.bind_some, hvalue]
  rfl

/-- An escaped character is read as the character. -/
theorem readLiteral_escapeChar (fuel : Nat) (l : Literal) (c : Char) (rest : List Char) :
    readLiteral (fuel + 1) l (escapeChar c ++ rest) =
      readLiteral fuel { l with reversed := c :: l.reversed } rest := by
  unfold escapeChar
  split_ifs with hquote hslash hback htab hline hfeed hreturn hcontrol
  · subst hquote
    rfl
  · subst hslash
    rfl
  · obtain rfl : c = Char.ofNat 8 := by rw [← hback, Char.ofNat_toNat]
    rfl
  · subst htab
    rfl
  · subst hline
    rfl
  · obtain rfl : c = Char.ofNat 12 := by rw [← hfeed, Char.ofNat_toNat]
    rfl
  · subst hreturn
    rfl
  · have hunit : Unit16.ofNat c.toNat = .whole c := by
      rw [Unit16.ofNat, if_neg (by omega), if_neg (by omega), Char.ofNat_toNat]
    simp only [List.cons_append, List.nil_append, readLiteral, readUnit?_control hcontrol, hunit,
      Option.bind_eq_bind, Option.bind_some]
  · rw [List.singleton_append, readLiteral, if_neg hcontrol]
    · exact hquote
    · exact fun _ heq _ => hslash heq
    · exact fun _ _ heq _ => hslash heq

/-- The characters of a text are read up to the closing quotation mark. -/
theorem readLiteral_quoted {fuel : Nat} {cs : List Char} (h : cs.length < fuel) (l : Literal)
    (rest : List Char) :
    readLiteral fuel l (cs.flatMap escapeChar ++ '"' :: rest) =
      some ({ l with reversed := cs.reverse ++ l.reversed }, rest) := by
  induction cs generalizing fuel l with
  | nil =>
      obtain ⟨fuel, rfl⟩ := Nat.exists_eq_add_one.2 h
      rfl
  | cons c cs ih =>
      obtain ⟨fuel, rfl⟩ : ∃ more, fuel = more + 1 :=
        Nat.exists_eq_add_one.2 (Nat.lt_of_le_of_lt (Nat.zero_le _) h)
      rw [List.flatMap_cons, List.append_assoc, readLiteral_escapeChar,
        ih (Nat.lt_of_succ_lt_succ h), List.reverse_cons, List.append_assoc]
      rfl

theorem readString_quoted {fuel : Nat} {text : String} (h : text.toList.length < fuel)
    (rest : List Char) :
    readString fuel (text.toList.flatMap escapeChar ++ '"' :: rest) =
      some (⟨text.toList.reverse, true⟩, rest) := by
  rw [readString, readLiteral_quoted h, List.append_nil]

theorem literal_text? (text : String) :
    Literal.text? ⟨text.toList.reverse, true⟩ = some text := by
  rw [Literal.text?, if_pos rfl, List.reverse_reverse, String.ofList_toList]

/-- No escape is empty. -/
theorem length_le_escaped (cs : List Char) : cs.length ≤ (cs.flatMap escapeChar).length := by
  induction cs with
  | nil => exact Nat.le_refl 0
  | cons c cs ih =>
      have hone : 1 ≤ (escapeChar c).length := by
        unfold escapeChar
        split_ifs <;> simp
      rw [List.flatMap_cons, List.length_append, List.length_cons]
      omega

end NodeFleet.Json
