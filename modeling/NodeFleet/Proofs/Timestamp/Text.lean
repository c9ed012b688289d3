import Mathlib.Data.List.TakeWhile
import Mathlib.Tactic.SplitIfs
import NodeFleet.Proofs.Text.Parts
import NodeFleet.Proofs.Timestamp.Calendar

/-!
# Timestamps as text

The reader allows for more than the writer writes, and reads what was written part by part:
each part stands with zeros in front up to a width (`digits?_padded`), except for a year of
more than four digits, which has a sign before it and ends where the digits do.
-/

namespace NodeFleet

/-! ## Numerals with zeros in front -/

namespace Text.Numeral

theorem continue?_replicate (count : Nat) : continue? 0 (List.replicate count '0') = some 0 := by
  induction count with
  | zero => rfl
  | succ count ih => exact ih

theorem digits?_padded (width n : Nat) : digits? (padded width n) = some n := by
  have hread : continue? 0 (padded width n) = some n := by
    rw [padded, continue?_append, continue?_replicate]
    exact continue?_write n
  cases hpadded : padded width n with
  | nil => exact absurd (List.append_eq_nil_iff.1 hpadded).2 (write_ne_nil n)
  | cons c rest =>
      rw [hpadded] at hread
      exact hread

theorem length_padded {width n : Nat} (h : n < 10 ^ (width + 1)) :
    (padded (width + 1) n).length = width + 1 := by
  have hle : (write n).length ≤ width + 1 := length_write_le h
  rw [padded, List.length_append, List.length_replicate]
  omega

/-- What holds of all digits holds of all characters. -/
theorem forall_mem_padded {P : Char → Prop} (h : ∀ d < 10, P (digitChar d)) (width n : Nat) :
    ∀ c ∈ padded width n, P c := by
  intro c hc
  rcases List.mem_append.1 hc with hzero | hdigit
  · obtain rfl := List.eq_of_mem_replicate hzero
    exact h 0 (by decide)
  · exact forall_mem_write h n c hdigit

end Text.Numeral

namespace Timestamp

open Text

/-! ## Parts -/

theorem isDigit_padded (width n : Nat) : ∀ c ∈ Numeral.padded width n, c.isDigit = true :=
  Numeral.forall_mem_padded (by decide) width n

/-- A run of digits ends where the width does or the digits do. -/
theorem digits?_run {width n : Nat} {run rest : List Char}
    (hrun : ((run ++ rest).take width).takeWhile Char.isDigit = run)
    (hread : Numeral.digits? run = some n) : digits? width (run ++ rest) = some (n, rest) := by
  simp only [digits?, hrun, hread, List.drop_left, Option.map_some]

theorem digits?_padded {width n : Nat} (h : n < 10 ^ (width + 1)) (rest : List Char) :
    digits? (width + 1) (Numeral.padded (width + 1) n ++ rest) = some (n, rest) := by
  refine digits?_run ?_ (Numeral.digits?_padded (width + 1) n)
  have htake : (Numeral.padded (width + 1) n ++ rest).take (width + 1) =
      Numeral.padded (width + 1) n := List.take_left' (Numeral.length_padded h)
  rw [htake]
  exact List.takeWhile_eq_self_iff.2 (isDigit_padded (width + 1) n)

/-- The first digit is neither a blank nor a sign. -/
theorem exists_padded (width n : Nat) : ∃ c digits, Numeral.padded width n = c :: digits ∧
    isBlank c = false ∧ c ≠ '-' ∧ c ≠ '+' := by
  have hne : Numeral.padded width n ≠ [] := fun hnil =>
    Numeral.write_ne_nil n (List.append_eq_nil_iff.1 hnil).2
  obtain ⟨c, digits, hpadded⟩ := List.exists_cons_of_ne_nil hne
  have hall : ∀ c ∈ Numeral.padded width n, isBlank c = false ∧ c ≠ '-' ∧ c ≠ '+' :=
    Numeral.forall_mem_padded (by decide) width n
  exact ⟨c, digits, hpadded, hall c (hpadded ▸ List.mem_cons_self)⟩

theorem skipBlanks_cons {c : Char} (h : isBlank c = false) (rest : List Char) :
    skipBlanks (c :: rest) = c :: rest :=
  List.dropWhile_cons_of_neg (by simp [h])

theorem part?_padded {n : Nat} (h : n < 100) (rest : List Char) :
    part? 2 (Numeral.padded 2 n ++ rest) = some (n, rest) := by
  obtain ⟨c, digits, hpadded, hblank, -, -⟩ := exists_padded 2 n
  have hskip : skipBlanks (Numeral.padded 2 n ++ rest) = Numeral.padded 2 n ++ rest := by
    rw [hpadded]
    exact skipBlanks_cons hblank (digits ++ rest)
  rw [part?, hskip]
  exact digits?_padded h rest

theorem mark?_cons {mark : Char} (h : isBlank mark = false) (rest : List Char) :
    mark? mark (mark :: rest) = some rest := by
  simp only [mark?, skipBlanks_cons h, if_true]

/-- Digits before another character end there, however far they go. -/
theorem takeWhile_padded {c : Char} (h : c.isDigit = false) (width n : Nat) (rest : List Char) :
    (Numeral.padded width n ++ c :: rest).takeWhile Char.isDigit = Numeral.padded width n := by
  rw [List.takeWhile_append_of_pos (isDigit_padded width n),
    List.takeWhile_cons_of_neg (by simp [h]), List.append_nil]

theorem year?_yearChars (year : Int) (rest : List Char) :
    year? (yearChars year ++ '-' :: rest) = some (year, '-' :: rest) := by
  by_cases hplain : 0 ≤ year ∧ year ≤ 9999
  · have hread : digits? 4 (Numeral.padded 4 year.toNat ++ '-' :: rest) =
        some (year.toNat, '-' :: rest) := digits?_padded (by omega) _
    have hvalue : (year.toNat : Int) = year := Int.toNat_of_nonneg hplain.1
    obtain ⟨c, digits, hpadded, hblank, hminus, hplus⟩ := exists_padded 4 year.toNat
    rw [hpadded, List.cons_append] at hread
    have hchars : yearChars year = c :: digits := (if_pos hplain).trans hpadded
    rw [hchars, List.cons_append, year?, skipBlanks_cons hblank]
    split
    · rename_i heq
      exact absurd (List.cons.inj heq).1 hminus
    · rename_i heq
      exact absurd (List.cons.inj heq).1 hplus
    · rw [hread, Option.map_some, hvalue]
  · -- The reader takes all digits after the sign.
    have hread : digits? (Numeral.padded 4 year.natAbs ++ '-' :: rest).length
        (Numeral.padded 4 year.natAbs ++ '-' :: rest) = some (year.natAbs, '-' :: rest) := by
      refine digits?_run ?_ (Numeral.digits?_padded 4 year.natAbs)
      rw [List.take_length]
      exact takeWhile_padded (by decide) 4 year.natAbs rest
    by_cases hnegative : year < 0
    · have hvalue : 0 - (year.natAbs : Int) = year := by omega
      have hchars : yearChars year = '-' :: Numeral.padded 4 year.natAbs := by
        rw [yearChars, if_neg hplain, if_pos hnegative]
      rw [hchars, List.cons_append, year?, skipBlanks_cons (by decide)]
      simp only [hread, Option.map_some, hvalue]
    · have hvalue : (year.natAbs : Int) = year := by omega
      have hchars : yearChars year = '+' :: Numeral.padded 4 year.natAbs := by
        rw [yearChars, if_neg hplain, if_neg hnegative]
      rw [hchars, List.cons_append, year?, skipBlanks_cons (by decide)]
      simp only [hread, Option.map_some, hvalue]

theorem fraction?_padded {width n : Nat} (hwidth : width < 9) (hlength : n < 10 ^ (width + 1)) :
    fraction? ('.' :: Numeral.padded (width + 1) n ++ ['Z']) =
      some (n * 10 ^ (8 - width), ['Z']) := by
  have hrun : (Numeral.padded (width + 1) n ++ ['Z']).takeWhile Char.isDigit =
      Numeral.padded (width + 1) n := takeWhile_padded (by decide) (width + 1) n []
  have hkept : (Numeral.padded (width + 1) n).take 9 = Numeral.padded (width + 1) n :=
    List.take_of_length_le (by rw [Numeral.length_padded hlength]; omega)
  have hplaces : 9 - (width + 1) = 8 - width := by omega
  have hdrop : (Numeral.padded (width + 1) n ++ ['Z']).drop (width + 1) = ['Z'] :=
    List.drop_left' (Numeral.length_padded hlength)
  simp only [List.cons_append, fraction?, hrun, hkept, Numeral.digits?_padded, Option.map_some,
    Numeral.length_padded hlength, hplaces, hdrop]

theorem fraction?_fractionChars {nano : Nat} (h : nano < 10 ^ 9) :
    fraction? (fractionChars nano ++ ['Z']) = some (nano, ['Z']) := by
  unfold fractionChars
  split_ifs with hzero hmilli hmicro
  · rw [hzero]
    rfl
  · rw [fraction?_padded (by decide) (by omega)]
    simp only [Option.some.injEq, Prod.mk.injEq, and_true]
    omega
  · rw [fraction?_padded (by decide) (by omega)]
    simp only [Option.some.injEq, Prod.mk.injEq, and_true]
    omega
  · rw [fraction?_padded (by decide) h]
    simp

/-- Whether a timestamp is a point of time of the calendar. -/
structure IsValid (t : Timestamp) : Prop where
  date : t.date.isValid = true
  nano : t.nano < 10 ^ 9 ∨ t.nano < 2 * 10 ^ 9 ∧ t.second % 60 = 59

/-- A date is at most the 31st of the twelfth month. -/
theorem Date.parts_le {d : Date} (h : d.isValid = true) : d.month ≤ 12 ∧ d.day ≤ 31 := by
  simp only [Date.isValid, Bool.and_eq_true, decide_eq_true_eq] at h
  obtain ⟨⟨⟨⟨-, -⟩, hmonth⟩, -⟩, hday⟩ := h
  have hlength : daysInMonth d.year d.month ≤ 31 := by
    unfold daysInMonth
    split_ifs <;> decide
  exact ⟨hmonth, Nat.le_trans hday hlength⟩

/-- The parts of a timestamp make it up again. -/
theorem IsValid.ofParts?_eq {t : Timestamp} (h : t.IsValid) :
    let ofDay := (t.second % 86400).toNat
    ofParts? t.date (ofDay / 3600) (ofDay / 60 % 60) (ofDay % 60 + t.nano / 1000000000)
      (t.nano % 1000000000) 0 = some t := by
  intro ofDay
  have hofDay : ofDay < 86400 := by omega
  have hdays : t.date.toDays = t.second / 86400 := toDays_ofDays (t.second / 86400)
  have hvalid : t.date.isValid = true ∧ ofDay / 3600 < 24 ∧ ofDay / 60 % 60 < 60 ∧
      ofDay % 60 + t.nano / 1000000000 ≤ 60 ∧ (0 : Int).natAbs < 86400 := by
    have hsecond : ofDay % 60 + t.nano / 1000000000 ≤ 60 := by
      rcases h.nano with hlt | ⟨hlt, hleap⟩ <;> omega
    exact ⟨h.date, by omega, by omega, hsecond, by decide⟩
  have hsplit : (ofDay : Int) = t.second % 86400 :=
    Int.toNat_of_nonneg (Int.emod_nonneg _ (by decide))
  have hleast : t.nano < 2 * 10 ^ 9 := by
    rcases h.nano with hlt | ⟨hlt, -⟩ <;> omega
  -- Sixty seconds are a leap second and no others.
  by_cases hleap : ofDay % 60 + t.nano / 1000000000 = 60
  · have hsecond : t.date.toDays * 86400 +
        (3600 * (ofDay / 3600) + 60 * (ofDay / 60 % 60) + 59 : Nat) - 0 = t.second := by
      rw [hdays]
      omega
    have hnano : t.nano % 1000000000 + 1000000000 = t.nano := by omega
    rw [ofParts?, if_pos hvalid]
    simp only [hleap, if_true, hsecond, hnano]
    exact if_pos h.date
  · have hplain : t.nano < 10 ^ 9 := by
      rcases h.nano with hlt | ⟨hlt, hlast⟩
      · exact hlt
      · omega
    have hsecond : t.date.toDays * 86400 + (3600 * (ofDay / 3600) + 60 * (ofDay / 60 % 60) +
        (ofDay % 60 + t.nano / 1000000000) : Nat) - 0 = t.second := by
      rw [hdays]
      omega
    have hnano : t.nano % 1000000000 = t.nano := Nat.mod_eq_of_lt hplain
    rw [ofParts?, if_pos hvalid]
    simp only [hleap, if_false, hsecond, hnano]
    exact if_pos h.date

theorem bind_of_eq {α β : Type} {x : Option α} {a : α} {go : α → Option β} {y : Option β}
    (hx : x = some a) (hgo : go a = y) : x.bind go = y := by
  rw [hx, Option.bind_some, hgo]

theorem readChars?_parts {d : Date} {hour minute second nano : Nat} (hmonth : d.month < 100)
    (hday : d.day < 100) (hhour : hour < 100) (hminute : minute < 100) (hsecond : second < 100)
    (hnano : nano < 10 ^ 9) :
    readChars? (yearChars d.year ++ '-' :: (Numeral.padded 2 d.month ++ '-' ::
        (Numeral.padded 2 d.day ++ 'T' :: (Numeral.padded 2 hour ++ ':' ::
        (Numeral.padded 2 minute ++ ':' :: (Numeral.padded 2 second ++
        (fractionChars nano ++ ['Z']))))))) =
      ofParts? d hour minute second nano 0 := by
  have hdash (rest : List Char) : mark? '-' ('-' :: rest) = some rest :=
    mark?_cons (by decide) rest
  have hcolon (rest : List Char) : mark? ':' (':' :: rest) = some rest :=
    mark?_cons (by decide) rest
  have hoffset : offset? (skipBlanks ['Z']) = some (0, []) := rfl
  refine bind_of_eq (year?_yearChars d.year _) ?_
  refine bind_of_eq (hdash _) ?_
  refine bind_of_eq (part?_padded hmonth _) ?_
  refine bind_of_eq (hdash _) ?_
  refine bind_of_eq (part?_padded hday _) ?_
  refine bind_of_eq rfl ?_
  refine bind_of_eq (part?_padded hhour _) ?_
  refine bind_of_eq (hcolon _) ?_
  refine bind_of_eq (part?_padded hminute _) ?_
  refine bind_of_eq (hcolon _) ?_
  refine bind_of_eq (part?_padded hsecond _) ?_
  refine bind_of_eq (fraction?_fractionChars hnano) ?_
  refine bind_of_eq hoffset ?_
  exact if_pos rfl

/-- A timestamp is read back as it was. -/
theorem read?_text {t : Timestamp} (h : t.IsValid) : read? t.text = some t := by
  obtain ⟨hmonth, hday⟩ := Date.parts_le h.date
  have hnano : t.nano < 2 * 10 ^ 9 := by
    rcases h.nano with hlt | ⟨hlt, -⟩ <;> omega
  let ofDay := (t.second % 86400).toNat
  have hofDay : ofDay < 86400 := by omega
  have hchars : t.chars = yearChars t.date.year ++ '-' :: (Numeral.padded 2 t.date.month ++
      '-' :: (Numeral.padded 2 t.date.day ++ 'T' :: (Numeral.padded 2 (ofDay / 3600) ++
      ':' :: (Numeral.padded 2 (ofDay / 60 % 60) ++ ':' ::
      (Numeral.padded 2 (ofDay % 60 + t.nano / 1000000000) ++
      (fractionChars (t.nano % 1000000000) ++ ['Z'])))))) := by
    simp only [chars, dateChars, timeChars, List.append_assoc, List.cons_append]
    rfl
  rw [read?, text, String.toList_ofList, hchars,
    readChars?_parts (by omega) (by omega) (by omega) (by omega) (by omega) (by omega)]
  exact h.ofParts?_eq

end Timestamp

end NodeFleet
