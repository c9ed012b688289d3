import Mathlib.Data.Nat.Find
import NodeFleet.Cli.Page
import NodeFleet.Proofs.Json.Text
import NodeFleet.Proofs.Quantity.Grammar
import NodeFleet.Wire.Node

/-!
# Written quantities

A number of bytes is written in the largest unit in which it is whole.  Service and client look
for that unit in a table, from the largest unit down.  The service has the bytes of a unit in its
table and the client the places of a shift, but the units are the same and in the same order
(`map_scaleOf_memoryUnits`), so both write the same text.  What is written spells the number in
the grammar of quantities, so it is read back, also where it stands as a string in JSON.
-/

namespace NodeFleet.Quantity

open Cli Json Text

/-! ## The largest unit -/

/-- Among the first powers of 1024, up to the one of exponent `most`, the one of exponent `place`
is the largest that divides a number. -/
structure IsWholeIn (most n place : Nat) : Prop where
  le : place ≤ most
  dvd : 1024 ^ place ∣ n
  largest : ∀ other ≤ most, 1024 ^ other ∣ n → other ≤ place

theorem IsWholeIn.unique {most n first second : Nat} (hfirst : IsWholeIn most n first)
    (hsecond : IsWholeIn most n second) : first = second :=
  Nat.le_antisymm (hsecond.largest first hfirst.le hfirst.dvd)
    (hfirst.largest second hsecond.le hsecond.dvd)

/-- The suffixes of the powers of 1024, from the single byte on. -/
def binarySuffixes : List String := ["", "Ki", "Mi", "Gi", "Ti", "Pi"]

/-- A text gives a number of bytes in the largest unit in which it is whole. -/
inductive IsWritten (n : Nat) : String → Prop
  | intro {place : Nat} {suffix : String} (hunit : IsWholeIn 5 n place)
      (hsuffix : binarySuffixes[place]? = some suffix) :
      IsWritten n (Numeral.text (n / 1024 ^ place) ++ suffix)

theorem IsWritten.unique {n : Nat} {first second : String} (hfirst : IsWritten n first)
    (hsecond : IsWritten n second) : first = second := by
  obtain ⟨hunit, hsuffix⟩ := hfirst
  obtain ⟨hunit', hsuffix'⟩ := hsecond
  obtain rfl := hunit.unique hunit'
  rw [Option.some.inj (hsuffix.symm.trans hsuffix')]

/-! ## Finding the unit -/

/-- From the largest down, the first scale that divides is the largest that does. -/
theorem writeScaled_of_dvd {n : Nat} {scale : Scale} {table : List Scale}
    (hsorted : table.Pairwise fun larger smaller => smaller.bytes < larger.bytes)
    (hmem : scale ∈ table) (hdvd : scale.bytes ∣ n)
    (hlargest : ∀ other ∈ table, other.bytes ∣ n → other.bytes ≤ scale.bytes) :
    writeScaled n table = Numeral.write (n / scale.bytes) ++ scale.suffix := by
  induction table with
  | nil => exact absurd hmem List.not_mem_nil
  | cons head table ih =>
      obtain ⟨hhead, hrest⟩ := List.pairwise_cons.1 hsorted
      obtain ⟨hle, hlargest⟩ := List.forall_mem_cons.1 hlargest
      by_cases hwhole : n % head.bytes = 0
      · rw [writeScaled, if_pos hwhole]
        rcases List.mem_cons.1 hmem with rfl | hmem
        · rfl
        · exact absurd (hle (Nat.dvd_of_mod_eq_zero hwhole)) (Nat.not_le.2 (hhead scale hmem))
      · rw [writeScaled, if_neg hwhole]
        rcases List.mem_cons.1 hmem with rfl | hmem
        · exact absurd (Nat.mod_eq_zero_of_dvd hdvd) hwhole
        · exact ih hrest hmem hlargest

theorem writeScaled_of_not_dvd {n : Nat} {table : List Scale}
    (h : ∀ scale ∈ table, ¬ scale.bytes ∣ n) : writeScaled n table = Numeral.write n := by
  induction table with
  | nil => rfl
  | cons head table ih =>
      obtain ⟨hhead, hrest⟩ := List.forall_mem_cons.1 h
      rw [writeScaled, if_neg fun hwhole => hhead (Nat.dvd_of_mod_eq_zero hwhole), ih hrest]

theorem exists_place : ∀ scale ∈ binaryScales.reverse, ∃ place ≤ 5, 0 < place ∧
    scale.bytes = 1024 ^ place := by decide

theorem exists_scale : ∀ place < 6, 0 < place → ∀ suffix ∈ binarySuffixes[place]?,
    ∃ scale ∈ binaryScales.reverse, scale.bytes = 1024 ^ place ∧
      scale.suffix = suffix.toList := by decide

theorem exists_isWholeIn (n : Nat) : ∃ place suffix, IsWholeIn 5 n place ∧
    binarySuffixes[place]? = some suffix := by
  have hle : Nat.findGreatest (1024 ^ · ∣ n) 5 ≤ 5 := Nat.findGreatest_le 5
  have hdvd : 1024 ^ Nat.findGreatest (1024 ^ · ∣ n) 5 ∣ n :=
    Nat.findGreatest_spec (P := fun place => 1024 ^ place ∣ n) (Nat.zero_le 5) (Nat.one_dvd n)
  exact ⟨_, _, ⟨hle, hdvd, fun other hother h => Nat.le_findGreatest hother h⟩,
    List.getElem?_eq_getElem (Nat.lt_succ_of_le hle)⟩

theorem write_isWritten {n : Nat} (h : 0 < n) : IsWritten n (write n) := by
  obtain ⟨place, suffix, hunit, hsuffix⟩ := exists_isWholeIn n
  suffices htext : writeScaled n binaryScales.reverse =
      Numeral.write (n / 1024 ^ place) ++ suffix.toList by
    rw [write, writeChars, if_neg (Nat.ne_of_gt h), htext, String.ofList_append,
      String.ofList_toList]
    exact .intro hunit hsuffix
  rcases Nat.eq_zero_or_pos place with rfl | hpos
  · have hno : ∀ scale ∈ binaryScales.reverse, ¬ scale.bytes ∣ n := by
      intro scale hscale hdvd
      obtain ⟨other, hle, hpos, hbytes⟩ := exists_place scale hscale
      exact absurd (hunit.largest other hle (hbytes ▸ hdvd)) (Nat.not_le.2 hpos)
    obtain rfl := Option.some.inj hsuffix
    rw [writeScaled_of_not_dvd hno, Nat.pow_zero, Nat.div_one]
    exact (List.append_nil _).symm
  · obtain ⟨scale, hscale, hbytes, hletters⟩ :=
      exists_scale place (Nat.lt_succ_of_le hunit.le) hpos suffix hsuffix
    rw [← hbytes, ← hletters]
    refine writeScaled_of_dvd (by decide) hscale (hbytes ▸ hunit.dvd) fun other hother hdvd => ?_
    obtain ⟨smaller, hle, -, heq⟩ := exists_place other hother
    rw [heq, hbytes]
    exact Nat.pow_le_pow_right (by decide) (hunit.largest smaller hle (heq ▸ hdvd))

/-! ## The client -/

/-- A unit of the client as a scale of the service. -/
def scaleOf (unit : String × Nat) : Scale := ⟨unit.1.toList, 1 <<< unit.2⟩

theorem inFirstUnit_eq (n : Nat) (units : List (String × Nat)) :
    inFirstUnit n units = String.ofList (writeScaled n (units.map scaleOf)) := by
  induction units with
  | nil => rfl
  | cons unit units ih =>
      simp only [inFirstUnit, List.map_cons, writeScaled, scaleOf, apply_ite String.ofList,
        String.ofList_append, String.ofList_toList, ← ih]
      rfl

/-- Both tables have the same units in the same order. -/
theorem map_scaleOf_memoryUnits : memoryUnits.map scaleOf = binaryScales.reverse := by decide

/-- Client and service write the same text. -/
theorem memoryText_eq_write (n : Nat) : memoryText n = write n := by
  rw [memoryText, inFirstUnit_eq, map_scaleOf_memoryUnits, write, writeChars]
  split_ifs <;> rfl

/-! ## Reading what was written -/

theorem isScale_binarySuffixes {place : Nat} {suffix : String}
    (h : binarySuffixes[place]? = some suffix) : IsScale suffix.toList (1024 ^ place) := by
  have hall : ∀ place < 6, ∀ suffix ∈ binarySuffixes[place]?,
      (suffix.toList = [] ∧ 1024 ^ place = 1) ∨ ⟨suffix.toList, 1024 ^ place⟩ ∈ scales := by
    decide
  exact isScale_iff.2 (hall place (List.getElem?_eq_some_iff.1 h).1 suffix h)

/-- A number in the largest unit in which it is whole spells the number. -/
theorem IsWritten.spells {n : Nat} {text : String} (h : IsWritten n text) :
    ∃ number unit, Spells text.toList number unit ∧ number ≤ n ∧ number * unit = n := by
  obtain @⟨place, suffix, hunit, hsuffix⟩ := h
  refine ⟨n / 1024 ^ place, 1024 ^ place, ?_, Nat.div_le_self n _, Nat.div_mul_cancel hunit.dvd⟩
  have hspells : Spells ([] ++ (Numeral.write (n / 1024 ^ place) ++ suffix.toList) ++ []) _ _ :=
    .intro nofun (Numeral.denotes_write _) (isScale_binarySuffixes hsuffix) nofun
  rw [List.nil_append, List.append_nil] at hspells
  rw [String.toList_append, Numeral.text, String.toList_ofList]
  exact hspells

theorem read_write {n : Nat} (h : n < 2 ^ 64) : read (write n) = .ok n := by
  rcases Nat.eq_zero_or_pos n with rfl | hpos
  · decide
  · obtain ⟨number, unit, hspells, hle, hn⟩ := (write_isWritten hpos).spells
    exact read_eq_ok_iff.2 ⟨number, unit, hspells, Nat.lt_of_le_of_lt hle h, hn, h⟩

theorem bytes_write {n : Nat} (h : n < 2 ^ 64) : Wire.bytes (.string (write n)) = .ok n := by
  simp only [Wire.bytes, read_write h]

/-- Every number of bytes in a word is read back from what is written for it, and decoded from JSON
as a number and as a string.  Service and client write the same text.  Unless the number is zero,
that is its count of the largest power of 1024, up to the fifth, that divides it, followed by the
suffix of the power. -/
theorem write_round_trip {n : Nat} (h : n < 2 ^ 64) :
    read (write n) = .ok n ∧
      Wire.bytes (.nat n) = .ok n ∧ Wire.bytes (.string (write n)) = .ok n ∧
      decodeWhole Wire.bytes (parseWhole (Numeral.text n)) = .ok n ∧
      decodeWhole Wire.bytes (parseWhole (quoted (write n))) = .ok n ∧
      memoryText n = write n ∧
      (0 < n → ∃ place suffix, ["", "Ki", "Mi", "Gi", "Ti", "Pi"][place]? = some suffix ∧
        1024 ^ place ∣ n ∧ (∀ other ≤ 5, 1024 ^ other ∣ n → other ≤ place) ∧
        write n = Numeral.text (n / 1024 ^ place) ++ suffix) := by
  refine ⟨read_write h, rfl, bytes_write h, ?_, ?_, memoryText_eq_write n, fun hpos => ?_⟩
  · have hparsed : parseWhole (Numeral.text n) = (.nat n, true) := parseWhole_compact (j := .nat n) h
    rw [hparsed]
    rfl
  · have hparsed : parseWhole (quoted (write n)) = (.string (write n), true) :=
      parseWhole_compact (j := .string (write n)) trivial
    rw [hparsed, decodeWhole, bytes_write h]
    rfl
  · obtain ⟨place, suffix, hunit, hsuffix⟩ := exists_isWholeIn n
    exact ⟨place, suffix, hsuffix, hunit.dvd, hunit.largest,
      (write_isWritten hpos).unique (.intro hunit hsuffix)⟩

/-- The largest word that is whole in the largest unit. -/
theorem write_round_trip_at_largest_unit :
    let n := 2 ^ 64 - 2 ^ 50
    n < 2 ^ 64 ∧ write n = "16383Pi" ∧ memoryText n = "16383Pi" ∧ read "16383Pi" = .ok n := by
  intro n
  have h : n < 2 ^ 64 := by decide
  have hwrite : write n = "16383Pi" := by decide +kernel
  obtain ⟨hread, -, -, -, -, htext, -⟩ := write_round_trip h
  rw [hwrite] at hread htext
  exact ⟨h, hwrite, htext, hread⟩

end NodeFleet.Quantity
