import Mathlib.Data.List.Basic
import NodeFleet.Text.Blank
import NodeFleet.Text.Numeral
import NodeFleet.Text.Split

/-!
# Reading back what was put together

A text that is joined from parts by a character is split into the same parts, as long as no
part has the character.  Numerals consist of digits, so they can be such parts, and no
blank is lost when the whole is trimmed.
-/

namespace NodeFleet.Text

/-- What is said of the characters of a text is decided by the text, not by all characters. -/
instance (priority := high) decidableForallMem (P : Char → Prop) [DecidablePred P]
    (cs : List Char) : Decidable (∀ c ∈ cs, P c) :=
  List.decidableBAll P cs

instance (priority := high) decidableForallMemOption (P : Char → Prop) [DecidablePred P]
    (c? : Option Char) : Decidable (∀ c ∈ c?, P c) :=
  Option.decidableForallMem c?

/-! ## Joining and splitting -/

variable {separator : Char}

theorem splitOn_eq (separator : Char) (cs : List Char) :
    splitOn separator cs = cs.splitOn separator := by
  induction cs with
  | nil => simp [splitOn]
  | cons c rest ih =>
      have hparts := List.splitOn_ne_nil separator rest
      obtain ⟨part, parts, hsplit⟩ := List.exists_cons_of_ne_nil hparts
      rw [splitOn, ih, List.splitOn_cons_eq_if_modifyHead, hsplit]
      simp only [beq_iff_eq, List.modifyHead_cons]

theorem intercalate_nil_cons (parts : List (List Char)) :
    [separator].intercalate ([] :: parts) = parts.flatMap fun part => separator :: part := by
  induction parts with
  | nil => rfl
  | cons part rest ih =>
      rw [List.intercalate_cons_cons, List.flatMap_cons, ← ih]
      cases rest <;> simp

/-- Parts that each follow a separator come after an empty one. -/
theorem splitOn_flatMap {parts : List (List Char)} (h : ∀ part ∈ parts, separator ∉ part) :
    splitOn separator (parts.flatMap fun part => separator :: part) = [] :: parts := by
  rw [splitOn_eq, ← intercalate_nil_cons, List.splitOn_intercalate separator _ (List.cons_ne_nil _ _)]
  exact List.forall_mem_cons.2 ⟨List.not_mem_nil, h⟩

theorem flatMap_splitOn (separator : Char) (cs : List Char) :
    (splitOn separator cs).flatMap (fun part => separator :: part) = separator :: cs := by
  obtain ⟨part, parts, hsplit⟩ := List.exists_cons_of_ne_nil (splitOn_ne_nil separator cs)
  rw [← intercalate_nil_cons, hsplit, List.intercalate_cons_cons, ← hsplit, intercalate_splitOn]
  rfl

/-- A text is cut at the first separator. -/
theorem cut?_append {front : List Char} (h : separator ∉ front) (back : List Char) :
    cut? separator (front ++ separator :: back) = some (front, back) := by
  induction front with
  | nil => rw [List.nil_append, cut?, if_pos rfl]
  | cons c front ih =>
      have hne : separator ≠ c := List.ne_of_not_mem_cons h
      have hfront := List.not_mem_of_not_mem_cons h
      rw [List.cons_append, cut?, if_neg (hne.symm), ih hfront, Option.map_some]

theorem cut?_eq_none_iff {cs : List Char} : cut? separator cs = none ↔ separator ∉ cs := by
  induction cs with
  | nil => simp [cut?]
  | cons c rest ih =>
      by_cases hc : c = separator
      · simp [cut?, hc]
      · simp [cut?, hc, ih, Ne.symm hc]

/-- A text that has the separator is cut into what stands before its first occurrence and what
stands after that. -/
theorem exists_cut? {cs : List Char} (h : separator ∈ cs) :
    ∃ front back, cut? separator cs = some (front, back) ∧ cs = front ++ separator :: back := by
  obtain ⟨front, back, rfl, hfront⟩ := List.eq_append_cons_of_mem h
  exact ⟨front, back, cut?_append hfront back, rfl⟩

/-- Trimming drops blanks from both ends and leaves a text without blanks as it is. -/
theorem trim_append {before body after : List Char} (hbefore : ∀ c ∈ before, isBlank c = true)
    (hbody : ∀ c ∈ body, isBlank c = false) (hafter : ∀ c ∈ after, isBlank c = true) :
    trim (before ++ body ++ after) = body := by
  have hkept {text rest : List Char} (hne : text ≠ []) (htext : ∀ c ∈ text, isBlank c = false) :
      (text ++ rest).dropWhile isBlank = text ++ rest := by
    obtain ⟨c, text, rfl⟩ := List.exists_cons_of_ne_nil hne
    rw [List.cons_append, List.dropWhile_cons_of_neg (by simp [htext c List.mem_cons_self])]
  by_cases hne : body = []
  · subst hne
    rw [List.append_nil]
    apply trim_eq_nil_iff.2
    intro c hc
    exact (List.mem_append.1 hc).elim (hbefore c) (hafter c)
  · have hback : ∀ c ∈ after.reverse, isBlank c = true := fun c hc =>
      hafter c (List.mem_reverse.1 hc)
    have hfront : ∀ c ∈ body.reverse, isBlank c = false := fun c hc =>
      hbody c (List.mem_reverse.1 hc)
    have hlast : (body.reverse ++ []).dropWhile isBlank = body.reverse ++ [] :=
      hkept (mt List.reverse_eq_nil_iff.1 hne) hfront
    rw [List.append_nil] at hlast
    rw [trim, List.append_assoc, List.dropWhile_append_of_pos hbefore, hkept hne hbody,
      List.reverse_append, List.dropWhile_append_of_pos hback, hlast, List.reverse_reverse]

theorem trim_of_forall_not_blank {cs : List Char} (h : ∀ c ∈ cs, isBlank c = false) :
    trim cs = cs := by
  have htrim : trim ([] ++ cs ++ []) = cs := trim_append nofun h nofun
  rwa [List.nil_append, List.append_nil] at htrim

/-- What trimming takes off are blanks before and after what is left. -/
theorem exists_trim (cs : List Char) : ∃ before after, cs = before ++ trim cs ++ after ∧
    (∀ c ∈ before, isBlank c = true) ∧ ∀ c ∈ after, isBlank c = true := by
  let rest := cs.dropWhile isBlank
  refine ⟨cs.takeWhile isBlank, (rest.reverse.takeWhile isBlank).reverse, ?_, ?_, ?_⟩
  · have hrest : rest = trim cs ++ (rest.reverse.takeWhile isBlank).reverse := by
      rw [trim, ← List.reverse_append, List.takeWhile_append_dropWhile, List.reverse_reverse]
    rw [List.append_assoc, ← hrest]
    exact List.takeWhile_append_dropWhile.symm
  · exact List.all_eq_true.1 List.all_takeWhile
  · exact fun c hc => List.all_eq_true.1 List.all_takeWhile c (List.mem_reverse.1 hc)

/-! ## Numerals -/

namespace Numeral

theorem write_of_lt {n : Nat} (h : n < 10) : write n = [digitChar n] := by
  rw [write, writeOnto, if_pos h]

theorem write_of_le {n : Nat} (h : 10 ≤ n) : write n = write (n / 10) ++ [digitChar n] := by
  rw [write, writeOnto, if_neg (Nat.not_lt.2 h), writeOnto_eq_append]
  rfl

theorem mem_write {n : Nat} {c : Char} (h : c ∈ write n) : ∃ d < 10, c = digitChar d := by
  induction n using Nat.strongRecOn with
  | ind n ih =>
      by_cases hlt : n < 10
      · rw [write_of_lt hlt] at h
        exact ⟨n, hlt, List.mem_singleton.1 h⟩
      · have hle : 10 ≤ n := Nat.not_lt.1 hlt
        rw [write_of_le hle] at h
        rcases List.mem_append.1 h with hfront | hlast
        · exact ih (n / 10) (by omega) hfront
        · refine ⟨n % 10, Nat.mod_lt n (by decide), ?_⟩
          rw [List.mem_singleton.1 hlast]
          simp only [digitChar, Nat.mod_mod]

/-- What holds of all digits holds of all characters of a numeral. -/
theorem forall_mem_write {P : Char → Prop} (h : ∀ d < 10, P (digitChar d)) (n : Nat) :
    ∀ c ∈ write n, P c := by
  intro c hc
  obtain ⟨d, hd, rfl⟩ := mem_write hc
  exact h d hd

theorem notMem_write {c : Char} (h : ∀ d < 10, digitChar d ≠ c) (n : Nat) : c ∉ write n :=
  fun hc => forall_mem_write (P := (· ≠ c)) h n c hc rfl

/-- A numeral has no leading zero, unless it is zero. -/
theorem head?_write {n : Nat} (h : 0 < n) : (write n).head? ≠ some '0' := by
  induction n using Nat.strongRecOn with
  | ind n ih =>
      by_cases hlt : n < 10
      · have hdigits : ∀ d < 10, 0 < d → digitChar d ≠ '0' := by decide
        rw [write_of_lt hlt, List.head?_cons]
        exact fun heq => hdigits n hlt h (Option.some.inj heq)
      · have hle : 10 ≤ n := Nat.not_lt.1 hlt
        have hfront := ih (n / 10) (by omega) (by omega)
        rw [write_of_le hle, List.head?_append_of_ne_nil _ (write_ne_nil _)]
        exact hfront

theorem length_write_le {n width : Nat} (h : n < 10 ^ (width + 1)) :
    (write n).length ≤ width + 1 := by
  induction width generalizing n with
  | zero => rw [write_of_lt (by omega)]; exact Nat.le_refl 1
  | succ width ih =>
      by_cases hlt : n < 10
      · rw [write_of_lt hlt]
        exact Nat.succ_le_succ (Nat.zero_le _)
      · have hle : 10 ≤ n := Nat.not_lt.1 hlt
        have hfront : (write (n / 10)).length ≤ width + 1 := ih (by rw [Nat.pow_succ] at h; omega)
        rw [write_of_le hle, List.length_append, List.length_singleton]
        omega

theorem unsigned_of_head? {cs : List Char} (h : cs.head? ≠ some '+') : unsigned cs = cs := by
  unfold unsigned
  split
  · exact absurd rfl h
  · rfl

theorem unsigned_write (n : Nat) : unsigned (write n) = write n := by
  apply unsigned_of_head?
  intro hhead
  exact notMem_write (by decide) n (List.mem_of_mem_head? hhead)

/-- A numeral below the bound of the reader is read. -/
theorem below?_write {n bound : Nat} (h : n < bound) : below? bound (write n) = some n := by
  rw [below?, unsigned_write, digits?_write, Option.filter_some, if_pos (decide_eq_true h)]

/-- A numeral determines its number. -/
theorem text_injective : Function.Injective text := by
  intro m n h
  have hwrite : write m = write n := String.ofList_injective h
  have hread : some m = some n := by rw [← digits?_write m, hwrite, digits?_write n]
  exact Option.some.inj hread

end Numeral

end NodeFleet.Text
