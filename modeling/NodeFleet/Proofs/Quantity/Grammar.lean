import Mathlib.Tactic.SplitIfs
import NodeFleet.Proofs.Text.Numeral
import NodeFleet.Quantity

/-!
# The grammar of byte quantities

`Spells` says which texts are quantities: blanks, a numeral, at most one suffix directly after
it, and blanks again.  The reader goes through a table of suffixes and takes the first that
matches.  No text ends in two of them (`scale_unique`), so the order of the table decides
nothing, and a quantity is split where the grammar splits it (`split_append`).

Every text is blank, or spells a number of units of which the number is a word, or does
neither.  `Answers` says what the grammar answers in each of the cases, and `readChars_eq_iff`
that the reader answers that and nothing else.
-/

namespace NodeFleet.Quantity

open NodeFleet.Text

/-! ## Suffixes -/

/-- The bytes that a suffix stands for: one without a suffix, else a power of 1024 or of 1000. -/
inductive IsScale : List Char → Nat → Prop
  | bytes : IsScale [] 1
  | binary {place : Nat} {letter : Char} (h : ['K', 'M', 'G', 'T', 'P'][place]? = some letter) :
      IsScale [letter, 'i'] (1024 ^ (place + 1))
  | decimal {place : Nat} {letter : Char} (h : ['k', 'M', 'G', 'T', 'P'][place]? = some letter) :
      IsScale [letter] (1000 ^ (place + 1))

/-- The powers of 1024 by the places of their letters. -/
theorem binaryScales_eq : binaryScales = ['K', 'M', 'G', 'T', 'P'].zipIdx.map fun entry =>
    ⟨[entry.1, 'i'], 1024 ^ (entry.2 + 1)⟩ := rfl

/-- The powers of 1000 by the places of their letters. -/
theorem decimalScales_eq : decimalScales = ['k', 'M', 'G', 'T', 'P'].zipIdx.map fun entry =>
    ⟨[entry.1], 1000 ^ (entry.2 + 1)⟩ := rfl

theorem isScale_iff {suffix : List Char} {unit : Nat} :
    IsScale suffix unit ↔ (suffix = [] ∧ unit = 1) ∨ ⟨suffix, unit⟩ ∈ scales := by
  rw [scales, binaryScales_eq, decimalScales_eq, List.mem_append]
  constructor
  · rintro (_ | @⟨place, letter, h⟩ | @⟨place, letter, h⟩)
    · exact .inl ⟨rfl, rfl⟩
    · have hentry := List.mk_mem_zipIdx_iff_getElem?.2 h
      exact .inr (.inl (List.mem_map.2 ⟨(letter, place), hentry, rfl⟩))
    · have hentry := List.mk_mem_zipIdx_iff_getElem?.2 h
      exact .inr (.inr (List.mem_map.2 ⟨(letter, place), hentry, rfl⟩))
  · rintro (⟨rfl, rfl⟩ | hmem | hmem)
    · exact .bytes
    · obtain ⟨entry, hentry, heq⟩ := List.mem_map.1 hmem
      obtain ⟨rfl, rfl⟩ := Scale.mk.inj heq
      exact .binary (List.mem_zipIdx_iff_getElem?.1 hentry)
    · obtain ⟨entry, hentry, heq⟩ := List.mem_map.1 hmem
      obtain ⟨rfl, rfl⟩ := Scale.mk.inj heq
      exact .decimal (List.mem_zipIdx_iff_getElem?.1 hentry)

/-- A text ends in at most one suffix of the table. -/
theorem scale_unique {cs : List Char} {scale other : Scale} (hscale : scale ∈ scales)
    (hother : other ∈ scales) (hleft : scale.suffix <:+ cs) (hright : other.suffix <:+ cs) :
    scale = other := by
  have hall : ∀ scale ∈ scales, ∀ other ∈ scales, scale.suffix <:+ other.suffix →
      scale = other := by decide
  rcases List.suffix_or_suffix_of_suffix hleft hright with h | h
  · exact hall scale hscale other hother h
  · exact (hall other hother scale hscale h).symm

theorem dropSuffix?_eq_some_iff {suffix cs front : List Char} :
    dropSuffix? suffix cs = some front ↔ cs = front ++ suffix := by
  unfold dropSuffix?
  split_ifs with h
  · obtain ⟨found, rfl⟩ := List.isSuffixOf_iff_suffix.1 h
    rw [List.length_append, Nat.add_sub_cancel, List.take_left, Option.some_inj,
      List.append_cancel_right_eq]
  · refine iff_of_false nofun ?_
    rintro rfl
    exact h (List.isSuffixOf_iff_suffix.2 (List.suffix_append front suffix))

/-! ## Texts -/

/-- A text is that of a number of units, each of so many bytes. -/
inductive Spells : List Char → Nat → Nat → Prop
  | intro {before front suffix after : List Char} {number unit : Nat}
      (hbefore : ∀ c ∈ before, isBlank c = true) (hfront : Numeral.Denotes front number)
      (hsuffix : IsScale suffix unit) (hafter : ∀ c ∈ after, isBlank c = true) :
      Spells (before ++ (front ++ suffix) ++ after) number unit

/-- Trimming leaves the numeral and the suffix. -/
theorem trim_spelled {before front suffix after : List Char} {number unit : Nat}
    (hbefore : ∀ c ∈ before, isBlank c = true) (hfront : Numeral.Denotes front number)
    (hsuffix : IsScale suffix unit) (hafter : ∀ c ∈ after, isBlank c = true) :
    trim (before ++ (front ++ suffix) ++ after) = front ++ suffix := by
  have hall : ∀ scale ∈ scales, ∀ c ∈ scale.suffix, isBlank c = false := by decide
  refine trim_append hbefore (fun c hc => ?_) hafter
  rcases List.mem_append.1 hc with hc | hc
  · exact hfront.not_blank c hc
  · rcases isScale_iff.1 hsuffix with ⟨rfl, -⟩ | hmem
    · exact absurd hc List.not_mem_nil
    · exact hall _ hmem c hc

/-- No suffix of the table is taken from a numeral, because it ends in a digit. -/
theorem dropSuffix?_of_denotes {front : List Char} {number : Nat}
    (hfront : Numeral.Denotes front number) {scale : Scale} (hscale : scale ∈ scales) :
    dropSuffix? scale.suffix front = none := by
  have hall : ∀ scale ∈ scales, scale.suffix ≠ [] ∧ ∀ c ∈ scale.suffix, c.isDigit = false := by
    decide
  obtain ⟨hne, hsuffix⟩ := hall scale hscale
  obtain ⟨c, hlast, hdigit⟩ := hfront.getLast?
  apply Option.eq_none_iff_forall_ne_some.2
  intro digits hdrop
  rw [dropSuffix?_eq_some_iff.1 hdrop, List.getLast?_append_of_ne_nil _ hne] at hlast
  have hnot := hsuffix c (List.mem_of_getLast? hlast)
  exact absurd (hdigit.symm.trans hnot) (by decide)

/-- A quantity is split after its numeral. -/
theorem split_append {front suffix : List Char} {number unit : Nat}
    (hfront : Numeral.Denotes front number) (hsuffix : IsScale suffix unit) :
    split (front ++ suffix) = (front, unit) := by
  unfold split
  cases hfind : scales.findSome? fun scale =>
      (dropSuffix? scale.suffix (front ++ suffix)).map fun digits => (digits, scale.bytes) with
  | none =>
      rcases isScale_iff.1 hsuffix with ⟨rfl, rfl⟩ | hmem
      · rw [List.append_nil]
        rfl
      · have hnone := List.findSome?_eq_none_iff.1 hfind _ hmem
        rw [dropSuffix?_eq_some_iff.2 rfl] at hnone
        exact nomatch hnone
  | some found =>
      obtain ⟨scale, hscale, hfound⟩ := List.exists_of_findSome?_eq_some hfind
      obtain ⟨digits, hdrop, rfl⟩ := Option.map_eq_some_iff.1 hfound
      rcases isScale_iff.1 hsuffix with ⟨rfl, rfl⟩ | hmem
      · rw [List.append_nil, dropSuffix?_of_denotes hfront hscale] at hdrop
        exact nomatch hdrop
      · have heq := dropSuffix?_eq_some_iff.1 hdrop
        obtain rfl : scale = ⟨suffix, unit⟩ :=
          scale_unique hscale hmem ⟨digits, heq.symm⟩ (List.suffix_append front suffix)
        rw [List.append_cancel_right heq]
        rfl

/-- The part before a split and the suffix that goes with it are the text. -/
theorem exists_suffix (cs : List Char) :
    ∃ suffix, cs = (split cs).1 ++ suffix ∧ IsScale suffix (split cs).2 := by
  unfold split
  cases hfind : scales.findSome? fun scale =>
      (dropSuffix? scale.suffix cs).map fun digits => (digits, scale.bytes) with
  | none => exact ⟨[], (List.append_nil cs).symm, .bytes⟩
  | some found =>
      obtain ⟨scale, hscale, hfound⟩ := List.exists_of_findSome?_eq_some hfind
      obtain ⟨digits, hdrop, rfl⟩ := Option.map_eq_some_iff.1 hfound
      exact ⟨scale.suffix, dropSuffix?_eq_some_iff.1 hdrop, isScale_iff.2 (.inr hscale)⟩

/-! ## What the reader answers -/

theorem readChars_of_blank {cs : List Char} (h : ∀ c ∈ cs, isBlank c = true) :
    readChars cs = .error .empty := by
  rw [readChars, if_pos (trim_eq_nil_iff.2 h)]

theorem Spells.readChars_eq {cs : List Char} {number unit : Nat} (h : Spells cs number unit)
    (hword : number < 2 ^ 64) :
    readChars cs =
      if number * unit < 2 ^ 64 then .ok (number * unit) else .error .tooLarge := by
  cases h with
  | @intro before front suffix after _ _ hbefore hfront hsuffix hafter =>
      have hne : front ++ suffix ≠ [] := List.append_ne_nil_of_left_ne_nil hfront.ne_nil suffix
      have hread : Numeral.word? front = some number :=
        Numeral.below?_eq_some_iff.2 ⟨hfront, hword⟩
      simp only [readChars, trim_spelled hbefore hfront hsuffix hafter, if_neg hne,
        split_append hfront hsuffix, hread]

theorem readChars_of_not_spelled {cs : List Char} (hsome : ¬ ∀ c ∈ cs, isBlank c = true)
    (hno : ∀ number unit, Spells cs number unit → 2 ^ 64 ≤ number) :
    readChars cs = .error .malformed := by
  obtain ⟨before, after, hcs, hbefore, hafter⟩ := exists_trim cs
  obtain ⟨suffix, hbody, hsuffix⟩ := exists_suffix (trim cs)
  have hread : Numeral.word? (split (trim cs)).1 = none := by
    apply Option.eq_none_iff_forall_ne_some.2
    intro number hnumber
    obtain ⟨hfront, hword⟩ := Numeral.below?_eq_some_iff.1 hnumber
    have hspells := Spells.intro hbefore hfront hsuffix hafter
    rw [← hbody, ← hcs] at hspells
    exact absurd (hno number _ hspells) (Nat.not_le.2 hword)
  simp only [readChars, if_neg (mt trim_eq_nil_iff.1 hsome), hread]

/-- Whether an answer is the one that the grammar gives. -/
def Answers (cs : List Char) : Except Fault Nat → Prop
  | .ok n => ∃ number unit, Spells cs number unit ∧ number < 2 ^ 64 ∧ number * unit = n ∧ n < 2 ^ 64
  | .error .empty => ∀ c ∈ cs, isBlank c = true
  | .error .tooLarge =>
      ∃ number unit, Spells cs number unit ∧ number < 2 ^ 64 ∧ 2 ^ 64 ≤ number * unit
  | .error .malformed =>
      (¬ ∀ c ∈ cs, isBlank c = true) ∧ ∀ number unit, Spells cs number unit → 2 ^ 64 ≤ number

theorem readChars_answers (cs : List Char) : Answers cs (readChars cs) := by
  by_cases hblank : ∀ c ∈ cs, isBlank c = true
  · rw [readChars_of_blank hblank]
    exact hblank
  · by_cases hspelled : ∃ number unit, Spells cs number unit ∧ number < 2 ^ 64
    · obtain ⟨number, unit, hspells, hword⟩ := hspelled
      rw [hspells.readChars_eq hword]
      split_ifs with hfits
      · exact ⟨number, unit, hspells, hword, rfl, hfits⟩
      · exact ⟨number, unit, hspells, hword, Nat.not_lt.1 hfits⟩
    · have hno : ∀ number unit, Spells cs number unit → 2 ^ 64 ≤ number := by
        intro number unit hspells
        exact Nat.not_lt.1 fun hword => hspelled ⟨number, unit, hspells, hword⟩
      rw [readChars_of_not_spelled hblank hno]
      exact ⟨hblank, hno⟩

/-- The grammar gives one answer to a text, and that is what the reader answers. -/
theorem readChars_eq_iff {cs : List Char} {answer : Except Fault Nat} :
    readChars cs = answer ↔ Answers cs answer := by
  constructor
  · rintro rfl
    exact readChars_answers cs
  · intro h
    match answer, h with
    | .ok n, ⟨number, unit, hspells, hword, hn, hfits⟩ =>
        subst hn
        rw [hspells.readChars_eq hword, if_pos hfits]
    | .error .empty, hblank => exact readChars_of_blank hblank
    | .error .tooLarge, ⟨number, unit, hspells, hword, hover⟩ =>
        rw [hspells.readChars_eq hword, if_neg (Nat.not_lt.2 hover)]
    | .error .malformed, ⟨hsome, hno⟩ => exact readChars_of_not_spelled hsome hno

/-! ## Values and reasons -/

theorem read_eq_ok_iff {text : String} {n : Nat} :
    read text = .ok n ↔ Answers text.toList (.ok n) := by
  rw [← readChars_eq_iff, read]
  cases readChars text.toList with
  | ok found => simp
  | error fault => simp

/-- Whether a text is refused with the given wording of the reason. -/
def IsRefusedFor (text reason : String) : Prop :=
  ∃ refusal, read text = .error refusal ∧ refusal.value = text ∧ refusal.fault.reason = reason

theorem isRefusedFor_iff {text : String} (fault : Fault) :
    IsRefusedFor text fault.reason ↔ Answers text.toList (.error fault) := by
  have hreason : ∀ other : Fault, other.reason = fault.reason → other = fault := by
    intro other
    cases other <;> cases fault <;> decide
  rw [← readChars_eq_iff, IsRefusedFor, read]
  cases readChars text.toList with
  | ok n => simp
  | error found =>
      constructor
      · rintro ⟨refusal, hread, -, heq⟩
        obtain rfl := Except.error.inj hread
        rw [hreason found heq]
      · intro hread
        obtain rfl := Except.error.inj hread
        exact ⟨⟨text, found⟩, rfl, rfl, rfl⟩

/-- Exactly the texts of the grammar are read, each with the bytes that it spells, provided that
both the number and the bytes are words.  No text ends in two suffixes.  A refusal names the text
and its reason: that nothing but blanks is there, that the number is a word and the bytes are not,
or, in all other cases, that the text does not spell a number of units of which the number is a
word. -/
theorem read_decides (text : String) :
    (∀ n, read text = .ok n ↔ ∃ number unit, Spells text.toList number unit ∧
      number < 2 ^ 64 ∧ number * unit = n ∧ n < 2 ^ 64) ∧
    (∀ cs : List Char, ∀ scale ∈ scales, ∀ other ∈ scales,
      scale.suffix <:+ cs → other.suffix <:+ cs → scale = other) ∧
    (IsRefusedFor text "empty" ↔ ∀ c ∈ text.toList, isBlank c = true) ∧
    (IsRefusedFor text "overflows u64" ↔ ∃ number unit, Spells text.toList number unit ∧
      number < 2 ^ 64 ∧ 2 ^ 64 ≤ number * unit) ∧
    (IsRefusedFor text "expected an unsigned integer with an optional suffix" ↔
      (¬ ∀ c ∈ text.toList, isBlank c = true) ∧
        ∀ number unit, Spells text.toList number unit → 2 ^ 64 ≤ number) := by
  refine ⟨fun n => read_eq_ok_iff, ?_, isRefusedFor_iff .empty, isRefusedFor_iff .tooLarge,
    isRefusedFor_iff .malformed⟩
  intro cs scale hscale other hother hleft hright
  exact scale_unique hscale hother hleft hright

end NodeFleet.Quantity
