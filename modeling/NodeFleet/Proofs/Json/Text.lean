import NodeFleet.Proofs.Json.Scalar

/-!
# JSON text

What is written without blanks is read back as it was, if it has no doubles (`IsPlain`).  The
writer appends to what it has written before, and the reader stops where a value ends; `chars`
has the characters of one value alone, so that both can be described value by value.

Reading is bounded by fuel.  An item and its value take one unit each, and each of them has a
character of its own with the comma or the bracket, so twice the length of the text is enough.
-/

namespace NodeFleet.Json

open NodeFleet.Text

/-! ## The characters of a value -/

/-- The characters of a text between quotation marks. -/
def quotedChars (text : String) : List Char :=
  '"' :: (text.toList.flatMap escapeChar ++ ['"'])

mutual

/-- The characters of a value without blanks. -/
def chars : Json → List Char
  | .null => "null".toList
  | .bool true => "true".toList
  | .bool false => "false".toList
  | .number n => n.text.toList
  | .string s => quotedChars s
  | .array [] => ['[', ']']
  | .array (item :: items) => '[' :: (item.chars ++ (itemChars items ++ [']']))
  | .object [] => ['\x7b', '\x7d']
  | .object ((key, value) :: entries) =>
      '\x7b' :: (quotedChars key ++ ':' :: (value.chars ++ (entryChars entries ++ ['\x7d'])))
  | .unreadable _ => []

/-- The characters of items, each after a comma. -/
def itemChars : List Json → List Char
  | [] => []
  | item :: items => ',' :: (item.chars ++ itemChars items)

/-- The characters of entries, each after a comma. -/
def entryChars : List (String × Json) → List Char
  | [] => []
  | (key, value) :: entries =>
      ',' :: (quotedChars key ++ ':' :: (value.chars ++ entryChars entries))

end

theorem toList_quoted (text : String) : (quoted text).toList = quotedChars text := by
  simp [quoted, quotedChars]

mutual

theorem toList_compactOnto (front : String) : ∀ j : Json,
    (compactOnto front j).toList = front.toList ++ j.chars
  | .null => by simp [compactOnto, chars]
  | .bool true => by simp [compactOnto, chars]
  | .bool false => by simp [compactOnto, chars]
  | .number n => by simp [compactOnto, chars]
  | .string s => by simp [compactOnto, chars, toList_quoted]
  | .array [] => by simp [compactOnto, compactItems, chars]
  | .array (item :: items) => by
      simp [compactOnto, compactItems, chars, toList_compactItems _ items,
        toList_compactOnto _ item]
  | .object [] => by simp [compactOnto, compactEntries, chars]
  | .object ((key, value) :: entries) => by
      simp [compactOnto, compactEntries, chars, toList_compactEntries _ entries,
        toList_compactOnto _ value, toList_quoted]
  | .unreadable _ => by simp [compactOnto, chars]

theorem toList_compactItems (front : String) : ∀ items : List Json,
    (compactItems front false items).toList = front.toList ++ itemChars items
  | [] => by simp [compactItems, itemChars]
  | item :: items => by
      simp [compactItems, itemChars, toList_compactItems _ items, toList_compactOnto _ item]

theorem toList_compactEntries (front : String) : ∀ entries : List (String × Json),
    (compactEntries front false entries).toList = front.toList ++ entryChars entries
  | [] => by simp [compactEntries, entryChars]
  | (key, value) :: entries => by
      simp [compactEntries, entryChars, toList_compactEntries _ entries,
        toList_compactOnto _ value, toList_quoted]

end

/-! ## Values without doubles -/

mutual

/-- Whether every number is a 64-bit integer, and every part can be read. -/
def IsPlain : Json → Prop
  | .number (.natural n) => n < 2 ^ 64
  | .number (.negative n) => 0 < n ∧ n ≤ 2 ^ 63
  | .number (.double _) => False
  | .array items => ItemsPlain items
  | .object entries => EntriesPlain entries
  | .unreadable _ => False
  | _ => True

/-- `IsPlain` for items. -/
def ItemsPlain : List Json → Prop
  | [] => True
  | item :: items => item.IsPlain ∧ ItemsPlain items

/-- `IsPlain` for entries. -/
def EntriesPlain : List (String × Json) → Prop
  | [] => True
  | (_, value) :: entries => value.IsPlain ∧ EntriesPlain entries

end

theorem isPlain_option {α : Type} {encode : α → Json} {value : Option α}
    (h : ∀ a ∈ value, (encode a).IsPlain) : (option encode value).IsPlain := by
  cases value with
  | none => trivial
  | some a => exact h a rfl

theorem isPlain_table {α : Type} {encode : α → Json} {entries : Table α}
    (h : ∀ entry ∈ entries, (encode entry.2).IsPlain) : (table encode entries).IsPlain := by
  show EntriesPlain (entries.map fun entry => (entry.1, encode entry.2))
  induction entries with
  | nil => trivial
  | cons entry rest ih =>
      obtain ⟨hentry, hrest⟩ := List.forall_mem_cons.1 h
      exact ⟨hentry, ih hrest⟩

/-! ## Reading -/

/-- Whether a value is read back in front of whatever can follow it. -/
def IsReadBack (j : Json) : Prop :=
  ∀ fuel rest, 2 * j.chars.length ≤ fuel → Ends rest →
    readValue fuel (j.chars ++ rest) = (j, some rest)

theorem IsReadBack.of_succ {j : Json} {c : Char} {cs : List Char} (hchars : j.chars = c :: cs)
    (h : ∀ fuel rest, 2 * (cs.length + 1) ≤ fuel + 1 → Ends rest →
      readValue (fuel + 1) (c :: (cs ++ rest)) = (j, some rest)) : j.IsReadBack := by
  intro fuel rest hfuel hends
  rw [hchars, List.length_cons] at hfuel
  obtain ⟨fuel, rfl⟩ : ∃ less, fuel = less + 1 := Nat.exists_eq_add_one.2 (by omega)
  rw [hchars]
  exact h fuel rest hfuel hends

theorem skipSpace_cons {c : Char} (h : isSpace c = false) (rest : List Char) :
    skipSpace (c :: rest) = c :: rest :=
  List.dropWhile_cons_of_neg (by simp [h])

theorem exists_write (n : Nat) : ∃ c cs, Numeral.write n = c :: cs ∧ c.isDigit = true := by
  obtain ⟨c, cs, hwrite⟩ := List.exists_cons_of_ne_nil (Numeral.write_ne_nil n)
  exact ⟨c, cs, hwrite, isDigit_write n c (hwrite ▸ List.mem_cons_self)⟩

theorem isSpace_of_isDigit {c : Char} (h : c.isDigit = true) : isSpace c = false := by
  have hno : ∀ other : Char, other.isDigit = false → c ≠ other := by
    rintro _ hother rfl
    exact absurd h (by simp [hother])
  simp [isSpace, hno ' ' (by decide), hno '\n' (by decide), hno '\t' (by decide),
    hno '\r' (by decide)]

/-- A value starts neither with a blank nor with a closing bracket. -/
theorem IsPlain.exists_chars {j : Json} (h : j.IsPlain) :
    ∃ c cs, j.chars = c :: cs ∧ isSpace c = false ∧ c ≠ ']' := by
  match j with
  | .null | .bool true | .bool false | .string _ | .array [] | .array (_ :: _) | .object []
  | .object (_ :: _) => exact ⟨_, _, rfl, by decide, by decide⟩
  | .number (.negative n) => exact ⟨'-', Numeral.write n, by
      simp [chars, Number.text, Numeral.text], by decide, by decide⟩
  | .number (.natural n) =>
      obtain ⟨c, cs, hwrite, hdigit⟩ := exists_write n
      refine ⟨c, cs, ?_, isSpace_of_isDigit hdigit, ?_⟩
      · simp [chars, Number.text, Numeral.text, hwrite]
      · rintro rfl
        exact absurd hdigit (by decide)

theorem readValue_digit {c : Char} (h : c.isDigit = true) (fuel : Nat) (rest : List Char) :
    readValue (fuel + 1) (c :: rest) = readUnsigned false (c :: rest) := by
  simp only [readValue, skipSpace_cons (isSpace_of_isDigit h)]
  split
  -- None of the characters that the reader looks for is a digit.
  all_goals first
    | rfl
    | (rename_i heq
       obtain ⟨rfl, -⟩ := List.cons.inj heq
       exact absurd h (by decide))

theorem readValue_quoted {fuel : Nat} {s : String} (h : s.toList.length < fuel) (rest : List Char) :
    readValue (fuel + 1) (quotedChars s ++ rest) = (.string s, some rest) := by
  have hread := readString_quoted h rest
  have htext : quotedChars s ++ rest = '"' :: (s.toList.flatMap escapeChar ++ '"' :: rest) := by
    simp [quotedChars]
  simp only [htext, readValue, skipSpace_cons (c := '"') (by decide), hread, literal_text?]

theorem ends_of_head {c : Char} (h : c = ',' ∨ c = ']' ∨ c = '\x7d') (rest : List Char) :
    Ends (c :: rest) := by
  rintro _ ⟨⟩
  exact h

theorem readItems_eq {fuel : Nat} {item : Json} {cs rest : List Char} {next : Char}
    (hread : readValue fuel cs = (item, some (next :: rest))) :
    (next = ']' → readItems (fuel + 1) cs = ([item], some rest)) ∧
      (next = ',' → ∀ {items : List Json} {tail : List Char},
        readItems fuel rest = (items, some tail) →
        readItems (fuel + 1) cs = (item :: items, some tail)) := by
  constructor
  · rintro rfl
    simp only [readItems, hread, skipSpace_cons (c := ']') (by decide)]
  · rintro rfl items tail hitems
    simp only [readItems, hread, skipSpace_cons (c := ',') (by decide), hitems]

theorem readEntries_eq {fuel : Nat} {key : String} {value : Json} {cs rest : List Char}
    {next : Char} (hkey : key.toList.length < fuel)
    (hread : readValue fuel cs = (value, some (next :: rest))) :
    (next = '\x7d' → readEntries (fuel + 1) (quotedChars key ++ ':' :: cs) =
        ([(key, value)], some rest)) ∧
      (next = ',' → ∀ {entries : List (String × Json)} {tail : List Char},
        readEntries fuel rest = (entries, some tail) →
        readEntries (fuel + 1) (quotedChars key ++ ':' :: cs) =
          ((key, value) :: entries, some tail)) := by
  have hstring := readString_quoted hkey (':' :: cs)
  have htext : quotedChars key ++ ':' :: cs =
      '"' :: (key.toList.flatMap escapeChar ++ '"' :: ':' :: cs) := by simp [quotedChars]
  have hentries (entries : List (String × Json)) :
      Literal.entries ⟨key.toList.reverse, true⟩ value entries = (key, value) :: entries := by
    rw [Literal.entries, literal_text?]
  rw [htext]
  constructor
  · rintro rfl
    simp only [readEntries, skipSpace_cons (c := '"') (by decide), hstring,
      skipSpace_cons (c := ':') (by decide), hread, skipSpace_cons (c := '\x7d') (by decide),
      hentries]
  · rintro rfl entries tail hrest
    simp only [readEntries, skipSpace_cons (c := '"') (by decide), hstring,
      skipSpace_cons (c := ':') (by decide), hread, skipSpace_cons (c := ',') (by decide), hrest,
      hentries]

theorem length_quotedChars (s : String) : s.toList.length + 2 ≤ (quotedChars s).length := by
  have hescaped := length_le_escaped s.toList
  simp only [quotedChars, List.length_cons, List.length_append, List.length_nil]
  omega

mutual

/-- What is written of a value is read back. -/
theorem isReadBack : ∀ j : Json, j.IsPlain → j.IsReadBack
  | .null, _ => IsReadBack.of_succ (c := 'n') rfl fun _ _ _ _ => rfl
  | .bool true, _ => IsReadBack.of_succ (c := 't') rfl fun _ _ _ _ => rfl
  | .bool false, _ => IsReadBack.of_succ (c := 'f') rfl fun _ _ _ _ => rfl
  | .number (.natural n), h => by
      obtain ⟨c, cs, hwrite, hdigit⟩ := exists_write n
      have hchars : (Json.number (.natural n)).chars = c :: cs := by
        simp [chars, Number.text, Numeral.text, hwrite]
      refine IsReadBack.of_succ hchars fun fuel rest _ hends => ?_
      rw [readValue_digit hdigit, ← List.cons_append, ← hwrite]
      exact (readUnsigned_write h hends).1
  | .number (.negative n), h => by
      obtain ⟨hpos, hle⟩ := h
      have hchars : (Json.number (.negative n)).chars = '-' :: Numeral.write n := by
        simp [chars, Number.text, Numeral.text]
      refine IsReadBack.of_succ hchars fun fuel rest _ hends => ?_
      exact (readUnsigned_write (Nat.lt_of_le_of_lt hle (by decide)) hends).2 hpos hle
  | .string s, _ => by
      refine IsReadBack.of_succ (c := '"') rfl fun fuel rest hfuel _ => ?_
      have hlong := length_le_escaped s.toList
      rw [List.length_append, List.length_singleton] at hfuel
      exact readValue_quoted (by omega) rest
  | .array [], _ => IsReadBack.of_succ (c := '[') rfl fun _ _ _ _ => rfl
  | .array (item :: items), h => by
      obtain ⟨hitem, hitems⟩ := h
      refine IsReadBack.of_succ (c := '[') rfl fun fuel rest hfuel _ => ?_
      simp only [List.length_append, List.length_singleton] at hfuel
      obtain ⟨c, cs, hchars, hspace, hclosing⟩ := hitem.exists_chars
      have hread := readItems_following items hitems item (isReadBack item hitem) fuel
        (by omega) rest
      have htext : item.chars ++ (itemChars items ++ [']']) ++ rest =
          c :: (cs ++ (itemChars items ++ ']' :: rest)) := by simp [hchars]
      rw [hchars, List.cons_append] at hread
      rw [htext]
      simp only [readValue, skipSpace_cons (c := '[') (by decide), skipSpace_cons hspace]
      split
      · rename_i heq
        exact absurd (List.cons.inj heq).1 hclosing
      · rw [hread]
  | .object [], _ => IsReadBack.of_succ (c := '\x7b') rfl fun _ _ _ _ => rfl
  | .object ((key, value) :: entries), h => by
      obtain ⟨hvalue, hentries⟩ := h
      refine IsReadBack.of_succ (c := '\x7b') rfl fun fuel rest hfuel _ => ?_
      simp only [List.length_append, List.length_cons, List.length_nil] at hfuel
      have hread := readEntries_following entries hentries key value (isReadBack value hvalue)
        fuel (by omega) rest
      have htext :
          quotedChars key ++ ':' :: (value.chars ++ (entryChars entries ++ ['\x7d'])) ++ rest =
            quotedChars key ++ ':' :: (value.chars ++ (entryChars entries ++ '\x7d' :: rest)) := by
        simp
      rw [htext]
      rw [quotedChars, List.cons_append] at hread ⊢
      simp only [readValue, skipSpace_cons (c := '\x7b') (by decide),
        skipSpace_cons (c := '"') (by decide), hread]
      rfl

/-- Items are read back up to the bracket. -/
theorem readItems_following : ∀ items : List Json, ItemsPlain items → ∀ item : Json,
    item.IsReadBack → ∀ fuel : Nat, 2 * (item.chars.length + (itemChars items).length) < fuel →
    ∀ rest : List Char, readItems fuel (item.chars ++ (itemChars items ++ ']' :: rest)) =
      (item :: items, some rest)
  | [], _, item, hitem, fuel, hfuel, rest => by
      obtain ⟨fuel, rfl⟩ : ∃ less, fuel = less + 1 := Nat.exists_eq_add_one.2 (by omega)
      exact (readItems_eq (hitem fuel (']' :: rest) (by omega)
        (ends_of_head (.inr (.inl rfl)) rest))).1 rfl
  | next :: items, ⟨hnext, hitems⟩, item, hitem, fuel, hfuel, rest => by
      simp only [itemChars, List.length_cons, List.length_append] at hfuel
      obtain ⟨fuel, rfl⟩ : ∃ less, fuel = less + 1 := Nat.exists_eq_add_one.2 (by omega)
      have hread := readItems_following items hitems next (isReadBack next hnext) fuel
        (by omega) rest
      have hfirst := hitem fuel (',' :: (next.chars ++ (itemChars items ++ ']' :: rest)))
        (by omega) (ends_of_head (.inl rfl) _)
      rw [itemChars, List.cons_append, List.append_assoc]
      exact (readItems_eq hfirst).2 rfl hread

/-- Entries are read back up to the brace. -/
theorem readEntries_following : ∀ entries : List (String × Json), EntriesPlain entries →
    ∀ (key : String) (value : Json), value.IsReadBack → ∀ fuel : Nat,
    2 * ((quotedChars key).length + value.chars.length + (entryChars entries).length) < fuel →
    ∀ rest : List Char,
      readEntries fuel
          (quotedChars key ++ ':' :: (value.chars ++ (entryChars entries ++ '\x7d' :: rest))) =
        ((key, value) :: entries, some rest)
  | [], _, key, value, hvalue, fuel, hfuel, rest => by
      have hkey := length_quotedChars key
      obtain ⟨fuel, rfl⟩ : ∃ less, fuel = less + 1 := Nat.exists_eq_add_one.2 (by omega)
      exact (readEntries_eq (by omega) (hvalue fuel ('\x7d' :: rest) (by omega)
        (ends_of_head (.inr (.inr rfl)) rest))).1 rfl
  | (next, other) :: entries, ⟨hother, hentries⟩, key, value, hvalue, fuel, hfuel, rest => by
      have hkey := length_quotedChars key
      simp only [entryChars, List.length_cons, List.length_append] at hfuel
      obtain ⟨fuel, rfl⟩ : ∃ less, fuel = less + 1 := Nat.exists_eq_add_one.2 (by omega)
      have hread := readEntries_following entries hentries next other (isReadBack other hother)
        fuel (by omega) rest
      have hfirst := hvalue fuel (',' :: (quotedChars next ++ ':' :: (other.chars ++
        (entryChars entries ++ '\x7d' :: rest)))) (by omega) (ends_of_head (.inl rfl) _)
      rw [entryChars, List.cons_append, List.append_assoc, List.cons_append, List.append_assoc]
      exact (readEntries_eq (by omega) hfirst).2 rfl hread

end

theorem read_compact {j : Json} (h : j.IsPlain) : read (compact j) = (j, some []) := by
  have hchars : (compact j).toList = j.chars := by
    rw [compact, toList_compactOnto]
    rfl
  have hread := isReadBack j h (2 * j.chars.length + 2) [] (by omega) nofun
  rw [List.append_nil] at hread
  rw [read, hchars]
  exact hread

theorem parseWhole_compact {j : Json} (h : j.IsPlain) : parseWhole (compact j) = (j, true) := by
  rw [parseWhole, read_compact h]
  rfl

theorem parseFront_compact {j : Json} (h : j.IsPlain) : parseFront (compact j) = j := by
  rw [parseFront, read_compact h]

end NodeFleet.Json
