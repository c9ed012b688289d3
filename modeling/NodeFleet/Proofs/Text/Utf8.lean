import Mathlib.Data.List.Basic
import NodeFleet.Text.Utf8

/-!
# Reading UTF-8 back

What was encoded is decoded to the same text (`decode?_encode`).  Of any bytes at all, no more
characters are decoded than there are bytes that may begin one (`length_decode?_le`).
-/

namespace NodeFleet.Text.Utf8

/-! ## Encoded characters -/

theorem continuation?_add {n : Nat} (h : n < 2 ^ 6) : continuation? (0x80 + n) = some n := by
  rw [continuation?, if_pos (by omega), Nat.add_sub_cancel_left]

theorem scalar?_toNat {c : Char} {least n : Nat} (hn : n = c.toNat) (h : least ≤ c.toNat) :
    scalar? least n = some c := by
  have hvalid : c.toNat.isValidChar := c.valid
  rw [scalar?, hn, if_pos ⟨h, hvalid⟩, Char.ofNat_toNat]

/-- The first character of a text that begins with an encoded one. -/
theorem head?_encodeChar (c : Char) (rest : List Nat) :
    head? (encodeChar c ++ rest) = some (c, rest) := by
  have hbound : c.toNat < 0x110000 := by
    have hvalid : c.toNat.isValidChar := c.valid
    simp only [Nat.isValidChar] at hvalid
    omega
  unfold encodeChar
  simp only
  split_ifs with h1 h2 h3
  · simp [head?, h1]
  · have hlead : ¬ 0xC0 + c.toNat / 2 ^ 6 < 0x80 := by omega
    have hrange : 0xC0 ≤ 0xC0 + c.toNat / 2 ^ 6 ∧ 0xC0 + c.toNat / 2 ^ 6 < 0xE0 := by omega
    have hscalar : scalar? 0x80 ((0xC0 + c.toNat / 2 ^ 6 - 0xC0) * 2 ^ 6 + c.toNat % 2 ^ 6) =
        some c := scalar?_toNat (by omega) (by omega)
    simp only [List.cons_append, List.nil_append, head?, if_neg hlead, if_pos hrange,
      continuation?_add (show c.toNat % 2 ^ 6 < 2 ^ 6 by omega), hscalar, Option.bind_eq_bind,
      Option.bind_some]
    rfl
  · have hlead : ¬ 0xE0 + c.toNat / 2 ^ 12 < 0x80 := by omega
    have htwo : ¬ (0xC0 ≤ 0xE0 + c.toNat / 2 ^ 12 ∧ 0xE0 + c.toNat / 2 ^ 12 < 0xE0) := by omega
    have hrange : 0xE0 ≤ 0xE0 + c.toNat / 2 ^ 12 ∧ 0xE0 + c.toNat / 2 ^ 12 < 0xF0 := by omega
    have hscalar : scalar? 0x800 (((0xE0 + c.toNat / 2 ^ 12 - 0xE0) * 2 ^ 6 +
        c.toNat / 2 ^ 6 % 2 ^ 6) * 2 ^ 6 + c.toNat % 2 ^ 6) = some c :=
      scalar?_toNat (by omega) (by omega)
    simp only [List.cons_append, List.nil_append, head?, if_neg hlead, if_neg htwo, if_pos hrange,
      continuation?_add (show c.toNat % 2 ^ 6 < 2 ^ 6 by omega),
      continuation?_add (show c.toNat / 2 ^ 6 % 2 ^ 6 < 2 ^ 6 by omega), hscalar,
      Option.bind_eq_bind, Option.bind_some]
    rfl
  · have hlead : ¬ 0xF0 + c.toNat / 2 ^ 18 < 0x80 := by omega
    have htwo : ¬ (0xC0 ≤ 0xF0 + c.toNat / 2 ^ 18 ∧ 0xF0 + c.toNat / 2 ^ 18 < 0xE0) := by omega
    have hthree : ¬ (0xE0 ≤ 0xF0 + c.toNat / 2 ^ 18 ∧ 0xF0 + c.toNat / 2 ^ 18 < 0xF0) := by omega
    have hrange : 0xF0 ≤ 0xF0 + c.toNat / 2 ^ 18 ∧ 0xF0 + c.toNat / 2 ^ 18 < 0xF8 := by omega
    have hscalar : scalar? 0x10000 ((((0xF0 + c.toNat / 2 ^ 18 - 0xF0) * 2 ^ 6 +
        c.toNat / 2 ^ 12 % 2 ^ 6) * 2 ^ 6 + c.toNat / 2 ^ 6 % 2 ^ 6) * 2 ^ 6 + c.toNat % 2 ^ 6) =
        some c := scalar?_toNat (by omega) (by omega)
    simp only [List.cons_append, List.nil_append, head?, if_neg hlead, if_neg htwo, if_neg hthree,
      if_pos hrange, continuation?_add (show c.toNat % 2 ^ 6 < 2 ^ 6 by omega),
      continuation?_add (show c.toNat / 2 ^ 6 % 2 ^ 6 < 2 ^ 6 by omega),
      continuation?_add (show c.toNat / 2 ^ 12 % 2 ^ 6 < 2 ^ 6 by omega), hscalar,
      Option.bind_eq_bind, Option.bind_some]
    rfl

theorem encodeChar_ne_nil (c : Char) : encodeChar c ≠ [] := by
  unfold encodeChar
  simp only
  split_ifs <;> exact List.cons_ne_nil _ _

theorem decodeUpTo?_encode {cs : List Char} {count : Nat} (h : cs.length ≤ count) :
    decodeUpTo? count (encode cs) = some cs := by
  induction cs generalizing count with
  | nil => cases count <;> rfl
  | cons c rest ih =>
      obtain ⟨count, rfl⟩ : ∃ fewer, count = fewer + 1 := ⟨count - 1, by simp at h; omega⟩
      have hrest := ih (Nat.le_of_succ_le_succ h)
      have hencode : encode (c :: rest) = encodeChar c ++ encode rest := List.flatMap_cons
      have hne : encode (c :: rest) ≠ [] := by simp [hencode, encodeChar_ne_nil c]
      rw [decodeUpTo?.eq_3 _ _ (fun h => hne h), hencode, head?_encodeChar]
      simp only [Option.bind_eq_bind, Option.bind_some, hrest]
      rfl

theorem length_le_length_encode (cs : List Char) : cs.length ≤ (encode cs).length := by
  induction cs with
  | nil => exact Nat.le_refl 0
  | cons c rest ih =>
      have hlength := List.length_pos_of_ne_nil (encodeChar_ne_nil c)
      rw [encode, List.flatMap_cons, List.length_append, List.length_cons]
      rw [encode] at ih
      omega

theorem decode?_encode (cs : List Char) : decode? (encode cs) = some cs :=
  decodeUpTo?_encode (length_le_length_encode cs)

/-! ## Bytes that begin a character -/

/-- Whether a byte may begin a character. -/
def isLead (byte : Nat) : Bool := byte < 0x80 || 0xC0 ≤ byte

theorem isLead_iff {byte : Nat} : isLead byte = true ↔ byte < 0x80 ∨ 0xC0 ≤ byte := by
  rw [isLead, Bool.or_eq_true, decide_eq_true_iff, decide_eq_true_iff]

theorem countP_isLead_encodeChar (c : Char) : (encodeChar c).countP isLead = 1 := by
  have hlead {n : Nat} (h : n < 0x80 ∨ 0xC0 ≤ n) (rest : List Nat) :
      (n :: rest).countP isLead = rest.countP isLead + 1 :=
    List.countP_cons_of_pos (isLead_iff.2 h)
  have hnext (n : Nat) (rest : List Nat) :
      ((0x80 + n % 2 ^ 6) :: rest).countP isLead = rest.countP isLead := by
    have hlt : n % 2 ^ 6 < 2 ^ 6 := Nat.mod_lt n (by decide)
    exact List.countP_cons_of_neg (by rw [isLead_iff]; omega)
  unfold encodeChar
  simp only
  split_ifs with h1
  · rw [hlead (.inl h1), List.countP_nil]
  all_goals
    rw [hlead (.inr (by omega))]
    simp only [hnext, List.countP_nil]

/-- A character that is read begins with a byte that may begin one. -/
theorem head?_eq_some {bytes rest : List Nat} {c : Char} (h : head? bytes = some (c, rest)) :
    rest.countP isLead + 1 ≤ bytes.countP isLead := by
  obtain ⟨byte, tail, rfl, hlead, hsuffix⟩ : ∃ byte tail, bytes = byte :: tail ∧
      (byte < 0x80 ∨ 0xC0 ≤ byte) ∧ rest <:+ tail := by
    unfold head? at h
    split at h
    · exact nomatch h
    · rename_i a tail
      split_ifs at h with h1 h2 h3 h4
      · obtain ⟨-, rfl⟩ := Prod.mk.inj (Option.some.inj h)
        exact ⟨a, _, rfl, .inl h1, List.suffix_refl _⟩
      · split at h
        · simp only [Option.bind_eq_bind, Option.bind_eq_some_iff] at h
          obtain ⟨_, -, _, -, heq⟩ := h
          obtain ⟨-, rfl⟩ := Prod.mk.inj (Option.some.inj heq)
          exact ⟨a, _, rfl, .inr h2.1, List.suffix_cons _ _⟩
        · exact nomatch h
      · split at h
        · simp only [Option.bind_eq_bind, Option.bind_eq_some_iff] at h
          obtain ⟨_, -, _, -, _, -, heq⟩ := h
          obtain ⟨-, rfl⟩ := Prod.mk.inj (Option.some.inj heq)
          exact ⟨a, _, rfl, .inr (by omega), ⟨[_, _], rfl⟩⟩
        · exact nomatch h
      · split at h
        · simp only [Option.bind_eq_bind, Option.bind_eq_some_iff] at h
          obtain ⟨_, -, _, -, _, -, _, -, heq⟩ := h
          obtain ⟨-, rfl⟩ := Prod.mk.inj (Option.some.inj heq)
          exact ⟨a, _, rfl, .inr (by omega), ⟨[_, _, _], rfl⟩⟩
        · exact nomatch h
  rw [List.countP_cons_of_pos (isLead_iff.2 hlead)]
  exact Nat.succ_le_succ hsuffix.sublist.countP_le

theorem length_decodeUpTo?_le {count : Nat} {bytes : List Nat} {cs : List Char}
    (h : decodeUpTo? count bytes = some cs) : cs.length ≤ bytes.countP isLead := by
  induction count generalizing bytes cs with
  | zero =>
      cases bytes with
      | nil => obtain rfl := Option.some.inj h; exact Nat.zero_le _
      | cons byte bytes => exact nomatch h
  | succ count ih =>
      cases bytes with
      | nil => obtain rfl := Option.some.inj h; exact Nat.zero_le _
      | cons byte bytes =>
          simp only [decodeUpTo?, Option.bind_eq_bind, Option.bind_eq_some_iff] at h
          obtain ⟨⟨c, rest⟩, hhead, text, htext, heq⟩ := h
          obtain rfl := Option.some.inj heq
          calc (c :: text).length = text.length + 1 := rfl
            _ ≤ rest.countP isLead + 1 := Nat.succ_le_succ (ih htext)
            _ ≤ (byte :: bytes).countP isLead := head?_eq_some hhead

/-- No more characters are decoded than there are bytes that may begin one. -/
theorem length_decode?_le {bytes : List Nat} {cs : List Char} (h : decode? bytes = some cs) :
    cs.length ≤ bytes.countP isLead :=
  length_decodeUpTo?_le h

end NodeFleet.Text.Utf8
