import NodeFleet.Proofs.Text.Utf8
import NodeFleet.Text.Percent

/-!
# Reading percent-encoded text back

Encoding leaves the bytes of a text as they are, as long as it keeps percent signs and
hexadecimal digits (`bytes_encode`): it adds escapes, and the ones that stood there before
are still read as escapes.  So a text is read back from its encoding if it has no escapes of
its own (`decode?_of_isUnescaped`), and otherwise what is read is shorter than the text
(`eq_of_decode?`).
-/

namespace NodeFleet.Text.Percent

/-! ## Escapes -/

/-- Whether a text begins with this many hexadecimal digits. -/
def beginsWithDigits : Nat → List Char → Bool
  | 0, _ => true
  | _ + 1, [] => false
  | count + 1, c :: rest => (hexDigit? c).isSome && beginsWithDigits count rest

/-- Whether a text has no escapes. -/
def isUnescaped : List Char → Bool
  | [] => true
  | c :: rest => !(c = '%' && beginsWithDigits 2 rest) && isUnescaped rest

theorem hexDigit?_hexChar (n : Nat) : hexDigit? (hexChar n) = some (n % 16) := by
  have hdigits : ∀ d : Fin 16, hexDigit? (hexChar d.val) = some d.val := by decide
  have hdigit := hdigits ⟨n % 16, Nat.mod_lt n (by decide)⟩
  simpa only [hexChar, Nat.mod_mod] using hdigit

/-- What a text with an escape in front is read as. -/
theorem exists_bytes_escaped {cs : List Char} (h : beginsWithDigits 2 cs = true) :
    ∃ a b rest byte, cs = a :: b :: rest ∧ (hexDigit? a).isSome = true ∧
      (hexDigit? b).isSome = true ∧
      ∀ rest, bytes ('%' :: a :: b :: rest) = byte :: bytes rest := by
  match cs with
  | [] | [_] => simp [beginsWithDigits] at h
  | a :: b :: rest =>
      simp only [beginsWithDigits, Bool.and_true, Bool.and_eq_true] at h
      obtain ⟨high, hhigh⟩ := Option.isSome_iff_exists.1 h.1
      obtain ⟨low, hlow⟩ := Option.isSome_iff_exists.1 h.2
      exact ⟨a, b, rest, 16 * high + low, rfl, h.1, h.2, fun rest => by simp [bytes, hhigh, hlow]⟩

/-- A character that starts no escape stands for itself. -/
theorem bytes_cons {c : Char} {cs : List Char} (h : c = '%' → beginsWithDigits 2 cs = false) :
    bytes (c :: cs) = Utf8.encodeChar c ++ bytes cs := by
  by_cases hc : c = '%'
  · subst hc
    match cs, h rfl with
    | [], _ => rfl
    | [_], _ => rfl
    | a :: b :: rest, h =>
        simp only [beginsWithDigits, Bool.and_true, Bool.and_eq_false_iff,
          Option.isSome_eq_false_iff, Option.isNone_iff_eq_none] at h
        rcases h with h | h <;> simp [bytes, h] <;> rfl
  · rw [bytes.eq_3 c cs fun _ _ _ heq _ => hc heq]

theorem bytes_escape {byte : Nat} (h : byte < 256) (cs : List Char) :
    bytes (escape byte ++ cs) = byte :: bytes cs := by
  simp only [escape, List.cons_append, List.nil_append, bytes, hexDigit?_hexChar]
  congr 1
  omega

theorem lt_of_mem_encodeChar {c : Char} {byte : Nat} (h : byte ∈ Utf8.encodeChar c) :
    byte < 256 := by
  have hvalid : c.toNat.isValidChar := c.valid
  simp only [Nat.isValidChar] at hvalid
  unfold Utf8.encodeChar at h
  simp only at h
  split_ifs at h <;> simp only [List.mem_cons, List.not_mem_nil, or_false] at h <;> omega

theorem bytes_flatMap_escape {bs : List Nat} (h : ∀ byte ∈ bs, byte < 256) (cs : List Char) :
    bytes (bs.flatMap escape ++ cs) = bs ++ bytes cs := by
  induction bs with
  | nil => rfl
  | cons byte bs ih =>
      obtain ⟨hbyte, hbs⟩ := List.forall_mem_cons.1 h
      rw [List.flatMap_cons, List.append_assoc, bytes_escape hbyte, ih hbs, List.cons_append]

/-! ## Encoding and the bytes -/

section Encode

variable {keep : Char → Bool}

theorem encode_cons (c : Char) (cs : List Char) :
    encode keep (c :: cs) =
      (if keep c then [c] else (Utf8.encodeChar c).flatMap escape) ++ encode keep cs :=
  List.flatMap_cons

theorem encode_cons_of_pos {c : Char} (h : keep c = true) (cs : List Char) :
    encode keep (c :: cs) = c :: encode keep cs := by
  rw [encode_cons, if_pos h, List.singleton_append]

/-- An escaped character begins with a percent sign. -/
theorem exists_encode_cons_of_neg {c : Char} (h : keep c = false) (cs : List Char) :
    ∃ rest, encode keep (c :: cs) = '%' :: rest := by
  obtain ⟨byte, bs, hbytes⟩ := List.exists_cons_of_ne_nil (Utf8.encodeChar_ne_nil c)
  exact ⟨_, by rw [encode_cons, h, if_neg Bool.false_ne_true, hbytes, List.flatMap_cons, escape,
    List.cons_append, List.cons_append]⟩

/-- Characters that are kept, among them percent signs and digits. -/
structure Keeps (keep : Char → Bool) : Prop where
  percent : keep '%' = true
  digit : ∀ c, (hexDigit? c).isSome = true → keep c = true

variable (hkeep : Keeps keep)

include hkeep

theorem beginsWithDigits_encode (count : Nat) (cs : List Char) :
    beginsWithDigits count (encode keep cs) = beginsWithDigits count cs := by
  induction count generalizing cs with
  | zero => simp only [beginsWithDigits]
  | succ count ih =>
      cases cs with
      | nil => rfl
      | cons c rest =>
          cases hc : keep c with
          | true => rw [encode_cons_of_pos hc, beginsWithDigits, beginsWithDigits, ih rest]
          | false =>
              have hdigit : (hexDigit? c).isSome = false := by
                by_contra hsome
                rw [hkeep.digit c ((Bool.not_eq_false _).mp hsome)] at hc
                exact Bool.false_ne_true hc.symm
              obtain ⟨tail, htail⟩ := exists_encode_cons_of_neg hc rest
              rw [htail, beginsWithDigits, beginsWithDigits, hdigit]
              rfl

theorem bytes_encode (cs : List Char) : bytes (encode keep cs) = bytes cs := by
  induction hlength : cs.length using Nat.strongRecOn generalizing cs with
  | ind length ih =>
      subst hlength
      match cs with
      | [] => rfl
      | c :: rest =>
          have hrest : bytes (encode keep rest) = bytes rest := ih _ (Nat.lt_succ_self _) rest rfl
          cases hc : keep c with
          | false =>
              have hne : c ≠ '%' := by rintro rfl; exact Bool.false_ne_true (hc ▸ hkeep.percent)
              rw [encode_cons, hc, if_neg Bool.false_ne_true,
                bytes_flatMap_escape (fun _ => lt_of_mem_encodeChar), hrest,
                bytes_cons fun heq => absurd heq hne]
          | true =>
              rw [encode_cons_of_pos hc]
              by_cases hescape : c = '%' ∧ beginsWithDigits 2 rest = true
              · obtain ⟨rfl, hdigits⟩ := hescape
                obtain ⟨a, b, tail, byte, rfl, ha, hb, hbytes⟩ := exists_bytes_escaped hdigits
                have htail : bytes (encode keep tail) = bytes tail :=
                  ih _ (by simp only [List.length_cons]; omega) tail rfl
                rw [encode_cons_of_pos (hkeep.digit a ha), encode_cons_of_pos (hkeep.digit b hb),
                  hbytes, hbytes, htail]
              · have hplain : c = '%' → beginsWithDigits 2 rest = false := fun heq =>
                  (Bool.not_eq_true _).mp fun hdigits => hescape ⟨heq, hdigits⟩
                rw [bytes_cons hplain, bytes_cons fun heq =>
                  (beginsWithDigits_encode hkeep 2 rest).trans (hplain heq), hrest]

theorem decode?_encode (cs : List Char) : decode? (encode keep cs) = decode? cs := by
  rw [decode?, bytes_encode hkeep, decode?]

end Encode

/-! ## Texts without escapes -/

theorem bytes_of_isUnescaped {cs : List Char} (h : isUnescaped cs = true) :
    bytes cs = Utf8.encode cs := by
  induction cs with
  | nil => rfl
  | cons c rest ih =>
      simp only [isUnescaped, Bool.and_eq_true, Bool.not_eq_true', Bool.and_eq_false_imp,
        decide_eq_true_iff] at h
      rw [bytes_cons h.1, ih h.2, Utf8.encode, Utf8.encode, List.flatMap_cons]

theorem decode?_of_isUnescaped {cs : List Char} (h : isUnescaped cs = true) :
    decode? cs = some cs := by
  rw [decode?, bytes_of_isUnescaped h, Utf8.decode?_encode]

/-- Every escape costs at least two characters. -/
theorem countP_isLead_bytes (cs : List Char) :
    (bytes cs).countP Utf8.isLead ≤ cs.length ∧
      ((bytes cs).countP Utf8.isLead = cs.length → isUnescaped cs = true) := by
  induction hlength : cs.length using Nat.strongRecOn generalizing cs with
  | ind length ih =>
      subst hlength
      match cs with
      | [] => exact ⟨Nat.le_refl 0, fun _ => rfl⟩
      | c :: rest =>
          by_cases hescape : c = '%' ∧ beginsWithDigits 2 rest = true
          · obtain ⟨rfl, hdigits⟩ := hescape
            obtain ⟨a, b, tail, byte, rfl, -, -, hbytes⟩ := exists_bytes_escaped hdigits
            have htail := (ih _ (by simp only [List.length_cons]; omega) tail rfl).1
            have hhead : (byte :: bytes tail).countP Utf8.isLead ≤
                (bytes tail).countP Utf8.isLead + 1 := by
              rw [List.countP_cons]; split <;> omega
            have hlt : (bytes ('%' :: a :: b :: tail)).countP Utf8.isLead <
                ('%' :: a :: b :: tail).length := by
              rw [hbytes]
              simp only [List.length_cons]
              omega
            exact ⟨Nat.le_of_lt hlt, fun heq => absurd heq (Nat.ne_of_lt hlt)⟩
          · have hplain : c = '%' → beginsWithDigits 2 rest = false := fun heq =>
              (Bool.not_eq_true _).mp fun hdigits => hescape ⟨heq, hdigits⟩
            obtain ⟨hle, heq⟩ := ih _ (Nat.lt_succ_self _) rest rfl
            have hcount : (bytes (c :: rest)).countP Utf8.isLead =
                (bytes rest).countP Utf8.isLead + 1 := by
              rw [bytes_cons hplain, List.countP_append, Utf8.countP_isLead_encodeChar,
                Nat.add_comm]
            rw [hcount, List.length_cons]
            refine ⟨Nat.succ_le_succ hle, fun h => ?_⟩
            have hfront : (c = '%' && beginsWithDigits 2 rest) = false := by simpa using hplain
            rw [isUnescaped, hfront, heq (Nat.succ.inj h)]
            rfl

/-- What is decoded is no longer than what it is decoded from. -/
theorem length_decode?_le {cs text : List Char} (h : decode? cs = some text) :
    text.length ≤ cs.length :=
  Nat.le_trans (Utf8.length_decode?_le h) (countP_isLead_bytes cs).1

/-- Only a text without escapes is decoded to one of the same length: itself. -/
theorem eq_of_decode? {cs text : List Char} (h : decode? cs = some text)
    (hlength : cs.length ≤ text.length) : isUnescaped cs = true ∧ text = cs := by
  have hle : text.length ≤ (bytes cs).countP Utf8.isLead := Utf8.length_decode?_le h
  obtain ⟨hcount, heq⟩ := countP_isLead_bytes cs
  have hunescaped : isUnescaped cs = true := heq (by omega)
  rw [decode?_of_isUnescaped hunescaped] at h
  exact ⟨hunescaped, (Option.some.inj h).symm⟩

end NodeFleet.Text.Percent
