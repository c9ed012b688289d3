import Mathlib.Tactic.SplitIfs
import NodeFleet.Profile
import NodeFleet.Proofs.AddressRange.Text
import NodeFleet.Proofs.Text.Numeral

/-!
# The grammar of address ranges

`Spells` says which texts, without the blanks around them, are an address and a prefix length:
the address as it is written, a slash, and a numeral.  An address can be written in one way
only (`address?_eq_some_iff`), a length in many.

Every text spells a block, or a length beyond 32, or an address with host bits, or it is no
such text at all.  `Answers` says what the grammar answers in each of the cases, and
`readChars_eq_iff` that the reader answers that and nothing else.  `Obtained` has the ranges
that come out of texts and of ranges that were obtained before.
-/

namespace NodeFleet.AddressRange

open NodeFleet.Text

/-! ## Addresses -/

/-- The parts of an address are the numerals that are written for the numbers below 256. -/
theorem octet?_eq_some_iff {cs : List Char} {n : Nat} :
    octet? cs = some n ↔ cs = Numeral.write n ∧ n < 256 := by
  constructor
  · intro h
    unfold octet? at h
    split_ifs at h with hform
    obtain ⟨hdigits, hlt⟩ := Option.filter_eq_some_iff.1 h
    obtain ⟨hne, hall, rfl⟩ := Numeral.digits?_eq_some_iff.1 hdigits
    exact ⟨(Numeral.write_value hne hall hform.2).symm, of_decide_eq_true hlt⟩
  · rintro ⟨rfl, hlt⟩
    exact octet?_write hlt

/-- Four numbers below 256 are the parts of one address. -/
theorem octets_ofNat {a b c d : Nat} (ha : a < 256) (hb : b < 256) (hc : c < 256) (hd : d < 256) :
    octets (UInt32.ofNat (((a * 256 + b) * 256 + c) * 256 + d)) = [a, b, c, d] := by
  have hlt : ((a * 256 + b) * 256 + c) * 256 + d < UInt32.size := by
    have hsize : UInt32.size = 2 ^ 32 := rfl
    omega
  have hvalue : (UInt32.ofNat (((a * 256 + b) * 256 + c) * 256 + d)).toNat =
      ((a * 256 + b) * 256 + c) * 256 + d := UInt32.toNat_ofNat_of_lt hlt
  simp only [octets, hvalue, List.cons.injEq, and_true]
  omega

/-- An address is read from the text that is written for it, and from no other. -/
theorem address?_eq_some_iff {cs : List Char} {address : UInt32} :
    address? cs = some address ↔ cs = addressChars address := by
  constructor
  · intro h
    unfold address? at h
    split at h
    · rename_i first second third fourth hparts
      obtain ⟨a, hfirst, h⟩ := Option.bind_eq_some_iff.1 h
      obtain ⟨b, hsecond, h⟩ := Option.bind_eq_some_iff.1 h
      obtain ⟨c, hthird, h⟩ := Option.bind_eq_some_iff.1 h
      obtain ⟨d, hfourth, h⟩ := Option.bind_eq_some_iff.1 h
      obtain rfl := Option.some.inj h
      obtain ⟨rfl, ha⟩ := octet?_eq_some_iff.1 hfirst
      obtain ⟨rfl, hb⟩ := octet?_eq_some_iff.1 hsecond
      obtain ⟨rfl, hc⟩ := octet?_eq_some_iff.1 hthird
      obtain ⟨rfl, hd⟩ := octet?_eq_some_iff.1 hfourth
      rw [← intercalate_splitOn '.' cs, hparts, addressChars, octets_ofNat ha hb hc hd]
      rfl
    · simp at h
  · rintro rfl
    exact address?_addressChars address

theorem addressChars_injective : Function.Injective addressChars := by
  intro address other h
  apply Option.some.inj
  rw [← address?_addressChars address, h, address?_addressChars]

theorem slash_notMem_addressChars (address : UInt32) : '/' ∉ addressChars address := fun hc =>
  forall_mem_addressChars (P := (· ≠ '/')) (by decide) (by decide) _ '/' hc rfl

/-! ## Host bits -/

/-- Whether an address has no bit set beyond its first `length` ones. -/
def IsClearBeyond (length : Nat) (address : UInt32) : Prop :=
  ∀ i < 32 - length, address.toNat.testBit i = false

instance (length : Nat) (address : UInt32) : Decidable (IsClearBeyond length address) :=
  inferInstanceAs (Decidable (∀ i < 32 - length, _))

theorem isClearBeyond_iff {length : Nat} {address : UInt32} :
    IsClearBeyond length address ↔ blockSize length ∣ address.toNat := by
  rw [blockSize, Nat.dvd_iff_mod_eq_zero]
  constructor
  · intro hclear
    apply Nat.zero_of_testBit_eq_false
    intro i
    rw [Nat.testBit_mod_two_pow]
    by_cases hi : i < 32 - length
    · rw [hclear i hi, Bool.and_false]
    · rw [decide_eq_false hi, Bool.false_and]
  · intro hzero i hi
    have hbit := Nat.testBit_mod_two_pow address.toNat (32 - length) i
    rw [hzero, Nat.zero_testBit, decide_eq_true hi, Bool.true_and] at hbit
    exact hbit.symm

theorem isBlock_iff {range : AddressRange} : range.IsBlock ↔
    range.prefixLength.toNat ≤ 32 ∧ IsClearBeyond range.prefixLength.toNat range.network := by
  rw [isClearBeyond_iff]
  exact ⟨fun h => ⟨h.prefix_le, h.dvd⟩, fun h => ⟨h.1, h.2⟩⟩

/-- The mask of every length up to 32 has exactly the leading bits set, zero included. -/
theorem testBit_mask {length : UInt8} (h : length.toNat ≤ 32) (i : Nat) :
    (mask length).toNat.testBit i = decide (32 - length.toNat ≤ i ∧ i < 32) := by
  rw [mask_toNat h, blockSize, Nat.testBit_mul_two_pow, Nat.testBit_two_pow_sub_one,
    ← Bool.decide_and]
  exact decide_eq_decide.2 (by omega)

/-! ## Texts -/

/-- A text is that of an address and a length, with nothing around it. -/
inductive Spells : List Char → UInt32 → Nat → Prop
  | intro {network : UInt32} {length : List Char} {n : Nat} (hlength : Numeral.Denotes length n) :
      Spells (addressChars network ++ '/' :: length) network n

/-- A text is cut in one way only. -/
theorem slash_inj {network other : UInt32} {length rest : List Char}
    (h : addressChars network ++ '/' :: length = addressChars other ++ '/' :: rest) :
    network = other ∧ length = rest := by
  have hcut := cut?_append (slash_notMem_addressChars network) length
  rw [h, cut?_append (slash_notMem_addressChars other)] at hcut
  obtain ⟨hfront, hback⟩ := Prod.mk.inj (Option.some.inj hcut)
  exact ⟨addressChars_injective hfront.symm, hback.symm⟩

/-- Whether an answer is the one that the grammar gives to a text without blanks around it. -/
def Answers (body : List Char) : Except AddressFault AddressRange → Prop
  | .ok range => Spells body range.network range.prefixLength.toNat ∧
      range.prefixLength.toNat ≤ 32 ∧ IsClearBeyond range.prefixLength.toNat range.network
  | .error .notARange => '/' ∉ body
  | .error .badAddress =>
      '/' ∈ body ∧ ∀ network length, body ≠ addressChars network ++ '/' :: length
  | .error .badPrefix => (∃ network length, body = addressChars network ++ '/' :: length) ∧
      ∀ network n, Spells body network n → 256 ≤ n
  | .error .prefixTooLong => ∃ network n, Spells body network n ∧ 32 < n ∧ n < 256
  | .error .hostBits => ∃ network n, Spells body network n ∧ n ≤ 32 ∧ ¬ IsClearBeyond n network
  | .error .absent => False

/-! ## What the reader answers -/

theorem spells_iff {body : List Char} {network : UInt32} {n : Nat} :
    Spells body network n ↔
      ∃ length, body = addressChars network ++ '/' :: length ∧ Numeral.Denotes length n := by
  constructor
  · rintro ⟨hlength⟩
    exact ⟨_, rfl, hlength⟩
  · rintro ⟨length, rfl, hlength⟩
    exact .intro hlength

section Readings

variable {cs : List Char}

theorem readChars_of_no_slash (h : '/' ∉ trim cs) : readChars cs = .error .notARange := by
  simp only [readChars, cut?_eq_none_iff.2 h]

theorem readChars_of_no_address (hslash : '/' ∈ trim cs)
    (hno : ∀ network length, trim cs ≠ addressChars network ++ '/' :: length) :
    readChars cs = .error .badAddress := by
  obtain ⟨front, back, hcut, hbody⟩ := exists_cut? hslash
  have haddress : address? front = none := by
    apply Option.eq_none_iff_forall_ne_some.2
    intro network hread
    exact hno network back (address?_eq_some_iff.1 hread ▸ hbody)
  simp only [readChars, hcut, haddress]

theorem readChars_of_no_length {network : UInt32} {length : List Char}
    (hbody : trim cs = addressChars network ++ '/' :: length)
    (hno : ∀ n, Numeral.Denotes length n → 256 ≤ n) : readChars cs = .error .badPrefix := by
  have hlength : Numeral.below? 256 length = none := by
    apply Option.eq_none_iff_forall_ne_some.2
    intro n hread
    obtain ⟨hdenotes, hlt⟩ := Numeral.below?_eq_some_iff.1 hread
    exact absurd (hno n hdenotes) (Nat.not_le.2 hlt)
  simp only [readChars, hbody, cut?_append (slash_notMem_addressChars network),
    address?_addressChars, hlength]

theorem readChars_of_spells {network : UInt32} {n : Nat} (h : Spells (trim cs) network n)
    (hlt : n < 256) :
    readChars cs =
      if 32 < n then .error .prefixTooLong
      else if IsClearBeyond n network then .ok ⟨network, UInt8.ofNat n⟩
      else .error .hostBits := by
  obtain ⟨length, hbody, hdenotes⟩ := spells_iff.1 h
  have hlength : Numeral.below? 256 length = some n :=
    Numeral.below?_eq_some_iff.2 ⟨hdenotes, hlt⟩
  have hvalue : (UInt8.ofNat n).toNat = n := UInt8.toNat_ofNat_of_lt hlt
  simp only [readChars, hbody, cut?_append (slash_notMem_addressChars network),
    address?_addressChars, hlength]
  by_cases hlong : 32 < n
  · rw [if_pos hlong, if_pos hlong]
  · -- The test for host bits asks for a block.
    have hmax : (UInt8.ofNat n).toNat ≤ 32 := hvalue.trans_le (Nat.not_lt.1 hlong)
    let range : AddressRange := ⟨network, UInt8.ofNat n⟩
    have hblock : range.network &&& ~~~mask range.prefixLength = 0 ↔ range.IsBlock :=
      hostBits_eq_zero_iff hmax
    have hclear : network &&& ~~~mask (UInt8.ofNat n) = 0 ↔ IsClearBeyond n network := by
      apply hblock.trans
      rw [isBlock_iff]
      simp only [range, hvalue, Nat.not_lt.1 hlong, true_and]
    rw [if_neg hlong, if_neg hlong, ite_not, if_congr hclear rfl rfl]

theorem readChars_answers (cs : List Char) : Answers (trim cs) (readChars cs) := by
  -- In the order of the reader: is there a slash, an address before it, and a length after it?
  by_cases hslash : '/' ∈ trim cs
  · by_cases haddress : ∃ network length, trim cs = addressChars network ++ '/' :: length
    · obtain ⟨network, length, hbody⟩ := haddress
      by_cases hspelled : ∃ n, Numeral.Denotes length n ∧ n < 256
      · obtain ⟨n, hdenotes, hlt⟩ := hspelled
        have hspells : Spells (trim cs) network n := spells_iff.2 ⟨length, hbody, hdenotes⟩
        have hvalue : (UInt8.ofNat n).toNat = n := UInt8.toNat_ofNat_of_lt hlt
        rw [readChars_of_spells hspells hlt]
        split_ifs with hlong hclear
        · exact ⟨network, n, hspells, hlong, hlt⟩
        · simp only [Answers, hvalue]
          exact ⟨hspells, Nat.not_lt.1 hlong, hclear⟩
        · exact ⟨network, n, hspells, Nat.not_lt.1 hlong, hclear⟩
      · have hno : ∀ n, Numeral.Denotes length n → 256 ≤ n := fun n hdenotes =>
          Nat.not_lt.1 fun hlt => hspelled ⟨n, hdenotes, hlt⟩
        rw [readChars_of_no_length hbody hno]
        refine ⟨⟨network, length, hbody⟩, fun other n hspells => ?_⟩
        obtain ⟨rest, hrest, hdenotes⟩ := spells_iff.1 hspells
        obtain ⟨-, rfl⟩ := slash_inj (hbody.symm.trans hrest)
        exact hno n hdenotes
    · have hno : ∀ network length, trim cs ≠ addressChars network ++ '/' :: length :=
        fun network length hbody => haddress ⟨network, length, hbody⟩
      rw [readChars_of_no_address hslash hno]
      exact ⟨hslash, hno⟩
  · rw [readChars_of_no_slash hslash]
    exact hslash

/-- The grammar gives one answer to a text, and that is what the reader answers. -/
theorem readChars_eq_iff {answer : Except AddressFault AddressRange} :
    readChars cs = answer ↔ Answers (trim cs) answer := by
  constructor
  · rintro rfl
    exact readChars_answers cs
  · intro h
    match answer, h with
    | .ok ⟨network, length⟩, ⟨hspells, hmax, hclear⟩ =>
        rw [readChars_of_spells hspells length.toNat_lt, if_neg (Nat.not_lt.2 hmax),
          if_pos hclear, UInt8.ofNat_toNat]
    | .error .notARange, hslash => exact readChars_of_no_slash hslash
    | .error .badAddress, ⟨hslash, hno⟩ => exact readChars_of_no_address hslash hno
    | .error .badPrefix, ⟨⟨network, length, hbody⟩, hno⟩ =>
        apply readChars_of_no_length hbody
        intro n hdenotes
        exact hno network n (spells_iff.2 ⟨length, hbody, hdenotes⟩)
    | .error .prefixTooLong, ⟨network, n, hspells, hlong, hlt⟩ =>
        rw [readChars_of_spells hspells hlt, if_pos hlong]
    | .error .hostBits, ⟨network, n, hspells, hmax, hset⟩ =>
        have hlt : n < 256 := Nat.lt_of_le_of_lt hmax (by decide)
        rw [readChars_of_spells hspells hlt, if_neg (Nat.not_lt.2 hmax), if_neg hset]

end Readings

/-! ## Ranges from texts -/

theorem readRange_ok_iff_answers {text : String} {range : AddressRange} :
    readRange text = .ok range ↔ Answers (trim text.toList) (.ok range) := by
  rw [← readChars_eq_iff, readRange, read]
  cases readChars text.toList with
  | ok found => simp
  | error fault => simp

theorem readRange_error_iff_answers {text : String} {error : ProfileError} :
    readRange text = .error error ↔
      ∃ fault, error = .malformedRange text fault ∧ Answers (trim text.toList) (.error fault) := by
  simp only [← readChars_eq_iff, readRange, read]
  cases readChars text.toList with
  | ok found => simp
  | error fault =>
      constructor
      · intro h
        exact ⟨fault, (Except.error.inj h).symm, rfl⟩
      · rintro ⟨found, rfl, hfound⟩
        rw [Except.error.inj hfound]

/-- The ranges that come out of a text: the one that is read, and the subnets of those that came out
before. -/
inductive Obtained (text : String) : AddressRange → Prop
  | read {range : AddressRange} (h : readRange text = .ok range) : Obtained text range
  | subnet {base range : AddressRange} {index : Nat} {length : UInt8} (hbase : Obtained text base)
      (h : base.subnet index length = .ok range) : Obtained text range

theorem Obtained.isBlock {text : String} {range : AddressRange} (h : Obtained text range) :
    range.IsBlock := by
  induction h with
  | read h => exact isBlock_iff.2 (readRange_ok_iff_answers.1 h).2
  | subnet _ h ih => exact subnet_isBlock ih h

theorem IsBlock.readRange_text {range : AddressRange} (h : range.IsBlock) :
    readRange range.text = .ok range := by
  rw [readRange, h.read_text]

/-- Reading and writing address ranges agree.  A text is read exactly if, without the blanks around
it, it is an address, a slash and a length of at most 32 beyond which the address has no bit set.
Every other text is refused as malformed, for the reason that applies; an address with a host bit
for that one.  All ranges that come out of a text, by reading it and by taking subnets, have no bit
beyond their prefix, and every such range is read back from what is written for it.  The masks of
all lengths have the leading bits and no others. -/
theorem readRange_agrees (text : String) :
    (∀ range, readRange text = .ok range ↔
      Spells (trim text.toList) range.network range.prefixLength.toNat ∧
        range.prefixLength.toNat ≤ 32 ∧
        IsClearBeyond range.prefixLength.toNat range.network) ∧
    (∀ error, readRange text = .error error → ∃ fault, error = .malformedRange text fault ∧
      error.kind = "malformed_address_range" ∧ Answers (trim text.toList) (.error fault)) ∧
    (∀ network n, Spells (trim text.toList) network n → n ≤ 32 → ¬ IsClearBeyond n network →
      readRange text = .error (.malformedRange text .hostBits)) ∧
    (∀ range, Obtained text range → range.prefixLength.toNat ≤ 32 ∧
      IsClearBeyond range.prefixLength.toNat range.network ∧
      readRange range.text = .ok range) ∧
    (∀ range : AddressRange, range.prefixLength.toNat ≤ 32 →
      IsClearBeyond range.prefixLength.toNat range.network → readRange range.text = .ok range) ∧
    ∀ length : UInt8, length.toNat ≤ 32 → ∀ i,
      (mask length).toNat.testBit i = decide (32 - length.toNat ≤ i ∧ i < 32) := by
  refine ⟨fun range => readRange_ok_iff_answers, ?_, ?_, ?_, ?_, fun length => testBit_mask⟩
  · intro error herror
    obtain ⟨fault, rfl, hfault⟩ := readRange_error_iff_answers.1 herror
    exact ⟨fault, rfl, rfl, hfault⟩
  · intro network n hspells hmax hset
    exact readRange_error_iff_answers.2 ⟨.hostBits, rfl, network, n, hspells, hmax, hset⟩
  · intro range hobtained
    have hblock := hobtained.isBlock
    obtain ⟨hmax, hclear⟩ := isBlock_iff.1 hblock
    exact ⟨hmax, hclear, hblock.readRange_text⟩
  · intro range hmax hclear
    exact (isBlock_iff.2 ⟨hmax, hclear⟩).readRange_text

end NodeFleet.AddressRange
