import NodeFleet.Proofs.AddressRange.Block
import NodeFleet.Proofs.Text.Parts

/-!
# Address ranges as text

Reading a range gives a block or a refusal, and a block that was written is read back as it
was.  An address is four numerals below 256 with dots between them, which read back one by
one; the block is what the test for host bits asks for.
-/

namespace NodeFleet.AddressRange

open NodeFleet.Text

/-! ## Addresses -/

/-- A number below 256 is read back from its numeral. -/
theorem octet?_write {n : Nat} (h : n < 256) : octet? (Numeral.write n) = some n := by
  have hpower : n < 10 ^ (2 + 1) := by omega
  have hlength : (Numeral.write n).length ≤ 3 := Numeral.length_write_le hpower
  have hlead : (Numeral.write n).length = 1 ∨ (Numeral.write n).head? ≠ some '0' := by
    rcases Nat.eq_zero_or_pos n with rfl | hpos
    · exact .inl (congrArg List.length (Numeral.write_of_lt (by decide)))
    · exact .inr (Numeral.head?_write hpos)
  rw [octet?, if_pos ⟨hlength, hlead⟩, Numeral.digits?_write, Option.filter_some,
    if_pos (decide_eq_true h)]

theorem address?_addressChars (address : UInt32) :
    address? (addressChars address) = some address := by
  have hlt : address.toNat < 2 ^ 32 := address.toNat_lt
  have hdot (n : Nat) : '.' ∉ Numeral.write n := Numeral.notMem_write (by decide) n
  have hsplit : splitOn '.' (addressChars address) =
      (octets address).map Numeral.write := by
    rw [splitOn_eq, addressChars, List.splitOn_intercalate]
    · rintro part hpart
      obtain ⟨n, -, rfl⟩ := List.mem_map.1 hpart
      exact hdot n
    · exact nofun
  simp only [address?, hsplit, octets, List.map_cons, List.map_nil]
  rw [octet?_write (by omega), octet?_write (by omega), octet?_write (by omega),
    octet?_write (by omega)]
  have hvalue : ((address.toNat / 2 ^ 24 * 256 + address.toNat / 2 ^ 16 % 256) * 256 +
      address.toNat / 2 ^ 8 % 256) * 256 + address.toNat % 256 = address.toNat := by omega
  simp only [bind, Option.bind, pure, hvalue, UInt32.ofNat_toNat]

/-- The characters of an address are digits and dots. -/
theorem forall_mem_addressChars {P : Char → Prop} (hdot : P '.')
    (hdigits : ∀ d < 10, P (Numeral.digitChar d)) (address : UInt32) :
    ∀ c ∈ addressChars address, P c := by
  intro c hc
  simp only [addressChars, octets, List.map_cons, List.map_nil, List.intercalate_cons_cons,
    List.intercalate_singleton, List.mem_append, List.mem_singleton] at hc
  have hnumeral (n : Nat) : c ∈ Numeral.write n → P c := Numeral.forall_mem_write hdigits n c
  rcases hc with (h | rfl) | (h | rfl) | (h | rfl) | h
  · exact hnumeral _ h
  · exact hdot
  · exact hnumeral _ h
  · exact hdot
  · exact hnumeral _ h
  · exact hdot
  · exact hnumeral _ h

/-! ## Ranges -/

/-- A block is read back from what is written for it. -/
theorem IsBlock.readChars_chars {range : AddressRange} (h : range.IsBlock) :
    readChars range.chars = .ok range := by
  have hblank : ∀ c ∈ range.chars, isBlank c = false := by
    intro c hc
    rcases List.mem_append.1 hc with haddress | hlength
    · exact forall_mem_addressChars (P := (isBlank · = false)) (by decide) (by decide) _ c haddress
    · rcases List.mem_cons.1 hlength with rfl | hdigits
      · decide
      · exact Numeral.forall_mem_write (P := (isBlank · = false)) (by decide) _ c hdigits
  have hslash : '/' ∉ addressChars range.network := fun hc =>
    forall_mem_addressChars (P := (· ≠ '/')) (by decide) (by decide) _ '/' hc rfl
  have hle := h.prefix_le
  have hlength : Numeral.below? 256 (Numeral.write range.prefixLength.toNat) =
      some range.prefixLength.toNat := Numeral.below?_write (by omega)
  simp only [readChars, trim_of_forall_not_blank hblank]
  simp only [chars, cut?_append hslash, address?_addressChars, hlength, if_neg (Nat.not_lt.2 hle),
    UInt8.ofNat_toNat]
  rw [if_neg]
  exact not_not_intro ((hostBits_eq_zero_iff hle).2 h)

theorem IsBlock.read_text {range : AddressRange} (h : range.IsBlock) :
    read range.text = .ok range := by
  rw [read, text, String.toList_ofList]
  exact h.readChars_chars

/-- Only blocks are read. -/
theorem isBlock_of_read {text : String} {range : AddressRange} (h : read text = .ok range) :
    range.IsBlock := by
  unfold read readChars at h
  dsimp only at h
  split at h
  · exact nomatch h
  · split at h
    · exact nomatch h
    · split at h
      · exact nomatch h
      · rename_i n hlength
        split_ifs at h with hlong hhost
        obtain rfl := Except.ok.inj h
        have hle : n ≤ 32 := Nat.not_lt.1 hlong
        have hprefix : (UInt8.ofNat n).toNat = n := UInt8.toNat_ofNat_of_lt (by
          simp only [UInt8.size]
          omega)
        have hmax : (UInt8.ofNat n).toNat ≤ 32 := hprefix.trans_le hle
        exact (hostBits_eq_zero_iff hmax).1 (not_not.1 hhost)

end NodeFleet.AddressRange
