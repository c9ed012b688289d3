import Mathlib.Data.Nat.Bitwise
import NodeFleet.AddressRange

/-!
# Blocks of addresses

An address belongs to a range if it agrees with the network address in the bits that the
prefix fixes.  A range is a block if its network address is a multiple of its size, which
is what reading a range checks.  The blocks of a longer prefix inside a block divide it:
each lies inside, and no two of them share an address.

Masks are bits, sizes are powers of two; `land_mask` turns the one into the other, and
after it everything is division with remainder.
-/

namespace NodeFleet.AddressRange

/-- Whether an address belongs to a range. -/
def Covers (range : AddressRange) (address : UInt32) : Prop :=
  address &&& mask range.prefixLength = range.network &&& mask range.prefixLength

instance (range : AddressRange) (address : UInt32) : Decidable (range.Covers address) :=
  inferInstanceAs (Decidable (_ = _))

/-- The number of addresses that share the first bits. -/
def blockSize (prefixLength : Nat) : Nat := 2 ^ (32 - prefixLength)

/-- Whether a range is a block, beginning where a block of its size does. -/
structure IsBlock (range : AddressRange) : Prop where
  prefix_le : range.prefixLength.toNat ≤ 32
  dvd : blockSize range.prefixLength.toNat ∣ range.network.toNat

/-! ## Masks -/

theorem blockSize_pos (prefixLength : Nat) : 0 < blockSize prefixLength :=
  Nat.two_pow_pos _

theorem mask_toNat {length : UInt8} (h : length.toNat ≤ 32) :
    (mask length).toNat = (2 ^ length.toNat - 1) * blockSize length.toNat := by
  have hall : ∀ n : Fin 33, (mask (UInt8.ofNat n)).toNat = (2 ^ n.val - 1) * blockSize n := by
    decide
  have hlength := hall ⟨length.toNat, Nat.lt_succ_of_le h⟩
  rwa [UInt8.ofNat_toNat] at hlength

theorem not_mask_toNat {length : UInt8} (h : length.toNat ≤ 32) :
    (~~~mask length).toNat = blockSize length.toNat - 1 := by
  have hall : ∀ n : Fin 33, (~~~mask (UInt8.ofNat n)).toNat = blockSize n - 1 := by
    decide
  have hlength := hall ⟨length.toNat, Nat.lt_succ_of_le h⟩
  rwa [UInt8.ofNat_toNat] at hlength

/-- Masking an address takes the start of the block that it lies in. -/
theorem land_mask {length : UInt8} (h : length.toNat ≤ 32) (address : UInt32) :
    (address &&& mask length).toNat =
      address.toNat / blockSize length.toNat * blockSize length.toNat := by
  have hlt : address.toNat < 2 ^ 32 := address.toNat_lt
  rw [UInt32.toNat_and, mask_toNat h]
  unfold blockSize
  refine Nat.eq_of_testBit_eq fun i => ?_
  rw [Nat.testBit_and, Nat.testBit_mul_two_pow, Nat.testBit_mul_two_pow, Nat.testBit_div_two_pow,
    Nat.testBit_two_pow_sub_one]
  -- The bits below the block are cleared, and there are none beyond the word.
  by_cases hlow : 32 - length.toNat ≤ i
  · rw [Nat.sub_add_cancel hlow]
    by_cases hhigh : i < 32
    · have hfixed : i - (32 - length.toNat) < length.toNat := by omega
      simp [hlow, hfixed]
    · have hle : 2 ^ 32 ≤ 2 ^ i := Nat.pow_le_pow_right (by decide) (Nat.not_lt.1 hhigh)
      rw [Nat.testBit_lt_two_pow (Nat.lt_of_lt_of_le hlt hle), Bool.false_and, Bool.and_false]
  · simp [hlow]

/-- An address belongs to a range if it lies in the same block as the network address. -/
theorem covers_iff {range : AddressRange} (h : range.prefixLength.toNat ≤ 32) {address : UInt32} :
    range.Covers address ↔
      address.toNat / blockSize range.prefixLength.toNat =
        range.network.toNat / blockSize range.prefixLength.toNat := by
  rw [Covers, ← UInt32.toNat_inj, land_mask h, land_mask h,
    Nat.mul_right_cancel_iff (blockSize_pos _)]

theorem hostBits_eq_zero_iff {range : AddressRange} (h : range.prefixLength.toNat ≤ 32) :
    range.network &&& ~~~mask range.prefixLength = 0 ↔ range.IsBlock := by
  have hrest : (range.network &&& ~~~mask range.prefixLength).toNat =
      range.network.toNat % blockSize range.prefixLength.toNat := by
    rw [UInt32.toNat_and, not_mask_toNat h]
    exact Nat.and_two_pow_sub_one_eq_mod _ _
  rw [← UInt32.toNat_inj, hrest]
  constructor
  · exact fun hzero => ⟨h, Nat.dvd_of_mod_eq_zero hzero⟩
  · exact fun hblock => Nat.mod_eq_zero_of_dvd hblock.dvd

/-- The addresses of a block are those from its network address on, as many as its size. -/
theorem IsBlock.covers_iff {range : AddressRange} (h : range.IsBlock) {address : UInt32} :
    range.Covers address ↔
      range.network.toNat ≤ address.toNat ∧
        address.toNat < range.network.toNat + blockSize range.prefixLength.toNat := by
  have hsize := blockSize_pos range.prefixLength.toNat
  obtain ⟨start, hstart⟩ := h.dvd
  rw [AddressRange.covers_iff h.prefix_le, hstart, Nat.mul_div_cancel_left _ hsize,
    Nat.div_eq_iff hsize]
  have hcomm := Nat.mul_comm (blockSize range.prefixLength.toNat) start
  omega

/-- A block does not reach beyond the last address. -/
theorem IsBlock.end_le {range : AddressRange} (h : range.IsBlock) :
    range.network.toNat + blockSize range.prefixLength.toNat ≤ 2 ^ 32 := by
  have hlt : range.network.toNat < 2 ^ 32 := range.network.toNat_lt
  have hall : 2 ^ 32 = blockSize range.prefixLength.toNat * 2 ^ range.prefixLength.toNat := by
    have hle := h.prefix_le
    rw [blockSize, ← Nat.pow_add, Nat.sub_add_cancel hle]
  obtain ⟨start, hstart⟩ := h.dvd
  rw [hstart, hall] at hlt ⊢
  have hnext : start + 1 ≤ 2 ^ range.prefixLength.toNat := Nat.lt_of_mul_lt_mul_left hlt
  calc blockSize range.prefixLength.toNat * start + blockSize range.prefixLength.toNat
      = blockSize range.prefixLength.toNat * (start + 1) := by rw [Nat.mul_succ]
    _ ≤ blockSize range.prefixLength.toNat * 2 ^ range.prefixLength.toNat :=
        Nat.mul_le_mul_left _ hnext

/-! ## Subnets -/

section Subnets

variable {base range : AddressRange} {length : UInt8} {index : Nat}

/-- A range has subnets of every longer prefix that 32 bits allow. -/
theorem subnetCount_eq_ok_iff {count : Nat} :
    base.subnetCount length = .ok count ↔
      base.prefixLength.toNat ≤ length.toNat ∧ length.toNat ≤ 32 ∧
        count = 2 ^ (length.toNat - base.prefixLength.toNat) := by
  have hlt (a b : UInt8) : a < b ↔ a.toNat < b.toNat := UInt8.lt_iff_toNat_lt
  have hmax : (32 : UInt8).toNat = 32 := rfl
  simp only [subnetCount, hlt, hmax]
  split_ifs with hbad
  · simp only [false_iff]
    omega
  · simp only [Except.ok.injEq]
    constructor
    · rintro rfl
      exact ⟨by omega, by omega, rfl⟩
    · exact fun h => h.2.2.symm

theorem exists_subnet {available : Nat} (hcount : base.subnetCount length = .ok available)
    (hindex : index < available) : ∃ range, base.subnet index length = .ok range := by
  simp only [subnet, hcount, bind, Except.bind, Nat.not_le.2 hindex, if_false]
  exact ⟨_, rfl⟩

/-- A shorter prefix has larger blocks, by a power of two. -/
theorem blockSize_eq_mul {short long : Nat} (hle : short ≤ long) (hmax : long ≤ 32) :
    blockSize short = blockSize long * 2 ^ (long - short) := by
  rw [blockSize, blockSize, ← Nat.pow_add]
  congr 1
  omega

/-- The last subnet ends where the block does. -/
theorem succ_mul_blockSize_le (hle : base.prefixLength.toNat ≤ length.toNat)
    (hmax : length.toNat ≤ 32) (hindex : index < 2 ^ (length.toNat - base.prefixLength.toNat)) :
    index * blockSize length.toNat + blockSize length.toNat ≤
      blockSize base.prefixLength.toNat := by
  rw [← Nat.succ_mul, blockSize_eq_mul hle hmax, Nat.mul_comm (blockSize _)]
  exact Nat.mul_le_mul_right _ hindex

/-- The network addresses of the subnets of a block fit into 32 bits. -/
theorem IsBlock.subnet_lt (hbase : base.IsBlock) (hle : base.prefixLength.toNat ≤ length.toNat)
    (hmax : length.toNat ≤ 32) (hindex : index < 2 ^ (length.toNat - base.prefixLength.toNat)) :
    base.network.toNat + index * blockSize length.toNat < 2 ^ 32 := by
  have hinside := succ_mul_blockSize_le hle hmax hindex
  have hsize := blockSize_pos length.toNat
  have hend := hbase.end_le
  omega

/-- The subnets of a block begin one after the other, as long as the block lasts. -/
theorem IsBlock.subnet_eq_ok_iff (hbase : base.IsBlock) :
    base.subnet index length = .ok range ↔
      base.prefixLength.toNat ≤ length.toNat ∧ length.toNat ≤ 32 ∧
        index < 2 ^ (length.toNat - base.prefixLength.toNat) ∧ range.prefixLength = length ∧
        range.network.toNat = base.network.toNat + index * blockSize length.toNat := by
  cases hcount : base.subnetCount length with
  | error fault =>
      have herror : base.subnet index length = .error fault := by
        simp only [subnet, hcount]
        rfl
      rw [herror]
      refine ⟨nofun, ?_⟩
      rintro ⟨hle, hmax, -⟩
      exact nomatch hcount.symm.trans (subnetCount_eq_ok_iff.2 ⟨hle, hmax, rfl⟩)
  | ok count =>
      obtain ⟨hle, hmax, rfl⟩ := subnetCount_eq_ok_iff.1 hcount
      simp only [subnet, hcount, bind, Except.bind]
      split_ifs with hindex
      · simp only [false_iff]
        omega
      · -- The sum stays within a word, so the addition does not wrap.
        have hlt := hbase.subnet_lt hle hmax (Nat.not_le.1 hindex)
        have hnetwork := UInt32.toNat_ofNat_of_lt (n := base.network.toNat +
          index * blockSize length.toNat) (by simpa only [UInt32.size] using hlt)
        simp only [pure, Except.pure, Except.ok.injEq]
        constructor
        · rintro rfl
          exact ⟨hle, hmax, Nat.not_le.1 hindex, rfl, hnetwork⟩
        · rintro ⟨-, -, -, hprefix, hrange⟩
          obtain ⟨network, prefixLength⟩ := range
          obtain rfl : prefixLength = length := hprefix
          have hsame : UInt32.ofNat (base.network.toNat + index * blockSize prefixLength.toNat) =
              network := UInt32.toNat_inj.1 (hnetwork.trans hrange.symm)
          exact congrArg (AddressRange.mk · prefixLength) hsame

variable (hbase : base.IsBlock) (hsubnet : base.subnet index length = .ok range)

include hbase hsubnet

theorem subnet_isBlock : range.IsBlock := by
  obtain ⟨hle, hmax, -, rfl, hnetwork⟩ := hbase.subnet_eq_ok_iff.1 hsubnet
  refine ⟨hmax, ?_⟩
  have hparts : blockSize range.prefixLength.toNat ∣ blockSize base.prefixLength.toNat :=
    ⟨_, blockSize_eq_mul hle hmax⟩
  rw [hnetwork]
  exact Nat.dvd_add (hparts.trans hbase.dvd) (Nat.dvd_mul_left _ _)

/-- The subnets count the smaller blocks from the network address of the range on. -/
theorem subnet_covers_iff {address : UInt32} :
    range.Covers address ↔
      address.toNat / blockSize length.toNat =
        base.network.toNat / blockSize length.toNat + index := by
  obtain ⟨hle, hmax, -, rfl, hnetwork⟩ := hbase.subnet_eq_ok_iff.1 hsubnet
  rw [covers_iff hmax, hnetwork, Nat.add_mul_div_right _ _ (blockSize_pos _)]

theorem subnet_covers {address : UInt32} (h : range.Covers address) : base.Covers address := by
  have hblock := subnet_isBlock hbase hsubnet
  obtain ⟨hle, hmax, hindex, rfl, hnetwork⟩ := hbase.subnet_eq_ok_iff.1 hsubnet
  have hinside := succ_mul_blockSize_le hle hmax hindex
  obtain ⟨hfirst, hlast⟩ := hblock.covers_iff.1 h
  exact hbase.covers_iff.2 ⟨by omega, by omega⟩

end Subnets

/-- Subnets with different indices share no address. -/
theorem subnet_disjoint {base first second : AddressRange} {length : UInt8} {i j : Nat}
    (hbase : base.IsBlock) (hfirst : base.subnet i length = .ok first)
    (hsecond : base.subnet j length = .ok second) (hne : i ≠ j) (address : UInt32) :
    ¬ (first.Covers address ∧ second.Covers address) := by
  rintro ⟨hin, hin'⟩
  have hi := (subnet_covers_iff hbase hfirst).1 hin
  have hj := (subnet_covers_iff hbase hsecond).1 hin'
  omega

end NodeFleet.AddressRange
