import Mathlib.Data.Set.Card
import NodeFleet.Proofs.AddressRange.Block

/-!
# Division of a block into subnets

The subnets of a block are all blocks of their length inside it (`IsPart.exists_subnet`), each
counted once.  An address of the base lies in one of them because the block of that length
around it stays inside the base (`blockOf_isPart`), and in no other because subnets share no
address.  Subnets of subnets are subnets: cutting twice is cutting once, with the two indices
joined into one.

Indices, offsets and addresses are 64-bit words where they are computed.  For the subnets of
a block none of these words loses a bit, so they are the numbers that they stand for.
-/

namespace NodeFleet.AddressRange

/-- A block of the given prefix length inside a range. -/
structure IsPart (part base : AddressRange) (length : UInt8) : Prop where
  prefix_eq : part.prefixLength = length
  hostBits_eq : part.network &&& ~~~mask length = 0
  covered : ∀ address, part.Covers address → base.Covers address

/-! ## Words -/

/-- The number of subnets, computed in a 64-bit word. -/
def countWord (base : AddressRange) (length : UInt8) : UInt64 :=
  1 <<< (length - base.prefixLength).toUInt64

/-- How far a subnet begins after its base, computed in a 64-bit word. -/
def offsetWord (index : UInt64) (length : UInt8) : UInt64 :=
  index <<< (32 - length.toUInt64)

/-- The network address of a subnet, computed in a 64-bit word. -/
def networkWord (base : AddressRange) (index : UInt64) (length : UInt8) : UInt64 :=
  base.network.toUInt64 + offsetWord index length

section Words

variable {base : AddressRange} {length : UInt8} {index : UInt64}

/-- A shift loses no bits if the product fits into a word. -/
theorem toNat_shiftLeft_of_lt {word amount : UInt64} (hamount : amount.toNat < 64)
    (hlt : word.toNat * 2 ^ amount.toNat < 2 ^ 64) :
    (word <<< amount).toNat = word.toNat * 2 ^ amount.toNat := by
  rw [UInt64.toNat_shiftLeft, Nat.mod_eq_of_lt hamount, Nat.shiftLeft_eq, Nat.mod_eq_of_lt hlt]

theorem countWord_toNat (hle : base.prefixLength.toNat ≤ length.toNat)
    (hmax : length.toNat ≤ 32) :
    (base.countWord length).toNat = 2 ^ (length.toNat - base.prefixLength.toNat) := by
  have hamount : (length - base.prefixLength).toUInt64.toNat =
      length.toNat - base.prefixLength.toNat := by
    rw [UInt8.toNat_toUInt64, UInt8.toNat_sub_of_le _ _ (UInt8.le_iff_toNat_le.2 hle)]
  have hpower : 2 ^ (length.toNat - base.prefixLength.toNat) ≤ 2 ^ 32 := by
    apply Nat.pow_le_pow_right (by decide)
    omega
  have hone : (1 : UInt64).toNat = 1 := rfl
  rw [countWord, toNat_shiftLeft_of_lt, hamount, hone, Nat.one_mul]
  · omega
  · rw [hamount, hone]
    omega

theorem offsetWord_toNat (hmax : length.toNat ≤ 32)
    (hlt : index.toNat * blockSize length.toNat < 2 ^ 32) :
    (offsetWord index length).toNat = index.toNat * blockSize length.toNat := by
  have hthirtyTwo : (32 : UInt64).toNat = 32 := rfl
  have hle : length.toUInt64 ≤ 32 := by
    rw [UInt64.le_iff_toNat_le, UInt8.toNat_toUInt64, hthirtyTwo]
    exact hmax
  have hamount : (32 - length.toUInt64).toNat = 32 - length.toNat := by
    rw [UInt64.toNat_sub_of_le _ _ hle, UInt8.toNat_toUInt64, hthirtyTwo]
  rw [offsetWord, toNat_shiftLeft_of_lt, hamount, blockSize]
  · omega
  · rw [hamount]
    exact hlt.trans (by decide)

/-- The sum and the narrower word have room for the network address of a subnet. -/
theorem IsBlock.networkWord_toNat (hbase : base.IsBlock)
    (hle : base.prefixLength.toNat ≤ length.toNat) (hmax : length.toNat ≤ 32)
    (hindex : index.toNat < 2 ^ (length.toNat - base.prefixLength.toNat)) :
    (offsetWord index length).toNat = index.toNat * blockSize length.toNat ∧
      (base.networkWord index length).toNat =
        base.network.toNat + index.toNat * blockSize length.toNat := by
  have hlt := hbase.subnet_lt hle hmax hindex
  have hoffset := offsetWord_toNat hmax ((Nat.le_add_left _ _).trans_lt hlt)
  refine ⟨hoffset, ?_⟩
  rw [networkWord, UInt64.toNat_add, UInt32.toNat_toUInt64, hoffset]
  exact Nat.mod_eq_of_lt (hlt.trans (by decide))

end Words

/-! ## Parts of a block -/

section Parts

variable {base part range : AddressRange} {length : UInt8} {index : Nat}

theorem IsPart.isBlock (h : part.IsPart base length) (hmax : length.toNat ≤ 32) :
    part.IsBlock := by
  obtain ⟨rfl, hhost, -⟩ := h
  exact (hostBits_eq_zero_iff hmax).1 hhost

theorem subnet_isPart (hbase : base.IsBlock) (hsubnet : base.subnet index length = .ok range) :
    range.IsPart base length := by
  obtain ⟨-, hmax, -, rfl, -⟩ := hbase.subnet_eq_ok_iff.1 hsubnet
  constructor
  · rfl
  · exact (hostBits_eq_zero_iff hmax).2 (subnet_isBlock hbase hsubnet)
  · intro address haddress
    exact subnet_covers hbase hsubnet haddress

/-- Every block of the right length inside a block is one of its subnets. -/
theorem IsPart.exists_subnet (h : part.IsPart base length) (hbase : base.IsBlock)
    (hle : base.prefixLength.toNat ≤ length.toNat) (hmax : length.toNat ≤ 32) :
    ∃ index, base.subnet index length = .ok part := by
  have hpart := h.isBlock hmax
  obtain ⟨hfirst, hlast⟩ := hbase.covers_iff.1 (h.covered part.network rfl)
  have hsize := blockSize_eq_mul hle hmax
  have hbaseDvd : blockSize length.toNat ∣ base.network.toNat :=
    (Dvd.intro _ hsize.symm).trans hbase.dvd
  have hpartDvd : blockSize length.toNat ∣ part.network.toNat := h.prefix_eq ▸ hpart.dvd
  -- The distance of the two networks is a multiple of the size of the part.
  obtain ⟨index, hindex⟩ := Nat.dvd_sub hpartDvd hbaseDvd
  refine ⟨index, hbase.subnet_eq_ok_iff.2 ⟨hle, hmax, ?_, h.prefix_eq, ?_⟩⟩
  · have hinside : blockSize length.toNat * index <
        blockSize length.toNat * 2 ^ (length.toNat - base.prefixLength.toNat) := by
      rw [← hsize]
      omega
    exact Nat.lt_of_mul_lt_mul_left hinside
  · rw [Nat.mul_comm]
    omega

/-- The block of a prefix length around an address. -/
def blockOf (address : UInt32) (length : UInt8) : AddressRange :=
  { network := address &&& mask length, prefixLength := length }

theorem blockOf_covers_iff (hmax : length.toNat ≤ 32) {address other : UInt32} :
    (blockOf address length).Covers other ↔
      other.toNat / blockSize length.toNat = address.toNat / blockSize length.toNat := by
  have hnetwork : (blockOf address length).network.toNat =
      address.toNat / blockSize length.toNat * blockSize length.toNat := land_mask hmax address
  have hlength : (blockOf address length).prefixLength.toNat ≤ 32 := hmax
  rw [covers_iff hlength, hnetwork]
  simp only [blockOf, Nat.mul_div_cancel _ (blockSize_pos _)]

/-- The smaller block around an address of a block lies inside it. -/
theorem blockOf_isPart (hbase : base.IsBlock) (hle : base.prefixLength.toNat ≤ length.toNat)
    (hmax : length.toNat ≤ 32) {address : UInt32} (haddress : base.Covers address) :
    (blockOf address length).IsPart base length := by
  have hlength : (blockOf address length).prefixLength.toNat ≤ 32 := hmax
  constructor
  · rfl
  · apply (hostBits_eq_zero_iff hlength).2
    exact ⟨hmax, Dvd.intro_left _ (land_mask hmax address).symm⟩
  · intro other hother
    have hsame := (blockOf_covers_iff hmax).1 hother
    rw [covers_iff hbase.prefix_le] at haddress ⊢
    rw [← haddress, blockSize_eq_mul hle hmax]
    -- A larger block is found from the smaller ones that it consists of.
    calc other.toNat / (blockSize length.toNat * _)
        = other.toNat / blockSize length.toNat / _ := (Nat.div_div_eq_div_mul ..).symm
      _ = address.toNat / blockSize length.toNat / _ := by rw [hsame]
      _ = address.toNat / (blockSize length.toNat * _) := Nat.div_div_eq_div_mul ..

/-- Every address of a block lies in exactly one of its subnets. -/
theorem existsUnique_subnet (hbase : base.IsBlock)
    (hle : base.prefixLength.toNat ≤ length.toNat) (hmax : length.toNat ≤ 32)
    {address : UInt32} (haddress : base.Covers address) :
    ∃! index, ∃ range, base.subnet index length = .ok range ∧ range.Covers address := by
  obtain ⟨index, hsubnet⟩ := (blockOf_isPart hbase hle hmax haddress).exists_subnet hbase hle hmax
  refine ⟨index, ⟨_, hsubnet, (blockOf_covers_iff hmax).2 rfl⟩, ?_⟩
  rintro other ⟨range, hother, hcovers⟩
  by_contra hne
  exact subnet_disjoint hbase hother hsubnet hne address
    ⟨hcovers, (blockOf_covers_iff hmax).2 rfl⟩

/-- A block has as many parts of a length as it has subnets. -/
theorem ncard_isPart {count : Nat} (hbase : base.IsBlock)
    (hcount : base.subnetCount length = .ok count) :
    {part | IsPart part base length}.ncard = count := by
  obtain ⟨hle, hmax, hvalue⟩ := subnetCount_eq_ok_iff.1 hcount
  choose subnet hsubnet using fun index (hindex : index < count) =>
    exists_subnet hcount hindex
  apply Set.ncard_eq_of_bijective subnet
  · intro part hpart
    obtain ⟨index, hindex⟩ := IsPart.exists_subnet hpart hbase hle hmax
    obtain ⟨-, -, hlt, -⟩ := hbase.subnet_eq_ok_iff.1 hindex
    have hbelow : index < count := by rwa [hvalue]
    exact ⟨index, hbelow, Except.ok.inj ((hsubnet index hbelow).symm.trans hindex)⟩
  · intro index hindex
    exact subnet_isPart hbase (hsubnet index hindex)
  · intro i j hi hj heq
    by_contra hne
    have hshared : (subnet j hj).Covers (subnet i hi).network := by
      rw [← heq]
      rfl
    exact subnet_disjoint hbase (hsubnet i hi) (hsubnet j hj) hne _ ⟨rfl, hshared⟩

/-- A subnet of a subnet is a subnet, with both indices joined into one. -/
theorem subnet_subnet {inner : AddressRange} {longer : UInt8} {j : Nat} (hbase : base.IsBlock)
    (hsubnet : base.subnet index length = .ok range)
    (hinner : range.subnet j longer = .ok inner) :
    base.subnet (index * 2 ^ (longer.toNat - length.toNat) + j) longer = .ok inner := by
  have hrange := subnet_isBlock hbase hsubnet
  obtain ⟨hle, -, hindex, rfl, hnetwork⟩ := hbase.subnet_eq_ok_iff.1 hsubnet
  obtain ⟨hle', hmax, hj, hlong, hnetwork'⟩ := hrange.subnet_eq_ok_iff.1 hinner
  refine hbase.subnet_eq_ok_iff.2 ⟨hle.trans hle', hmax, ?_, hlong, ?_⟩
  · have hpower : 2 ^ (longer.toNat - base.prefixLength.toNat) =
        2 ^ (range.prefixLength.toNat - base.prefixLength.toNat) *
          2 ^ (longer.toNat - range.prefixLength.toNat) := by
      rw [← Nat.pow_add]
      congr 1
      omega
    rw [hpower]
    calc index * 2 ^ (longer.toNat - range.prefixLength.toNat) + j
        < index * 2 ^ (longer.toNat - range.prefixLength.toNat) +
            2 ^ (longer.toNat - range.prefixLength.toNat) := Nat.add_lt_add_left hj _
      _ = (index + 1) * 2 ^ (longer.toNat - range.prefixLength.toNat) :=
          (Nat.succ_mul _ _).symm
      _ ≤ _ := Nat.mul_le_mul_right _ hindex
  · rw [hnetwork', hnetwork, blockSize_eq_mul hle' hmax, Nat.add_mul, Nat.add_assoc,
      Nat.mul_comm (blockSize longer.toNat), Nat.mul_assoc]

end Parts

/-! ## The whole division -/

/-- The subnets of a length divide a block.  There are subnets of every length from that of the
block to 32, as many as there are blocks of the length inside, and exactly for the indices below
their number.  They are such blocks, every address of the base lies in exactly one of them, and
subnets of subnets are subnets of the base.  No word in which a subnet is computed loses a bit. -/
theorem subnets_divide {base : AddressRange} (hlong : base.prefixLength ≤ 32)
    (hhost : base.network &&& ~~~mask base.prefixLength = 0) (length : UInt8) :
    ((∃ count, base.subnetCount length = .ok count) ↔
      base.prefixLength ≤ length ∧ length ≤ 32) ∧
    (∀ index : UInt64, (∃ range, base.subnet index.toNat length = .ok range) ↔
      ∃ count, base.subnetCount length = .ok count ∧ index.toNat < count) ∧
    (∀ count, base.subnetCount length = .ok count →
      count = {part | IsPart part base length}.ncard ∧ (base.countWord length).toNat = count ∧
      ∀ address, base.Covers address →
        ∃! index, ∃ range, base.subnet index length = .ok range ∧ range.Covers address) ∧
    ∀ (index : UInt64) range, base.subnet index.toNat length = .ok range →
      range.IsPart base length ∧
      (offsetWord index length).toNat = index.toNat * 2 ^ (32 - length.toNat) ∧
      (base.networkWord index length).toNat =
        base.network.toNat + (offsetWord index length).toNat ∧
      range.network = (base.networkWord index length).toUInt32 ∧
      range.network.toUInt64 = base.networkWord index length ∧
      ∀ j longer inner, range.subnet j longer = .ok inner →
        base.subnet (index.toNat * 2 ^ (longer.toNat - length.toNat) + j) longer = .ok inner := by
  have hbase : base.IsBlock :=
    (hostBits_eq_zero_iff (UInt8.le_iff_toNat_le.1 hlong)).1 hhost
  refine ⟨?_, fun index => ⟨?_, ?_⟩, fun count hcount => ?_, fun index range hsubnet => ?_⟩
  · simp only [subnetCount_eq_ok_iff, UInt8.le_iff_toNat_le]
    exact ⟨fun ⟨_, hle, hmax, _⟩ => ⟨hle, hmax⟩, fun ⟨hle, hmax⟩ => ⟨_, hle, hmax, rfl⟩⟩
  · rintro ⟨range, hsubnet⟩
    obtain ⟨hle, hmax, hindex, -⟩ := hbase.subnet_eq_ok_iff.1 hsubnet
    exact ⟨_, subnetCount_eq_ok_iff.2 ⟨hle, hmax, rfl⟩, hindex⟩
  · rintro ⟨count, hcount, hindex⟩
    exact exists_subnet hcount hindex
  · obtain ⟨hle, hmax, hvalue⟩ := subnetCount_eq_ok_iff.1 hcount
    exact ⟨(ncard_isPart hbase hcount).symm, (countWord_toNat hle hmax).trans hvalue.symm,
      fun _ => existsUnique_subnet hbase hle hmax⟩
  · obtain ⟨hle, hmax, hindex, -, hnetwork⟩ := hbase.subnet_eq_ok_iff.1 hsubnet
    obtain ⟨hoffset, hsum⟩ := hbase.networkWord_toNat hle hmax hindex
    have hword : range.network.toUInt64 = base.networkWord index length := by
      rw [← UInt64.toNat_inj, UInt32.toNat_toUInt64, hsum, hnetwork]
    refine ⟨subnet_isPart hbase hsubnet, hoffset, hsum.trans (by rw [hoffset]), ?_, hword,
      fun _ _ _ => subnet_subnet hbase hsubnet⟩
    rw [← hword, UInt32.toUInt32_toUInt64]

/-- All addresses, cut into single ones: the last of the `2 ^ 32` subnets, reached through the last
subnet of length 8. -/
theorem subnets_divide_last_address :
    let all : AddressRange := ⟨0, 0⟩
    let upper : AddressRange := ⟨0xFF000000, 8⟩
    let last : AddressRange := ⟨0xFFFFFFFF, 32⟩
    all.prefixLength ≤ 32 ∧ all.network &&& ~~~mask all.prefixLength = 0 ∧
      all.subnet (255 : UInt64).toNat 8 = .ok upper ∧
      upper.subnet (2 ^ 24 - 1) 32 = .ok last ∧
      all.subnet ((255 : UInt64).toNat * 2 ^ 24 + (2 ^ 24 - 1)) 32 = .ok last := by
  intro all upper last
  have hlong : all.prefixLength ≤ 32 := by decide
  have hhost : all.network &&& ~~~mask all.prefixLength = 0 := by decide
  have hupper : all.subnet (255 : UInt64).toNat 8 = .ok upper := by decide
  have hlast : upper.subnet (2 ^ 24 - 1) 32 = .ok last := by decide
  have hdivided := (subnets_divide hlong hhost 8).2.2.2 255 upper hupper
  exact ⟨hlong, hhost, hupper, hlast, hdivided.2.2.2.2.2 _ 32 last hlast⟩

end NodeFleet.AddressRange
