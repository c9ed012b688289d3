import NodeFleet.Proofs.Fleet.Starts

/-!
# The offsets of a launch

An agent's offset is its number times the stagger, and what is drawn for it below the jitter.
The number is cut off at a word of 32 bits, the product at the longest duration, and the sum may
pass that; a valid configuration comes to none of these.  Its intervals are thirty days at most,
and no address range has more than `2 ^ 32` subnets, so `fleetSize_le` bounds the numbers.

The schedule is the offsets in order, those of smaller numbers first where they are equal.
-/

namespace NodeFleet

/-! ## The bounds of a valid configuration -/

namespace FleetConfig

variable {c : FleetConfig} {draw : Nat → Duration}

/-- Every agent has a subnet of its own, and there are not more of them than addresses. -/
theorem fleetSize_le (h : c.validate = .ok ()) : c.fleetSize ≤ 2 ^ 32 := by
  obtain ⟨base, available, -, hcount, hsize, -⟩ :=
    validateAddresses_eq_ok (validateAddresses_of_validate h)
  obtain ⟨-, hmax, rfl⟩ := AddressRange.subnetCount_eq_ok_iff.1 hcount
  calc c.fleetSize ≤ 2 ^ (c.addressPrefixLength.toNat - base.prefixLength.toNat) := hsize
    _ ≤ 2 ^ 32 := Nat.pow_le_pow_right (by decide) (by omega)

theorem min_index (h : c.validate = .ok ()) {index : Nat} (hindex : index < c.fleetSize) :
    min index (2 ^ 32 - 1) = index := by
  have hsize := fleetSize_le h
  omega

/-- Extra delays are drawn below the jitter, and not below a shorter time. -/
theorem jitterSpan_eq (h : c.validate = .ok ()) : jitterSpan c.startJitter = c.startJitter := by
  have hbound : maxInterval ≤ 2 ^ 64 - 1 := by decide
  exact Nat.min_eq_left ((startJitter_le h).trans hbound)

/-- What is drawn for an agent, if anything is. -/
def extra (c : FleetConfig) (draw : Nat → Duration) (index : Nat) : Duration :=
  if jitterSpan c.startJitter = 0 then 0 else draw index

/-- The largest offset does not pass the bound of durations. -/
theorem scaleSaturating_index (h : c.validate = .ok ()) {index : Nat}
    (hindex : index < c.fleetSize) :
    Duration.scaleSaturating c.startStagger index = index * c.startStagger ∧
      index * c.startStagger + c.startJitter ≤ Duration.max := by
  have hsize := fleetSize_le h
  -- The largest number and the longest intervals that an option may give still fit.
  have hsum : index * c.startStagger + c.startJitter ≤ Duration.max := calc
    _ ≤ (2 ^ 32 - 1) * maxInterval + maxInterval :=
      Nat.add_le_add (Nat.mul_le_mul (by omega) (startStagger_le h)) (startJitter_le h)
    _ ≤ Duration.max := by decide
  refine ⟨?_, hsum⟩
  rw [Duration.scaleSaturating, Nat.mul_comm]
  exact Nat.min_eq_left ((Nat.le_add_right _ _).trans hsum)

/-! ## The offsets themselves -/

/-- Whether extra delays are drawn as they are to be: below the number from which they are drawn. -/
def DrawsBelow (c : FleetConfig) (draw : Nat → Duration) : Prop :=
  ∀ index, jitterSpan c.startJitter ≠ 0 → draw index < jitterSpan c.startJitter

theorem launchOffset?_eq (h : c.validate = .ok ()) (hdraw : c.DrawsBelow draw) {index : Nat}
    (hindex : index < c.fleetSize) :
    launchOffset? c.startStagger index (c.extra draw index) =
      some (index * c.startStagger + c.extra draw index) := by
  obtain ⟨hscale, hsum⟩ := scaleSaturating_index h hindex
  have hextra : c.extra draw index ≤ c.startJitter := by
    rw [extra]
    split_ifs with hzero
    · exact Nat.zero_le _
    · exact (hdraw index hzero).le.trans_eq (jitterSpan_eq h)
  rw [launchOffset?, min_index h hindex, hscale]
  exact if_pos ((Nat.add_le_add_left hextra _).trans hsum)

theorem launchOffsets?_eq (h : c.validate = .ok ()) (hdraw : c.DrawsBelow draw) :
    launchOffsets? c.fleetSize c.startStagger c.startJitter draw =
      some ((List.range c.fleetSize).map fun index =>
        index * c.startStagger + c.extra draw index) := by
  have hall : ∀ index ∈ List.range c.fleetSize,
      launchOffset? c.startStagger index (c.extra draw index) =
        some (index * c.startStagger + c.extra draw index) :=
    fun index hmem => launchOffset?_eq h hdraw (List.mem_range.1 hmem)
  rw [launchOffsets?, mapM_eq_some_iff, List.map_map]
  exact List.map_congr_left hall

/-- The offsets of agents that are an exact stagger apart, but for the jitter. -/
structure IsStaggered (c : FleetConfig) (offsets : List Duration) : Prop where
  length_eq : offsets.length = c.fleetSize
  /-- No number is cut off. -/
  min_eq : ∀ index < c.fleetSize, min index (2 ^ 32 - 1) = index
  /-- No product stops at the longest duration. -/
  scale_eq : ∀ index < c.fleetSize,
    Duration.scaleSaturating c.startStagger index = index * c.startStagger
  exact_of_zero : c.startJitter = 0 → ∀ index < c.fleetSize,
    offsets[index]? = some (index * c.startStagger)
  within_of_ne_zero : c.startJitter ≠ 0 → ∀ index < c.fleetSize, ∃ offset,
    offsets[index]? = some offset ∧ index * c.startStagger ≤ offset ∧
      offset < index * c.startStagger + c.startJitter

/-- A valid configuration has an offset for each agent, and none is cut off or stopped. -/
theorem exists_isStaggered (h : c.validate = .ok ()) (hdraw : c.DrawsBelow draw) :
    ∃ offsets, launchOffsets? c.fleetSize c.startStagger c.startJitter draw = some offsets ∧
      c.IsStaggered offsets := by
  have hget {index : Nat} (hindex : index < c.fleetSize) :
      ((List.range c.fleetSize).map fun index =>
        index * c.startStagger + c.extra draw index)[index]? =
          some (index * c.startStagger + c.extra draw index) := by
    rw [List.getElem?_map, List.getElem?_range hindex]
    rfl
  refine ⟨_, launchOffsets?_eq h hdraw, ?_⟩
  refine
    { length_eq := by rw [List.length_map, List.length_range]
      min_eq := fun _ => min_index h
      scale_eq := fun _ hindex => (scaleSaturating_index h hindex).1
      exact_of_zero := ?_
      within_of_ne_zero := ?_ }
  · intro hzero index hindex
    rw [hget hindex, extra, if_pos ((jitterSpan_eq h).trans hzero), Nat.add_zero]
  · intro hjitter index hindex
    have hspan : jitterSpan c.startJitter ≠ 0 := (jitterSpan_eq h).trans_ne hjitter
    refine ⟨_, hget hindex, Nat.le_add_right _ _, ?_⟩
    rw [extra, if_neg hspan]
    exact Nat.add_lt_add_left ((hdraw index hspan).trans_eq (jitterSpan_eq h)) _

end FleetConfig

/-! ## The schedule -/

/-- The agents are launched in the order of their offsets, and of their numbers where offsets are
equal. -/
theorem pairwise_launchSchedule (offsets : List Duration) :
    (launchSchedule offsets).Pairwise fun a b => a.1 < b.1 ∨ a.1 = b.1 ∧ a.2 ≤ b.2 := by
  have hbefore (a b : Duration × Nat) :
      launchesBefore a b = true ↔ a.1 < b.1 ∨ a.1 = b.1 ∧ a.2 ≤ b.2 := by
    simp [launchesBefore]
  have htrans (a b c : Duration × Nat) (hab : launchesBefore a b = true)
      (hbc : launchesBefore b c = true) : launchesBefore a c = true := by
    rw [hbefore] at hab hbc ⊢
    lia
  have htotal (a b : Duration × Nat) : (launchesBefore a b || launchesBefore b a) = true := by
    rw [Bool.or_eq_true, hbefore, hbefore]
    lia
  exact (List.pairwise_mergeSort htrans htotal _).imp fun hab => (hbefore _ _).1 hab

theorem getElem?_of_mem_launchSchedule {offsets : List Duration} {offset : Duration} {index : Nat}
    (h : (offset, index) ∈ launchSchedule offsets) : offsets[index]? = some offset :=
  List.mem_zipIdx_iff_getElem?.1 ((List.mergeSort_perm _ _).mem_iff.1 h)

end NodeFleet
