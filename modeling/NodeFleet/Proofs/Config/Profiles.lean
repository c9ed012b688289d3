import NodeFleet.Fleet
import NodeFleet.Proofs.AddressRange.Text
import NodeFleet.Proofs.Config.Options

/-!
# The profiles of a valid configuration

Validation builds the profile of the first agent only, and for the others it goes by the
number of subnets.  That is enough: what a profile is built from is the same for all
agents, except for the subnet, and a subnet below the number of them is a block, whose
text the builder reads back as it is (`profileFor_eq_ok_iff`).
-/

namespace NodeFleet

/-! ## What can go wrong -/

theorem readRange_eq_ok_iff {text : String} {range : AddressRange} :
    readRange text = .ok range ↔ AddressRange.read text = .ok range := by
  unfold readRange
  cases AddressRange.read text with
  | ok found => simp
  | error fault => simp

theorem Profile.build_eq_ok_iff {plan : Plan} {profile : Profile} :
    build plan = .ok profile ↔
      plan.cpuMillis ≠ 0 ∧ plan.memoryBytes ≠ 0 ∧ plan.maxPods ≠ 0 ∧
        ∃ text range, plan.podRange = some text ∧ readRange text = .ok range ∧
          profile = ⟨plan.cpuMillis, plan.memoryBytes, plan.gpuCount, plan.ephemeralBytes,
            plan.maxPods, range⟩ := by
  unfold build
  split_ifs with hcpu hmemory hpods
  · simp [hcpu]
  · simp [hmemory]
  · simp [hpods]
  · cases hrange : plan.podRange with
    | none => simp
    | some text =>
        cases hread : readRange text with
        | error error => simp [hread]
        | ok range => simp [hcpu, hmemory, hpods, hread, eq_comm]

/-- A list of options that are all there. -/
theorem mapM_eq_some_iff {α β : Type} {g : α → Option β} {members : List α} {results : List β} :
    members.mapM g = some results ↔ members.map g = results.map some := by
  induction members generalizing results with
  | nil => cases results <;> simp
  | cons a rest ih =>
      rw [List.mapM_cons, List.map_cons]
      constructor
      · intro h
        obtain ⟨b, hfirst, h⟩ := Option.bind_eq_some_iff.1 h
        obtain ⟨others, hrest, h⟩ := Option.bind_eq_some_iff.1 h
        obtain rfl : b :: others = results := Option.some.inj h
        rw [List.map_cons, hfirst, ih.1 hrest]
      · intro h
        cases results with
        | nil => exact nomatch h
        | cons b others =>
            obtain ⟨hfirst, hrest⟩ := List.cons.inj h
            rw [hfirst, ih.2 hrest]
            rfl

/-- A list is mapped as a whole if each member is. -/
theorem mapM_eq_ok {ε α β : Type} {f : α → Except ε β} {members : List α}
    (h : ∀ a ∈ members, ∃ b, f a = .ok b) :
    ∃ results, members.mapM f = .ok results ∧ results.map .ok = members.map f := by
  induction members with
  | nil => exact ⟨[], rfl, rfl⟩
  | cons a rest ih =>
      obtain ⟨⟨b, hb⟩, hrest⟩ := List.forall_mem_cons.1 h
      obtain ⟨results, hresults, hmap⟩ := ih hrest
      refine ⟨b :: results, ?_, ?_⟩
      · rw [List.mapM_cons, hb, hresults]
        rfl
      · rw [List.map_cons, List.map_cons, hmap, hb]

namespace FleetConfig

variable {c : FleetConfig}

/-- The quantities of every agent. -/
def quantities (c : FleetConfig) : NodeResources :=
  ⟨c.cpuMillis, c.memoryBytes, c.gpuCount, c.ephemeralBytes, c.maxPods⟩

theorem ofProfile_eq_ok_iff {α : Type} {result : Except ProfileError α} {a : α} :
    ofProfile result = .ok a ↔ result = .ok a := by
  cases result <;> simp [ofProfile]

theorem ofSubnet_eq_ok_iff {α : Type} {result : Except SubnetFault α} {a : α} :
    ofSubnet result = .ok a ↔ result = .ok a := by
  cases result <;> simp [ofSubnet]

theorem bind_eq_ok_iff {α β : Type} {x : Except ConfigError α} {f : α → Except ConfigError β}
    {b : β} : (x >>= f) = .ok b ↔ ∃ a, x = .ok a ∧ f a = .ok b := by
  cases x <;> simp [bind, Except.bind]

/-- An agent has a profile exactly if no quantity is missing and the base range has its subnet.  The
profile has those quantities and the subnet, which survives being written and read. -/
theorem profileFor_eq_ok_iff {index : Nat} {profile : Profile} :
    c.profileFor index = .ok profile ↔
      c.cpuMillis ≠ 0 ∧ c.memoryBytes ≠ 0 ∧ c.maxPods ≠ 0 ∧
        ∃ base range, readRange c.addressBase = .ok base ∧
          base.subnet index c.addressPrefixLength = .ok range ∧
          profile =
            ⟨c.cpuMillis, c.memoryBytes, c.gpuCount, c.ephemeralBytes, c.maxPods, range⟩ := by
  have hread {base range : AddressRange} (hbase : readRange c.addressBase = .ok base)
      (hsubnet : base.subnet index c.addressPrefixLength = .ok range) :
      readRange range.text = .ok range := by
    have hblock := AddressRange.isBlock_of_read (readRange_eq_ok_iff.1 hbase)
    exact readRange_eq_ok_iff.2 (AddressRange.subnet_isBlock hblock hsubnet).read_text
  simp only [profileFor, bind_eq_ok_iff, ofProfile_eq_ok_iff, ofSubnet_eq_ok_iff,
    Profile.build_eq_ok_iff, Option.some.injEq]
  constructor
  · rintro ⟨base, hbase, range, hsubnet, hcpu, hmemory, hpods, text, found, rfl, hfound, rfl⟩
    obtain rfl : range = found := Except.ok.inj ((hread hbase hsubnet).symm.trans hfound)
    exact ⟨hcpu, hmemory, hpods, base, range, hbase, hsubnet, rfl⟩
  · rintro ⟨hcpu, hmemory, hpods, base, range, hbase, hsubnet, rfl⟩
    exact ⟨base, hbase, range, hsubnet, hcpu, hmemory, hpods, _, range, rfl,
      hread hbase hsubnet, rfl⟩

/-- What validation checks of the addresses, and of all quantities with the first profile. -/
theorem validateAddresses_eq_ok (h : c.validateAddresses = .ok ()) :
    ∃ base available, readRange c.addressBase = .ok base ∧
      base.subnetCount c.addressPrefixLength = .ok available ∧ c.fleetSize ≤ available ∧
      ∃ first, c.profileFor 0 = .ok first := by
  simp only [validateAddresses, bind_eq_ok_iff, ofProfile_eq_ok_iff, ofSubnet_eq_ok_iff] at h
  obtain ⟨base, hbase, available, hcount, h⟩ := h
  split_ifs at h with hsmall
  · exact nomatch h
  · obtain ⟨first, hfirst, -⟩ := bind_eq_ok_iff.1 h
    exact ⟨base, available, hbase, hcount, Nat.not_lt.1 hsmall, first, hfirst⟩

theorem agentName_injective (c : FleetConfig) : Function.Injective c.agentName := by
  intro i j h
  exact Text.Numeral.text_injective ((String.append_right_inj _).1 h)

/-- Every agent of a valid configuration has a profile: its quantities are the configured ones, and
its range is its own subnet of the base range. -/
theorem exists_profileFor (h : c.validate = .ok ()) :
    ∃ base : AddressRange, readRange c.addressBase = .ok base ∧ base.IsBlock ∧
      ∀ index < c.fleetSize, ∃ range,
        base.subnet index c.addressPrefixLength = .ok range ∧
          c.profileFor index = .ok
            ⟨c.cpuMillis, c.memoryBytes, c.gpuCount, c.ephemeralBytes, c.maxPods, range⟩ := by
  obtain ⟨base, available, hbase, hcount, hsize, first, hfirst⟩ :=
    validateAddresses_eq_ok (validateAddresses_of_validate h)
  have hblock := AddressRange.isBlock_of_read (readRange_eq_ok_iff.1 hbase)
  obtain ⟨hcpu, hmemory, hpods, -⟩ := profileFor_eq_ok_iff.1 hfirst
  refine ⟨base, hbase, hblock, fun index hindex => ?_⟩
  have hlt : index < available := Nat.lt_of_lt_of_le hindex hsize
  obtain ⟨range, hsubnet⟩ := AddressRange.exists_subnet hcount hlt
  exact ⟨range, hsubnet,
    profileFor_eq_ok_iff.2 ⟨hcpu, hmemory, hpods, base, range, hbase, hsubnet, rfl⟩⟩

/-- A valid configuration can be launched.  Every agent has a profile with exactly the configured
quantities, whose range is the subnet of its number and lies inside the base range; the ranges of
two agents share no address, and no two agents have one name.  Creating the fleet does not fail,
and gives each agent its profile. -/
theorem launches_of_validate (c : FleetConfig) (h : c.validate = .ok ()) :
    ∃ base : AddressRange, readRange c.addressBase = .ok base ∧
      (∀ index < c.fleetSize, ∃ profile, c.profileFor index = .ok profile ∧
        profile.capacity = c.quantities ∧ profile.allocatable = c.quantities ∧
        base.subnet index c.addressPrefixLength = .ok profile.podRange ∧
        ∀ address, profile.podRange.Covers address → base.Covers address) ∧
      (∀ i < c.fleetSize, ∀ j < c.fleetSize, i ≠ j → ∀ first second,
        c.profileFor i = .ok first → c.profileFor j = .ok second →
        ∀ address, ¬ (first.podRange.Covers address ∧ second.podRange.Covers address)) ∧
      Function.Injective c.agentName ∧
      ∀ site, ∃ fleet, Fleet.create c site = .ok fleet ∧
        fleet.profiles.map .ok = (List.range c.fleetSize).map c.profileFor := by
  obtain ⟨base, hbase, hblock, hprofiles⟩ := exists_profileFor h
  refine ⟨base, hbase, ?_, ?_, c.agentName_injective, ?_⟩
  · intro index hindex
    obtain ⟨range, hsubnet, hprofile⟩ := hprofiles index hindex
    exact ⟨_, hprofile, rfl, rfl, hsubnet, fun address hin =>
      AddressRange.subnet_covers hblock hsubnet hin⟩
  · intro i hi j hj hne first second hfirst hsecond address
    obtain ⟨range, hsubnet, hprofile⟩ := hprofiles i hi
    obtain ⟨other, hother, hprofile'⟩ := hprofiles j hj
    obtain rfl := Except.ok.inj (hprofile.symm.trans hfirst)
    obtain rfl := Except.ok.inj (hprofile'.symm.trans hsecond)
    exact AddressRange.subnet_disjoint hblock hsubnet hother hne address
  · intro site
    have hall : ∀ index ∈ List.range c.fleetSize, ∃ profile, c.profileFor index = .ok profile := by
      intro index hmem
      obtain ⟨range, -, hprofile⟩ := hprofiles index (List.mem_range.1 hmem)
      exact ⟨_, hprofile⟩
    obtain ⟨profiles, hresult, hmap⟩ := mapM_eq_ok hall
    refine ⟨{ config := c, profiles, cohort := .create site, holdsLauncher := false }, ?_, hmap⟩
    simp only [Fleet.create, h, hresult]
    rfl

/-- The default options, for two agents. -/
theorem launches_two_agents :
    let c : FleetConfig := { fleetSize := 2 }
    c.validate = .ok () ∧
      ∃ first second, c.profileFor 0 = .ok first ∧ c.profileFor 1 = .ok second ∧
        ∀ address, ¬ (first.podRange.Covers address ∧ second.podRange.Covers address) := by
  intro c
  have hvalid : c.validate = .ok () := validate_eq_ok (by decide +kernel)
  obtain ⟨base, -, hprofiles, hdisjoint, -⟩ := launches_of_validate c hvalid
  obtain ⟨first, hfirst, -⟩ := hprofiles 0 (by decide)
  obtain ⟨second, hsecond, -⟩ := hprofiles 1 (by decide)
  exact ⟨hvalid, first, second, hfirst, hsecond,
    hdisjoint 0 (by decide) 1 (by decide) (by decide) first second hfirst hsecond⟩

end FleetConfig

end NodeFleet
