import Mathlib.Data.List.Induction
import Mathlib.Data.Nat.Basic
import Mathlib.Order.Basic
import NodeFleet.Proofs.ControlPlane.History

/-!
# Fencing

A holder that was replaced must not act any more, and no lease version may be granted
twice.  The control plane stores one uid and one version for each name; that these two
suffice is shown here against the history of answers.

Three readings of a history speak of one name, each going back to its last removal:
`holder?` is the uid of the last successful registration, `grants` the versions that
registrations and renewals were answered with, and `renewals` the versions that successful
renewals carried.  `Agrees` ties them to the stored node: without a node they are empty,
and with one the uid is the holder's, no granted version is above the stored one, and
every renewed version is below it.

An event that does not concern a name leaves its three readings as they are, and an event
that only raises the version or replaces the status keeps the agreement too; both are
`Attested.skip`.  What remains are registrations, renewals and removals.
-/

namespace NodeFleet.ControlPlane

/-! ## Readings of a history -/

/-- The uid under which a name was last registered, unless its node was removed since. -/
def holder? (name : String) : History → Option String
  | [] => none
  | (.register caller _ _ _, .granted _) :: earlier =>
      if caller.name = name then some caller.uid else holder? name earlier
  | (.deregister caller _, .accepted) :: earlier =>
      if caller.name = name then none else holder? name earlier
  | (.removeNode other, _) :: earlier => if other = name then none else holder? name earlier
  | _ :: earlier => holder? name earlier

/-- The versions granted for a name since its node was last removed, the last first. -/
def grants (name : String) : History → List Nat
  | [] => []
  | (.register caller _ _ _, .granted version) :: earlier =>
      if caller.name = name then version :: grants name earlier else grants name earlier
  | (.renew caller _ _ _, .granted version) :: earlier =>
      if caller.name = name then version :: grants name earlier else grants name earlier
  | (.deregister caller _, .accepted) :: earlier =>
      if caller.name = name then [] else grants name earlier
  | (.removeNode other, _) :: earlier => if other = name then [] else grants name earlier
  | _ :: earlier => grants name earlier

/-- The versions that successful renewals for a name carried since its node was last removed, the
last first. -/
def renewals (name : String) : History → List Nat
  | [] => []
  | (.renew caller version _ _, .granted _) :: earlier =>
      if caller.name = name then version :: renewals name earlier else renewals name earlier
  | (.deregister caller _, .accepted) :: earlier =>
      if caller.name = name then [] else renewals name earlier
  | (.removeNode other, _) :: earlier => if other = name then [] else renewals name earlier
  | _ :: earlier => renewals name earlier

/-- An event and its answer say nothing about a name. -/
def IsSilent (name : String) (entry : Event × Answer) : Prop :=
  ∀ earlier, holder? name (entry :: earlier) = holder? name earlier ∧
    grants name (entry :: earlier) = grants name earlier ∧
    renewals name (entry :: earlier) = renewals name earlier

/-! ## The invariant -/

/-- A stored node is as the history says. -/
structure Attested (history : History) (name : String) (node : Node) : Prop where
  /-- The node is held by the last registered uid. -/
  holder : holder? name history = some node.uid
  /-- No granted version is above the stored one. -/
  granted_le : ∀ version ∈ grants name history, version ≤ node.leaseVersion
  /-- Granted versions rise. -/
  granted_rise : (grants name history).Pairwise (· > ·)
  /-- Renewed versions are below the stored one. -/
  renewed_lt : ∀ version ∈ renewals name history, version < node.leaseVersion
  /-- No version is renewed twice. -/
  renewed_once : (renewals name history).Nodup
  /-- Each event raises the version by one at most. -/
  version_le : node.leaseVersion ≤ history.length

/-- What is stored for a name, if anything, is as the history says. -/
def Agrees (history : History) (name : String) : Option Node → Prop
  | none => holder? name history = none ∧ grants name history = [] ∧ renewals name history = []
  | some node => Attested history name node

variable {history : History} {name : String} {node : Node} {entry : Event × Answer}

/-- The version may rise by one and the uid stays; the readings are not changed. -/
theorem Attested.skip {changed : Node} (h : Attested history name node)
    (hsilent : IsSilent name entry) (huid : changed.uid = node.uid)
    (hle : node.leaseVersion ≤ changed.leaseVersion)
    (hrise : changed.leaseVersion ≤ node.leaseVersion + 1) :
    Attested (entry :: history) name changed := by
  obtain ⟨hholder, hgrants, hrenewals⟩ := hsilent history
  constructor
  · rw [hholder, huid]
    exact h.holder
  · rw [hgrants]
    exact fun version hmem => (h.granted_le version hmem).trans hle
  · rw [hgrants]
    exact h.granted_rise
  · rw [hrenewals]
    exact fun version hmem => (h.renewed_lt version hmem).trans_le hle
  · rw [hrenewals]
    exact h.renewed_once
  · have := h.version_le
    simp only [List.length_cons]
    omega

theorem Agrees.skip {stored : Option Node} (h : Agrees history name stored)
    (hsilent : IsSilent name entry) : Agrees (entry :: history) name stored := by
  cases stored with
  | none =>
      obtain ⟨hholder, hgrants, hrenewals⟩ := hsilent history
      exact ⟨hholder.trans h.1, hgrants.trans h.2.1, hrenewals.trans h.2.2⟩
  | some node => exact Attested.skip h hsilent rfl le_rfl (Nat.le_succ _)

/-- A version above all that was granted can be granted. -/
theorem Agrees.grants_lt {stored : Option Node} (h : Agrees history name stored) :
    ∀ version ∈ grants name history, version < stored.elim 0 Node.leaseVersion + 1 := by
  cases stored with
  | none => simp [h.2.1]
  | some node => exact fun version hmem => Nat.lt_succ_of_le (h.granted_le version hmem)

theorem Agrees.version_le {stored : Option Node} (h : Agrees history name stored) :
    stored.elim 0 Node.leaseVersion ≤ history.length := by
  cases stored with
  | none => exact Nat.zero_le _
  | some node => exact Attested.version_le h

/-! ## One event -/

/-- A registration takes the node over, one version above all that was granted. -/
theorem Agrees.register {caller : Identity} {profile : Profile} {now : Instant}
    {wall : Timestamp} {stored : Option Node} (h : Agrees history caller.name stored)
    (huid : node.uid = caller.uid)
    (hversion : node.leaseVersion = stored.elim 0 Node.leaseVersion + 1) :
    Attested ((.register caller profile now wall, .granted node.leaseVersion) :: history)
      caller.name node := by
  have hgrants := h.grants_lt
  rw [← hversion] at hgrants
  have hbound := h.version_le
  constructor
  · simp [holder?, huid]
  · simp only [grants, if_true, List.mem_cons, forall_eq_or_imp]
    exact ⟨le_rfl, fun version hmem => (hgrants version hmem).le⟩
  · -- The new version is above all that were granted, whoever they were granted to.
    simp only [grants, if_true]
    refine List.pairwise_cons.2 ⟨hgrants, ?_⟩
    cases stored with
    | none => simp [h.2.1]
    | some _ => exact Attested.granted_rise h
  · simp only [renewals]
    cases stored with
    | none => simp [h.2.2]
    | some old =>
        intro version hmem
        rw [hversion]
        exact (Attested.renewed_lt h version hmem).trans (Nat.lt_succ_self _)
  · simp only [renewals]
    cases stored with
    | none => simp [h.2.2]
    | some _ => exact Attested.renewed_once h
  · rw [hversion, List.length_cons]
    exact Nat.succ_le_succ hbound

theorem Attested.renew {caller : Identity} {now : Instant} {wall : Timestamp} {changed : Node}
    (h : Attested history caller.name node) (huid : changed.uid = node.uid)
    (hversion : changed.leaseVersion = node.leaseVersion + 1) :
    Attested
      ((.renew caller node.leaseVersion now wall, .granted (node.leaseVersion + 1)) :: history)
      caller.name changed := by
  constructor
  · rw [huid]
    exact h.holder
  · simp only [grants, if_true, List.mem_cons, forall_eq_or_imp]
    refine ⟨hversion.ge, fun version hmem => ?_⟩
    have := h.granted_le version hmem
    omega
  · simp only [grants, if_true]
    refine List.pairwise_cons.2 ⟨fun version hmem => ?_, h.granted_rise⟩
    have := h.granted_le version hmem
    omega
  · simp only [renewals, if_true, List.mem_cons, forall_eq_or_imp]
    refine ⟨by omega, fun version hmem => ?_⟩
    have := h.renewed_lt version hmem
    omega
  · simp only [renewals, if_true]
    -- A version that was renewed before is below the stored one.
    refine List.nodup_cons.2 ⟨fun hmem => ?_, h.renewed_once⟩
    exact (h.renewed_lt _ hmem).false
  · have := h.version_le
    simp only [List.length_cons]
    omega

/-- A removal clears what the history says of a name. -/
theorem agrees_removed {caller : Identity} {now : Instant} :
    Agrees ((.deregister caller now, .accepted) :: history) caller.name none := by
  simp [Agrees, holder?, grants, renewals]

theorem agrees_removeNode {there : Bool} :
    Agrees ((.removeNode name, .found there) :: history) name none := by
  simp [Agrees, holder?, grants, renewals]

/-- Agreement on every name. -/
def Recorded.Attests (r : Recorded) : Prop :=
  ∀ name, Agrees r.history name (r.plane.nodes.find? name)

/-- What is left to show of a completed call: a refusal says nothing, a success says nothing
about other names and leaves them alone, and the caller's own name agrees after it. -/
theorem Recorded.Attests.call {α : Type} {r : Recorded} (h : r.Attests) {event : Event}
    (operation : Operation) (caller : Identity) (now : Instant) (effect : Effect α)
    (success : α → Answer)
    (hcall : r.plane.happen event =
      (.ofResult success (r.plane.complete operation caller now effect).1,
        (r.plane.complete operation caller now effect).2))
    (hrefused : ∀ error name, IsSilent name (event, .refused error))
    (hothers : ∀ result name, caller.name ≠ name → IsSilent name (event, success result))
    (heffect : ∀ result nodes, effect r.plane.nodes = .ok (result, nodes) →
      (∀ name, caller.name ≠ name → nodes.find? name = r.plane.nodes.find? name) ∧
        Agrees ((event, success result) :: r.history) caller.name (nodes.find? caller.name)) :
    (r.happen event).Attests := by
  intro name
  simp only [Recorded.happen, hcall]
  rcases complete_cases r.plane operation caller now effect with
    ⟨error, hresult, hnodes⟩ | ⟨result, nodes, hdone, hresult, hnodes⟩ <;>
    simp only [hresult, hnodes, Answer.ofResult]
  · exact (h name).skip (hrefused error name)
  · obtain ⟨hframe, hagrees⟩ := heffect result nodes hdone
    by_cases hname : caller.name = name
    · exact hname ▸ hagrees
    · rw [hframe name hname]
      exact (h name).skip (hothers result name hname)

theorem Recorded.Attests.of_find? {r : Recorded} (h : r.Attests)
    (hfind : r.plane.nodes.find? name = some node) : Attested r.history name node := by
  have hname := h name
  rwa [hfind] at hname

theorem Recorded.Attests.happen {r : Recorded} (h : r.Attests) (event : Event) :
    (r.happen event).Attests := by
  cases event with
  | register caller profile now wall =>
      refine h.call .register caller now (registering caller profile wall) .granted rfl
        (fun _ _ _ => ⟨rfl, rfl, rfl⟩)
        (fun _ _ hname _ => by simp [holder?, grants, renewals, hname]) ?_
      intro version nodes heffect
      obtain ⟨node, huid, hversion, heq⟩ := registering_eq caller profile wall r.plane.nodes
      obtain ⟨rfl, rfl⟩ :
          node.leaseVersion = version ∧ r.plane.nodes.insert caller.name node = nodes := by
        simpa [heq] using heffect
      refine ⟨fun name hname => by rw [Table.find?_insert, if_neg hname], ?_⟩
      rw [Table.find?_insert, if_pos rfl]
      exact (h caller.name).register huid hversion
  | renew caller version now wall =>
      refine h.call .renewLease caller now (renewing caller version wall) .granted rfl
        (fun _ _ _ => ⟨rfl, rfl, rfl⟩)
        (fun _ _ hname _ => by simp [holder?, grants, renewals, hname]) ?_
      intro granted nodes heffect
      obtain ⟨node, hfind, -, rfl, rfl, rfl⟩ := renewing_eq_ok_iff.1 heffect
      refine ⟨fun name hname => by rw [Table.find?_insert, if_neg hname], ?_⟩
      rw [Table.find?_insert, if_pos rfl]
      exact (h.of_find? hfind).renew rfl rfl
  | publish caller snapshot now =>
      refine h.call .publishStatus caller now (publishing caller snapshot) (fun _ => .accepted) rfl
        (fun _ _ _ => ⟨rfl, rfl, rfl⟩) (fun _ _ _ _ => ⟨rfl, rfl, rfl⟩) ?_
      intro _ nodes heffect
      obtain ⟨node, hfind, -, rfl⟩ := publishing_eq_ok_iff.1 heffect
      refine ⟨fun name hname => by rw [Table.find?_insert, if_neg hname], ?_⟩
      rw [Table.find?_insert, if_pos rfl]
      exact (h.of_find? hfind).skip (fun _ => ⟨rfl, rfl, rfl⟩) rfl le_rfl (Nat.le_succ _)
  | deregister caller now =>
      refine h.call .deregister caller now (deregistering caller) (fun _ => .accepted) rfl
        (fun _ _ _ => ⟨rfl, rfl, rfl⟩)
        (fun _ _ hname _ => by simp [holder?, grants, renewals, hname]) ?_
      intro _ nodes heffect
      obtain ⟨node, -, -, rfl⟩ := deregistering_eq_ok_iff.1 heffect
      refine ⟨fun name hname => by rw [Table.find?_erase, if_neg hname], ?_⟩
      rw [Table.find?_erase, if_pos rfl]
      exact agrees_removed
  | supersede other =>
      -- The version rises without a grant, which only leaves a gap among the granted ones.
      intro name
      simp only [Recorded.happen, ControlPlane.happen, supersede, Table.find?_modify]
      split_ifs with hname
      · cases hfind : r.plane.nodes.find? name with
        | none =>
            have hname := h name
            rw [hfind] at hname
            exact hname.skip fun _ => ⟨rfl, rfl, rfl⟩
        | some node =>
            exact (h.of_find? hfind).skip (fun _ => ⟨rfl, rfl, rfl⟩) rfl (Nat.le_succ _) le_rfl
      · exact (h name).skip fun _ => ⟨rfl, rfl, rfl⟩
  | removeNode other =>
      intro name
      simp only [Recorded.happen, ControlPlane.happen, removeNode, Table.find?_erase]
      split_ifs with hname
      · exact hname ▸ agrees_removeNode
      · exact (h name).skip fun _ => by simp [holder?, grants, renewals, hname]
  | failNext operation count error => exact fun name => (h name).skip fun _ => ⟨rfl, rfl, rfl⟩
  | setLatency latency => exact fun name => (h name).skip fun _ => ⟨rfl, rfl, rfl⟩

/-! ## Runs -/

theorem run_attests (logCapacity : Nat) (events : List Event) :
    (run (empty logCapacity) events).Attests := by
  induction events using List.reverseRecOn with
  | nil => exact fun _ => ⟨rfl, rfl, rfl⟩
  | append_singleton events event ih =>
      rw [run_concat]
      exact ih.happen event

/-- The history knows the holder of every node. -/
theorem Recorded.Attests.holder?_eq {r : Recorded} (h : r.Attests) (name : String) :
    holder? name r.history = (r.plane.nodes.find? name).map Node.uid := by
  cases hfind : r.plane.nodes.find? name with
  | none =>
      have hname := h name
      rw [hfind] at hname
      exact hname.1
  | some node => exact (h.of_find? hfind).holder

/-- The readings of granted and renewed versions, whether or not there is a node. -/
theorem Recorded.Attests.versions {r : Recorded} (h : r.Attests) (name : String) :
    (grants name r.history).Pairwise (· > ·) ∧ (renewals name r.history).Nodup ∧
      ∀ version ∈ grants name r.history, version ≤ r.history.length := by
  cases hfind : r.plane.nodes.find? name with
  | none =>
      have hname := h name
      rw [hfind] at hname
      simp [hname.2.1, hname.2.2]
  | some node =>
      have hnode := h.of_find? hfind
      refine ⟨hnode.granted_rise, hnode.renewed_once, fun version hmem => ?_⟩
      exact (hnode.granted_le version hmem).trans hnode.version_le

/-- In every run from an unused control plane, a renewal, publication or deregistration that
meets no fault succeeds exactly if its caller's uid is that of the registration in force, and a
renewal only with the stored version, which it raises by one.  The versions granted for a name
rise strictly from one removal to the next, so none is granted twice and none is renewed twice;
they stay below the number of events, so words hold them for as long as words count the events. -/
theorem calls_fenced (logCapacity : Nat) (events : List Event) :
    let r := run (empty logCapacity) events
    (∀ caller version now wall granted,
      (r.plane.renew caller version now wall).1 = .ok granted ↔
        (takeFault .renewLease r.plane.faults).1 = none ∧
          holder? caller.name r.history = some caller.uid ∧
          (r.plane.nodes.find? caller.name).map Node.leaseVersion = some version ∧
          granted = version + 1) ∧
    (∀ caller snapshot now,
      (r.plane.publish caller snapshot now).1 = .ok () ↔
        (takeFault .publishStatus r.plane.faults).1 = none ∧
          holder? caller.name r.history = some caller.uid) ∧
    (∀ caller now,
      (r.plane.deregister caller now).1 = .ok () ↔
        (takeFault .deregister r.plane.faults).1 = none ∧
          holder? caller.name r.history = some caller.uid) ∧
    ∀ name, (grants name r.history).Pairwise (· > ·) ∧ (renewals name r.history).Nodup ∧
      ∀ version ∈ grants name r.history, version ≤ r.history.length := by
  have h := run_attests logCapacity events
  refine ⟨?_, ?_, ?_, h.versions⟩
  · intro caller version now wall granted
    rw [renew, complete_eq_ok_iff, h.holder?_eq]
    simp only [renewing_eq_ok_iff, Option.map_eq_some_iff]
    refine and_congr_right fun _ => ?_
    constructor
    · rintro ⟨_, node, hfind, huid, hversion, hgranted, -⟩
      exact ⟨⟨node, hfind, huid⟩, ⟨node, hfind, hversion⟩, hgranted⟩
    · rintro ⟨⟨node, hfind, huid⟩, ⟨found, hfound, hversion⟩, hgranted⟩
      obtain rfl : node = found := Option.some.inj (hfind.symm.trans hfound)
      exact ⟨_, node, hfind, huid, hversion, hgranted, rfl⟩
  · intro caller snapshot now
    rw [publish, complete_eq_ok_iff, h.holder?_eq]
    simp [publishing_eq_ok_iff]
  · intro caller now
    rw [deregister, complete_eq_ok_iff, h.holder?_eq]
    simp [deregistering_eq_ok_iff]

end NodeFleet.ControlPlane
