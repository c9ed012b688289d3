import NodeFleet.Proofs.ControlPlane.History

/-!
# What events leave alone

A call fails with a fault that was queued for it or because of its own effect, and it never
adds a fault (`complete_eq_error`, `mem_faults_of_complete`).  An event that is not about a
node leaves it as it is: calls under another name, calls of others than its holder unless
they register, and control of other nodes (`happen_find?`).
-/

namespace NodeFleet.ControlPlane

/-! ## Faults -/

/-- A fault that is found was queued for the operation, and no fault is added. -/
theorem takeFault_cases (operation : Operation) (faults : List (Operation × CallError)) :
    (∀ error, (takeFault operation faults).1 = some error → (operation, error) ∈ faults) ∧
      ∀ fault ∈ (takeFault operation faults).2, fault ∈ faults := by
  induction faults with
  | nil => exact ⟨nofun, nofun⟩
  | cons first rest ih =>
      obtain ⟨op, error⟩ := first
      simp only [takeFault]
      split_ifs with hop
      · subst hop
        refine ⟨?_, fun fault hmem => List.mem_cons_of_mem _ hmem⟩
        rintro _ ⟨rfl⟩
        exact List.mem_cons_self
      · refine ⟨fun found hfound => List.mem_cons_of_mem _ (ih.1 found hfound), ?_⟩
        rintro fault (_ | ⟨_, hmem⟩)
        · exact List.mem_cons_self
        · exact List.mem_cons_of_mem _ (ih.2 fault hmem)

section Complete

variable {α : Type} {p : ControlPlane} {operation : Operation} {caller : Identity}
  {now : Instant} {effect : Effect α}

theorem mem_faults_of_complete {fault : Operation × CallError}
    (h : fault ∈ (p.complete operation caller now effect).2.faults) : fault ∈ p.faults := by
  have hrest := (takeFault_cases operation p.faults).2
  unfold complete at h
  cases htake : takeFault operation p.faults with
  | mk found rest =>
      rw [htake] at h hrest
      cases found with
      | some error => exact hrest fault h
      | none =>
          dsimp only at h
          cases heffect : effect p.nodes with
          | error error => rw [heffect] at h; exact hrest fault h
          | ok done => rw [heffect] at h; exact hrest fault h

/-- A call fails with a queued fault or with the error of its effect. -/
theorem complete_eq_error {error : CallError}
    (h : (p.complete operation caller now effect).1 = .error error) :
    (operation, error) ∈ p.faults ∨ effect p.nodes = .error error := by
  have hqueued := (takeFault_cases operation p.faults).1
  unfold complete at h
  cases htake : takeFault operation p.faults with
  | mk found rest =>
      rw [htake] at h hqueued
      cases found with
      | some fault =>
          have hfault : fault = error := Except.error.inj h
          exact .inl (hqueued error (congrArg some hfault))
      | none =>
          dsimp only at h
          cases heffect : effect p.nodes with
          | error reason =>
              rw [heffect] at h
              exact .inr (congrArg Except.error (Except.error.inj h))
          | ok done =>
              rw [heffect] at h
              exact nomatch h

/-- A call that has its effect on other nodes only leaves a node as it is. -/
theorem find?_complete {name : String}
    (heffect : ∀ result nodes, effect p.nodes = .ok (result, nodes) →
      nodes.find? name = p.nodes.find? name) :
    (p.complete operation caller now effect).2.nodes.find? name = p.nodes.find? name := by
  rcases complete_cases p operation caller now effect with
    ⟨error, -, hnodes⟩ | ⟨result, nodes, hdone, -, hnodes⟩
  · rw [hnodes]
  · rw [hnodes, heffect result nodes hdone]

end Complete

/-! ## Nodes -/

/-- Whether an event leaves the node of a name, held under a uid, as it is. -/
def Spares (name uid : String) : Event → Prop
  | .register caller _ _ _ => caller.name ≠ name
  | .renew caller _ _ _ => caller.name = name → caller.uid ≠ uid
  | .publish caller _ _ => caller.name = name → caller.uid ≠ uid
  | .deregister caller _ => caller.name = name → caller.uid ≠ uid
  | .supersede other => other ≠ name
  | .removeNode other => other ≠ name
  | .failNext _ _ _ => True
  | .setLatency _ => True

theorem happen_register (p : ControlPlane) (caller : Identity) (profile : Profile) (now : Instant)
    (wall : Timestamp) :
    (p.happen (.register caller profile now wall)).2 =
      (p.complete .register caller now (registering caller profile wall)).2 := rfl

theorem happen_find? {p : ControlPlane} {name : String} {node : Node} {event : Event}
    (hfind : p.nodes.find? name = some node) (hspares : Spares name node.uid event) :
    (p.happen event).2.nodes.find? name = some node := by
  -- A caller who holds a node under the name is the holder of the node.
  have hothers {caller : Identity} {held : Node} (hheld : p.nodes.find? caller.name = some held)
      (huid : held.uid = caller.uid) (hstranger : caller.name = name → caller.uid ≠ node.uid) :
      caller.name ≠ name := by
    rintro rfl
    obtain rfl : held = node := Option.some.inj (hheld.symm.trans hfind)
    exact hstranger rfl huid.symm
  cases event with
  | register caller profile now wall =>
      rw [happen_register]
      refine (find?_complete fun version nodes heffect => ?_).trans hfind
      obtain ⟨registered, -, -, heq⟩ := registering_eq caller profile wall p.nodes
      rw [heq] at heffect
      cases heffect
      rw [Table.find?_insert, if_neg hspares]
  | renew caller version now wall =>
      refine (find?_complete fun granted nodes heffect => ?_).trans hfind
      obtain ⟨held, hheld, huid, -, -, rfl⟩ := renewing_eq_ok_iff.1 heffect
      rw [Table.find?_insert, if_neg (hothers hheld huid hspares)]
  | publish caller snapshot now =>
      refine (find?_complete fun _ nodes heffect => ?_).trans hfind
      obtain ⟨held, hheld, huid, rfl⟩ := publishing_eq_ok_iff.1 heffect
      rw [Table.find?_insert, if_neg (hothers hheld huid hspares)]
  | deregister caller now =>
      refine (find?_complete fun _ nodes heffect => ?_).trans hfind
      obtain ⟨held, hheld, huid, rfl⟩ := deregistering_eq_ok_iff.1 heffect
      rw [Table.find?_erase, if_neg (hothers hheld huid hspares)]
  | supersede other =>
      simp only [happen, supersede, Table.find?_modify, if_neg hspares]
      exact hfind
  | removeNode other =>
      simp only [happen, removeNode, Table.find?_erase, if_neg hspares]
      exact hfind
  | failNext operation count error => exact hfind
  | setLatency latency => exact hfind

/-- A name that is free stays free if nobody registers it. -/
theorem happen_find?_none {p : ControlPlane} {name : String} {event : Event}
    (hfree : p.nodes.find? name = none)
    (hspares : ∀ caller profile now wall, event = .register caller profile now wall →
      caller.name ≠ name) : (p.happen event).2.nodes.find? name = none := by
  -- A caller who holds a node has another name.
  have hothers {caller : Identity} {held : Node} (hheld : p.nodes.find? caller.name = some held) :
      caller.name ≠ name := by
    rintro rfl
    simp [hfree] at hheld
  cases event with
  | register caller profile now wall =>
      rw [happen_register]
      refine (find?_complete fun version nodes heffect => ?_).trans hfree
      obtain ⟨registered, -, -, heq⟩ := registering_eq caller profile wall p.nodes
      rw [heq] at heffect
      cases heffect
      rw [Table.find?_insert, if_neg (hspares caller profile now wall rfl)]
  | renew caller version now wall =>
      refine (find?_complete fun granted nodes heffect => ?_).trans hfree
      obtain ⟨held, hheld, -, -, -, rfl⟩ := renewing_eq_ok_iff.1 heffect
      rw [Table.find?_insert, if_neg (hothers hheld)]
  | publish caller snapshot now =>
      refine (find?_complete fun _ nodes heffect => ?_).trans hfree
      obtain ⟨held, hheld, -, rfl⟩ := publishing_eq_ok_iff.1 heffect
      rw [Table.find?_insert, if_neg (hothers hheld)]
  | deregister caller now =>
      refine (find?_complete fun _ nodes heffect => ?_).trans hfree
      obtain ⟨held, hheld, -, rfl⟩ := deregistering_eq_ok_iff.1 heffect
      rw [Table.find?_erase, if_neg (hothers hheld)]
  | supersede other =>
      simp only [happen, supersede, Table.find?_modify, hfree]
      split_ifs <;> rfl
  | removeNode other =>
      simp only [happen, removeNode, Table.find?_erase, hfree, ite_self]
  | failNext operation count error => exact hfree
  | setLatency latency => exact hfree

/-- A fault after an event was queued before, or the event queued it. -/
theorem mem_faults_of_happen {p : ControlPlane} {event : Event} {fault : Operation × CallError}
    (h : fault ∈ (p.happen event).2.faults) :
    fault ∈ p.faults ∨ ∃ operation count error,
      event = .failNext operation count error ∧ fault = (operation, error) := by
  cases event with
  | register caller profile now wall =>
      rw [happen_register] at h
      exact .inl (mem_faults_of_complete h)
  | renew caller version now wall => exact .inl (mem_faults_of_complete h)
  | publish caller snapshot now => exact .inl (mem_faults_of_complete h)
  | deregister caller now => exact .inl (mem_faults_of_complete h)
  | supersede other => exact .inl h
  | removeNode other => exact .inl h
  | failNext operation count error =>
      rcases List.mem_append.1 h with hbefore | hqueued
      · exact .inl hbefore
      · exact .inr ⟨operation, count, error, rfl, List.eq_of_mem_replicate hqueued⟩
  | setLatency latency => exact .inl h

end NodeFleet.ControlPlane
