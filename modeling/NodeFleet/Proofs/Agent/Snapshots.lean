import Mathlib.Data.List.Induction
import Mathlib.Order.Basic
import NodeFleet.Proofs.Agent.Lifecycle
import NodeFleet.Proofs.Agent.Turn
import NodeFleet.Proofs.Condition.Statuses
import NodeFleet.Proofs.Ledger.Generation
import NodeFleet.Proofs.StatusSync.Run

/-!
# The snapshots that an agent hands over

A snapshot is put together from the profile, from the conditions that the status loop
remembers and from the ledger, which changes meanwhile.  A new loop begins with every
identity, while the ledger stays.

Every effective change of the ledger raises its generation by one (`Ledger.Precedes`), so
over the whole life of an agent a generation belongs to one state of the ledger only.  What
a step does to the status loop is `SyncStep`: it takes a snapshot only when it wakes without
a publication in flight, and the snapshot is then that of the ledger as it stands.  So the
snapshots that are handed over describe the states of the ledger in the order in which it
went through them.
-/

namespace NodeFleet

/-! ## The status loop of an agent -/

/-- The status loop that runs in a stage. -/
def Stage.syncLoop? : Stage → Option StatusSync
  | .running loops => loops.statusSync.loop?
  | _ => none

theorem LoopSlot.loop?_noted {α : Type} (slot : LoopSlot α) : slot.noted.loop? = slot.loop? := by
  cases slot <;> rfl

namespace Agent

/-- What a step of an actor can do to the status loop. -/
inductive SyncStep (a : Agent) (site : Site) : Option StatusSync → Prop where
  | kept : SyncStep a site a.stage.syncLoop?
  /-- It ends, or there is none. -/
  | ended : SyncStep a site none
  | started {identity : Identity} {anchor : Instant} :
      SyncStep a site (some (.start identity a.setup.status a.setup.retry anchor))
  | woken {s : StatusSync} (hloop : a.stage.syncLoop? = some s) (hidle : s.flight = none) :
      SyncStep a site (some (s.tick a.setup.profile a.ledger site).1)
  | settled {s next : StatusSync} {flight : Publication} {result : Except CallError Unit}
      {now : Instant} (hloop : a.stage.syncLoop? = some s) (hflight : s.flight = some flight)
      (hnext : s.afterPublication flight result now = .ok next) : SyncStep a site (some next)

section Steps

variable (a : Agent) (site : Site)

theorem windUp_syncLoop? (held : Option Identity) :
    (a.windUp held site).1.stage.syncLoop? = none := by
  cases held <;> rfl

theorem SyncStep.of_eq_none {a later : Agent} {site : Site}
    (h : later.stage.syncLoop? = none) : SyncStep a site later.stage.syncLoop? := by
  rw [h]
  exact .ended

theorem afterRegister_sync (settled : Site) (attempt : RegistrationAttempt)
    (result : Except CallError Nat) :
    SyncStep a site (a.afterRegister attempt result settled).1.stage.syncLoop? := by
  cases result with
  | ok version => exact .started
  | error error => exact .of_eq_none rfl

theorem statusSync_sync {loops : Loops} {s : StatusSync} (hstage : a.stage = .running loops)
    (hslot : loops.statusSync = .running s) :
    SyncStep a site
      (slotOf (s.act a.setup.profile a.ledger a.tracker site).1).loop? := by
  have hloop : a.stage.syncLoop? = some s := by
    rw [hstage, Stage.syncLoop?, hslot]
    rfl
  cases hflight : s.flight with
  | none =>
      simp only [StatusSync.act, hflight]
      exact .woken hloop hflight
  | some flight =>
      simp only [StatusSync.act, hflight]
      generalize hresult : s.afterPublication flight _ _ = outcome
      cases outcome with
      | ok next => exact .settled hloop hflight hresult
      | error exit => exact .ended

theorem act_sync (actor : Actor) : SyncStep a site (a.act actor site).1.stage.syncLoop? := by
  have hkept {later : Agent} (h : later.stage.syncLoop? = a.stage.syncLoop?) :
      SyncStep a site later.stage.syncLoop? := by
    rw [h]
    exact .kept
  have hstep := a.act_step site actor
  generalize a.act actor site = later at hstep ⊢
  cases hstep with
  | declined | quitWaiting | quitRegistering | quitRetrying | leaving =>
      exact .of_eq_none (windUp_syncLoop? _ _ _)
  | settled => exact a.afterRegister_sync site _ _ _
  | @joined loops hstage =>
      -- Taking note of a loop that has returned does not touch one that runs.
      refine hkept ?_
      rw [hstage, Loops.join_eq]
      exact loops.statusSync.loop?_noted
  | heartbeatHalted hstage | heartbeatWorked hstage => exact hkept (by rw [hstage]; rfl)
  | statusSyncWorked hstage hslot => exact a.statusSync_sync site hstage hslot
  | taskIdle | heartbeatIdle | statusSyncIdle | released => exact .kept
  | _ => exact .ended

end Steps

/-! ## Snapshots -/

/-- The snapshot of a ledger's state, as an agent of this setup makes it. -/
structure Describes (setup : AgentSetup) (l : Ledger) (s : StatusSnapshot) : Prop where
  generation_eq : l.generation = s.observedGeneration
  capacity_eq : s.capacity = setup.profile.capacity
  allocatable_eq : s.allocatable = setup.profile.allocatable
  podCidr_eq : s.podCidr = setup.profile.podRange.text
  once : ∀ type, (s.conditions.countP fun c => c.type = type) = 1
  memory_eq : statusIn s.conditions .memoryPressure =
    some (if l.snapshot.isPressed setup.status.pressureThreshold .memory then .yes else .no)
  pods_eq : statusIn s.conditions .pidPressure =
    some (if l.snapshot.isPressed setup.status.pressureThreshold .pods then .yes else .no)

theorem describes_snapshotOf (setup : AgentSetup) (l : Ledger) (previous : List NodeCondition)
    (now : Timestamp) :
    Describes setup l
      (StatusSync.snapshotOf setup.status setup.profile l.snapshot previous now) := by
  refine ⟨rfl, rfl, rfl, rfl, fun type => ?_, ?_, ?_⟩
  · cases type <;> rfl
  · rw [StatusSync.snapshotOf, statusIn_buildConditions, evaluate]
    split_ifs <;> rfl
  · rw [StatusSync.snapshotOf, statusIn_buildConditions, evaluate]
    split_ifs <;> rfl

/-- The snapshot of the publication that an agent has in flight. -/
def inFlight? (a : Agent) : Option StatusSnapshot :=
  (a.stage.syncLoop?.bind StatusSync.flight).map Publication.snapshot

/-- The snapshot that is handed over with a step: that of a publication that begins with it. -/
def handed? (before after : Agent) : Option StatusSnapshot :=
  match before.inFlight? with
  | none => after.inFlight?
  | some _ => none

theorem handed?_eq_none {before after : Agent}
    (h : after.stage.syncLoop? = before.stage.syncLoop?) : handed? before after = none := by
  have hsame : after.inFlight? = before.inFlight? := by rw [inFlight?, h, inFlight?]
  unfold handed?
  cases hbefore : before.inFlight? with
  | none => exact hsame.trans hbefore
  | some snapshot => rfl

/-- What is handed over describes the ledger as it stands. -/
theorem SyncStep.describes {a later : Agent} {site : Site} {snapshot : StatusSnapshot}
    (h : SyncStep a site later.stage.syncLoop?)
    (hpolicy : ∀ s, a.stage.syncLoop? = some s → s.policy = a.setup.status)
    (hhanded : handed? a later = some snapshot) : Describes a.setup a.ledger snapshot := by
  have hafter : later.inFlight? = some snapshot := by
    unfold handed? at hhanded
    split at hhanded
    · exact hhanded
    · cases hhanded
  generalize hslot : later.stage.syncLoop? = slot at h
  rw [inFlight?, hslot] at hafter
  cases h with
  | kept =>
      rw [handed?_eq_none hslot] at hhanded
      cases hhanded
  | ended => cases hafter
  | started => cases hafter
  | @woken s hloop hidle =>
      simp only [Option.bind_some, StatusSync.tick] at hafter
      split_ifs at hafter
      · obtain rfl := Option.some.inj hafter
        rw [hpolicy s hloop]
        exact describes_snapshotOf a.setup a.ledger s.conditions site.wall
      · cases hafter
  | @settled s next flight result now hloop hflight hnext =>
      obtain ⟨-, -, hsleeps, -⟩ := StatusSync.afterPublication_eq_ok hnext
      rw [Option.bind_some, hsleeps] at hafter
      cases hafter

theorem SyncStep.policy_eq {a : Agent} {site : Site} {slot : Option StatusSync}
    (h : SyncStep a site slot)
    (hpolicy : ∀ s, a.stage.syncLoop? = some s → s.policy = a.setup.status) :
    ∀ s, slot = some s → s.policy = a.setup.status := by
  rintro next rfl
  generalize hslot : some next = slot at h
  cases h with
  | kept => exact hpolicy next hslot.symm
  | ended => cases hslot
  | started =>
      obtain rfl := Option.some.inj hslot
      rfl
  | @woken s hloop hidle =>
      obtain rfl := Option.some.inj hslot
      rw [← hpolicy s hloop, StatusSync.tick]
      dsimp only
      split_ifs <;> rfl
  | @settled s later flight result now hloop hflight hnext =>
      obtain rfl := Option.some.inj hslot
      obtain ⟨hkept, -⟩ := StatusSync.afterPublication_eq_ok hnext
      exact hkept.trans (hpolicy s hloop)

/-! ## Runs -/

/-- A run with the states that the ledger was in and the snapshots that were handed over, the last
first. -/
structure Observed where
  recorded : Recorded
  ledgers : List Ledger
  snapshots : List StatusSnapshot

/-- Lets a move happen. -/
def Observed.move (o : Observed) (m : Move) : Observed :=
  let recorded := o.recorded.move m
  { recorded
    ledgers := recorded.agent.ledger :: o.ledgers
    snapshots := (handed? o.recorded.agent recorded.agent).toList ++ o.snapshots }

/-- Lets moves happen to a new agent, one after the other. -/
def observe (setup : AgentSetup) (site : Site) (moves : List Move) : Observed :=
  moves.foldl Observed.move
    { recorded := run setup site []
      ledgers := [.empty setup.profile.allocatable]
      snapshots := [] }

theorem observe_concat (setup : AgentSetup) (site : Site) (moves : List Move) (m : Move) :
    observe setup site (moves ++ [m]) = (observe setup site moves).move m := by
  simp [observe]

/-- What is observed is the run. -/
theorem observe_recorded (setup : AgentSetup) (site : Site) (moves : List Move) :
    (observe setup site moves).recorded = run setup site moves :=
  (List.foldl_hom Observed.recorded fun _ _ => rfl).symm

/-- What one move does to the parts of an agent that a snapshot is made of. -/
structure Advances (a later : Agent) : Prop where
  setup_eq : later.setup = a.setup
  precedes : a.ledger.Precedes later.ledger
  sync : ∃ site, SyncStep a site later.stage.syncLoop?

theorem advances_move (r : Recorded) (m : Move) : Advances r.agent (r.move m).agent := by
  have hkept : SyncStep r.agent r.site r.agent.stage.syncLoop? := .kept
  cases m with
  | act actor =>
      obtain ⟨hsetup, hledger, -⟩ := r.agent.act_keeps r.site actor
      exact ⟨hsetup, .inl hledger.symm, r.site, r.agent.act_sync r.site actor⟩
  | stop =>
      obtain ⟨hsetup, hledger, hstage, -⟩ := r.agent.stop_keeps r.site
      refine ⟨hsetup, .inl hledger.symm, r.site, ?_⟩
      show SyncStep r.agent r.site (r.agent.stop r.site).2.1.stage.syncLoop?
      rw [hstage]
      exact hkept
  | submit workload request =>
      refine ⟨rfl, ?_, r.site, hkept⟩
      show r.agent.ledger.Precedes (r.agent.submit workload request r.site).2.1.ledger
      simp only [submit]
      split_ifs
      · exact r.agent.ledger.precedes_tryAdmit workload request _
      · exact .inl rfl
  | release workload =>
      exact ⟨rfl, r.agent.ledger.precedes_release workload, r.site, hkept⟩
  | _ => exact ⟨rfl, .inl rfl, r.site, hkept⟩

/-- What holds of an observed run at any time. -/
structure Faithful (setup : AgentSetup) (o : Observed) : Prop where
  setup_eq : o.recorded.agent.setup = setup
  policy_eq : ∀ s, o.recorded.agent.stage.syncLoop? = some s → s.policy = setup.status
  current : o.recorded.agent.ledger ∈ o.ledgers
  precedes : ∀ l ∈ o.ledgers, l.Precedes o.recorded.agent.ledger
  /-- A generation belongs to one state of the ledger. -/
  unique : ∀ l ∈ o.ledgers, ∀ other ∈ o.ledgers, l.generation = other.generation → l = other
  described : ∀ s ∈ o.snapshots, ∃ l ∈ o.ledgers, Describes setup l s
  ordered : o.snapshots.Pairwise fun later earlier =>
    earlier.observedGeneration ≤ later.observedGeneration

theorem Faithful.start (setup : AgentSetup) (site : Site) :
    Faithful setup (observe setup site []) := by
  refine ⟨rfl, nofun, List.mem_singleton_self _, ?_, ?_, nofun, .nil⟩
  · intro l hl
    exact .inl (List.mem_singleton.1 hl)
  · intro l hl other hother _
    rw [List.mem_singleton.1 hl, List.mem_singleton.1 hother]

theorem Faithful.move {setup : AgentSetup} {o : Observed} (h : Faithful setup o) (m : Move) :
    Faithful setup (o.move m) := by
  obtain ⟨hsetup, hprecedes, site, hsync⟩ := advances_move o.recorded m
  let later := o.recorded.move m
  have hpolicy : ∀ s, o.recorded.agent.stage.syncLoop? = some s →
      s.policy = o.recorded.agent.setup.status := by
    rw [h.setup_eq]
    exact h.policy_eq
  have hall (l : Ledger) (hl : l ∈ o.ledgers) : l.Precedes later.agent.ledger :=
    (h.precedes l hl).trans hprecedes
  have hhanded (s : StatusSnapshot) (hs : handed? o.recorded.agent later.agent = some s) :
      Describes setup o.recorded.agent.ledger s :=
    h.setup_eq ▸ hsync.describes hpolicy hs
  refine ⟨hsetup.trans h.setup_eq, ?_, List.mem_cons_self, ?_, ?_, ?_, ?_⟩
  · rw [← h.setup_eq]
    exact hsync.policy_eq hpolicy
  · exact List.forall_mem_cons.2 ⟨.inl rfl, hall⟩
  · -- Only the ledger as it is now can be new, and it comes after all others.
    have hnow (l : Ledger) (hl : l ∈ o.ledgers)
        (heq : l.generation = later.agent.ledger.generation) : l = later.agent.ledger := by
      rcases hall l hl with hsame | hlt
      · exact hsame
      · exact absurd heq hlt.ne
    intro l hl other hother heq
    rcases List.mem_cons.1 hl with rfl | hl
    · rcases List.mem_cons.1 hother with rfl | hother
      · rfl
      · exact (hnow other hother heq.symm).symm
    · rcases List.mem_cons.1 hother with rfl | hother
      · exact hnow l hl heq
      · exact h.unique l hl other hother heq
  · intro s hs
    rcases List.mem_append.1 hs with hnew | hold
    · exact ⟨_, List.mem_cons_of_mem _ h.current, hhanded s (Option.mem_toList.1 hnew)⟩
    · obtain ⟨l, hl, hdescribes⟩ := h.described s hold
      exact ⟨l, List.mem_cons_of_mem _ hl, hdescribes⟩
  · refine List.pairwise_append.2 ⟨?_, h.ordered, fun s hs earlier hearlier => ?_⟩
    · cases handed? o.recorded.agent later.agent with
      | none => exact .nil
      | some s => exact List.pairwise_singleton _ s
    · obtain ⟨l, hl, hdescribes⟩ := h.described earlier hearlier
      calc earlier.observedGeneration = l.generation := hdescribes.generation_eq.symm
        _ ≤ o.recorded.agent.ledger.generation := (h.precedes l hl).generation_le
        _ = s.observedGeneration := (hhanded s (Option.mem_toList.1 hs)).generation_eq

theorem observe_faithful (setup : AgentSetup) (site : Site) (moves : List Move) :
    Faithful setup (observe setup site moves) := by
  induction moves using List.reverseRecOn with
  | nil => exact .start setup site
  | append_singleton moves m ih =>
      rw [observe_concat]
      exact ih.move m

/-- Every snapshot that an agent hands over, under whatever identity, describes the one state of
its ledger that has the generation which the snapshot names.  From one snapshot to the next, the
generation does not go down. -/
theorem snapshots_consistent (setup : AgentSetup) (site : Site) (moves : List Move) :
    let o := observe setup site moves
    o.recorded = run setup site moves ∧
      (∀ s ∈ o.snapshots, ∃ l ∈ o.ledgers, Describes setup l s ∧
        ∀ other ∈ o.ledgers, other.generation = s.observedGeneration → other = l) ∧
      o.snapshots.Pairwise fun later earlier =>
        earlier.observedGeneration ≤ later.observedGeneration := by
  intro o
  have h : Faithful setup o := observe_faithful setup site moves
  refine ⟨observe_recorded setup site moves, fun s hs => ?_, h.ordered⟩
  obtain ⟨l, hl, hdescribes⟩ := h.described s hs
  refine ⟨l, hl, hdescribes, fun other hother heq => ?_⟩
  exact h.unique other hother l hl (heq.trans hdescribes.generation_eq.symm)

/-- A workload is admitted while the first publication is in flight, and the identity is lost with
it; the first snapshot under the next identity is about the ledger with the workload. -/
example :
    let profile : Profile := ⟨1000, 1000, 0, 0, 10, ⟨0, 24⟩⟩
    let setup : AgentSetup := ⟨"node", profile, 10, ⟨10, 60, 1⟩, ⟨3, 1, 8, 5⟩, 30⟩
    let moves : List Move :=
      [.act .task, .act .task, .act .statusSync, .submit "w" ⟨1, 1, 0⟩,
        .plane (.failNext .publishStatus 1 (.conflict "")), .act .statusSync,
        .act .task, .act .heartbeat, .act .task, .act .task, .act .task, .act .statusSync]
    (observe setup (.create (.empty 0) ⟨0, 0⟩) moves).snapshots.map
      (·.observedGeneration) = [1, 0] := by
  decide +kernel

end Agent

end NodeFleet
