import Mathlib.Data.List.Induction
import NodeFleet.Proofs.Agent.Turn
import NodeFleet.Proofs.Text.Parts

/-!
# The discipline of identities

An agent registers under a fresh identity of generation zero.  It repeats an identity that
was refused for now, and replaces one that met a conflict or was lost, by a fresh uid and
the next generation.  It renews, publishes and deregisters only under the identity that
was registered last, and not after the loss of that identity was taken up.

`Agent.standing` reads off the past of an agent where it stands with its identity, and
`Agent.IsLawful` says what it may do there.  The invariant `Agent.Coherent` ties the
standing to the stage that the task is in, and holds in every run whatever the control
plane answers, since a stage passes its identity on to the next one only in these ways.
-/

namespace NodeFleet

/-- No uid is drawn twice. -/
theorem Site.uid_injective : Function.Injective Site.uid := by
  intro m n h
  exact Text.Numeral.text_injective (String.append_right_inj "uid-" |>.1 h)

namespace Agent

/-! ## What an agent may do -/

/-- Where an agent stands with its identity. -/
inductive Standing where
  /-- It has not tried to register. -/
  | unborn
  | attempting (identity : Identity)
  /-- The attempt failed, and the identity is to be used again. -/
  | refused (identity : Identity)
  /-- The identity met a conflict or was lost. -/
  | spent (identity : Identity)
  | holding (identity : Identity)

/-- Where an agent stands after what it has done. -/
def standing : List Deed → Standing
  | [] => .unborn
  | .began .register identity :: _ => .attempting identity
  | .ended .register identity none :: _ => .holding identity
  | .ended .register identity (some (.conflict _)) :: _ => .spent identity
  | .ended .register identity (some _) :: _ => .refused identity
  | .lost identity :: _ => .spent identity
  | _ :: earlier => standing earlier

/-- The identities that were to be registered. -/
def attempts (history : List Deed) : List Identity :=
  history.filterMap fun
    | .began .register identity => some identity
    | _ => none

/-- Whether an agent may try to register an identity. -/
def MayRegister (name : String) (earlier : List Deed) (identity : Identity) : Prop :=
  identity.name = name ∧
    match standing earlier with
    | .unborn => identity.generation = 0
    | .refused previous => identity = previous
    | .spent previous =>
        identity.generation = previous.generation + 1 ∧
          ∀ used ∈ attempts earlier, used.uid ≠ identity.uid
    | .attempting _ => False
    | .holding _ => False

/-- Whether a loop was told that an identity is lost. -/
def LossReported (identity : Identity) (history : List Deed) : Prop :=
  ∃ operation error, (operation = .renewLease ∨ operation = .publishStatus) ∧
    .ended operation identity (some error) ∈ history ∧ error.isIdentityLost = true

/-- Whether an agent may do something after what it did earlier. -/
def IsLawful (name : String) (earlier : List Deed) : Deed → Prop
  | .began .register identity => MayRegister name earlier identity
  | .began _ identity => standing earlier = .holding identity
  | .ended .register identity _ => standing earlier = .attempting identity
  | .ended _ identity _ => standing earlier = .holding identity
  | .lost identity => standing earlier = .holding identity ∧ LossReported identity earlier

/-- Whether an agent did only what it might. -/
def Disciplined (name : String) : List Deed → Prop
  | [] => True
  | deed :: earlier => IsLawful name earlier deed ∧ Disciplined name earlier

/-! ## The invariant -/

/-- Whether a uid has been drawn from the supply. -/
def IsDrawn (drawn : Nat) (uid : String) : Prop := ∃ number < drawn, uid = Site.uid number

theorem IsDrawn.mono {drawn later : Nat} {uid : String} (h : IsDrawn drawn uid)
    (hle : drawn ≤ later) : IsDrawn later uid := by
  obtain ⟨number, hlt, heq⟩ := h
  exact ⟨number, Nat.lt_of_lt_of_le hlt hle, heq⟩

/-- The next uid is a new one. -/
theorem IsDrawn.ne_next {drawn : Nat} {uid : String} (h : IsDrawn drawn uid) :
    uid ≠ Site.uid drawn := by
  obtain ⟨number, hlt, rfl⟩ := h
  exact fun heq => Nat.ne_of_lt hlt (Site.uid_injective heq)

theorem isDrawn_next (drawn : Nat) : IsDrawn (drawn + 1) (Site.uid drawn) :=
  ⟨drawn, Nat.lt_succ_self drawn, rfl⟩

/-- The loops work for the identity that the agent holds, and know of its loss only what they were
told. -/
structure Working (loops : Loops) (history : List Deed) : Prop where
  holding : standing history = .holding loops.identity
  heartbeat : ∀ h, loops.heartbeat = .running h → h.identity = loops.identity
  statusSync : ∀ s, loops.statusSync = .running s → s.identity = loops.identity
  lost : ∀ error, loops.lost = some error → LossReported loops.identity history
  heartbeat_loss : ∀ error, loops.heartbeat.loss? = some error →
    LossReported loops.identity history
  statusSync_loss : ∀ error, loops.statusSync.loss? = some error →
    LossReported loops.identity history

/-- Whether a stage fits what the agent did before. -/
def Fits (name : String) (drawn : Nat) (history : List Deed) : Stage → Prop
  | .created => standing history = .unborn
  | .waiting generation _ =>
      ∃ previous, standing history = .spent previous ∧ generation = previous.generation + 1
  | .registering attempt _ =>
      standing history = .attempting attempt.identity ∧ attempt.identity.name = name ∧
        attempt.identity ∈ attempts history
  | .retrying attempt _ =>
      MayRegister name history attempt.identity ∧ IsDrawn drawn attempt.identity.uid
  | .running loops => Working loops history
  | .deregistering identity _ => standing history = .holding identity
  | .finished => True
  | .aborted => True

/-- What an agent did agrees with where it is. -/
structure Coherent (setup : AgentSetup) (v : View) (history : List Deed) : Prop where
  setup_eq : v.setup = setup
  disciplined : Disciplined setup.name history
  drawn : ∀ identity ∈ attempts history, IsDrawn v.drawn identity.uid
  fits : Fits setup.name v.drawn history v.stage

variable {setup : AgentSetup} {a : Agent} {site : Site} {history : List Deed}

theorem create_coherent (setup : AgentSetup) (site : Site) :
    Coherent setup ((Agent.create setup).view site) [] where
  setup_eq := rfl
  disciplined := trivial
  drawn := by simp [attempts]
  fits := rfl

/-- A fresh identity may be registered when the last one is spent. -/
theorem mayRegister_next {name : String} {drawn : Nat} {previous identity : Identity}
    (hstanding : standing history = .spent previous)
    (hdrawn : ∀ used ∈ attempts history, IsDrawn drawn used.uid) (hname : identity.name = name)
    (huid : identity.uid = Site.uid drawn)
    (hgeneration : identity.generation = previous.generation + 1) :
    MayRegister name history identity := by
  refine ⟨hname, ?_⟩
  rw [hstanding]
  exact ⟨hgeneration, fun used hused => huid ▸ (hdrawn used hused).ne_next⟩

/-! ### The loops -/

section Working

variable {loops : Loops}

theorem LossReported.add {identity : Identity} (h : LossReported identity history) (deed : Deed) :
    LossReported identity (deed :: history) := by
  obtain ⟨operation, error, hoperation, hmem, hlost⟩ := h
  exact ⟨operation, error, hoperation, List.mem_cons_of_mem _ hmem, hlost⟩

/-- Calls of the loops do not change where the agent stands. -/
theorem Working.add (h : Working loops history) (deed : Deed)
    (hstanding : standing (deed :: history) = standing history) : Working loops (deed :: history) where
  holding := hstanding.trans h.holding
  heartbeat := h.heartbeat
  statusSync := h.statusSync
  lost error hlost := (h.lost error hlost).add deed
  heartbeat_loss error hlost := (h.heartbeat_loss error hlost).add deed
  statusSync_loss error hlost := (h.statusSync_loss error hlost).add deed

theorem Working.setHeartbeat (h : Working loops history) (slot : LoopSlot Heartbeat)
    (hidentity : ∀ next, slot = .running next → next.identity = loops.identity)
    (hloss : ∀ error, slot.loss? = some error → LossReported loops.identity history) :
    Working { loops with heartbeat := slot } history :=
  { h with heartbeat := hidentity, heartbeat_loss := hloss }

theorem Working.setStatusSync (h : Working loops history) (slot : LoopSlot StatusSync)
    (hidentity : ∀ next, slot = .running next → next.identity = loops.identity)
    (hloss : ∀ error, slot.loss? = some error → LossReported loops.identity history) :
    Working { loops with statusSync := slot } history :=
  { h with statusSync := hidentity, statusSync_loss := hloss }

theorem noted_eq_running {α : Type} {slot : LoopSlot α} {loop : α} (h : slot.noted = .running loop) :
    slot = .running loop := by
  cases slot with
  | returned exit => exact nomatch h
  | running _ => exact h
  | joined => exact nomatch h

theorem loss?_noted {α : Type} (slot : LoopSlot α) : slot.noted.loss? = none := by
  cases slot <;> rfl

/-- A loss that the task knows of was reported to one of the loops. -/
theorem Working.reported (h : Working loops history) {error : CallError}
    (hlost : loops.join.lost = some error) : LossReported loops.identity history := by
  rw [loops.join_eq] at hlost
  rcases Option.or_eq_some_iff.1 hlost with hearlier | ⟨-, hstatus⟩
  · rcases Option.or_eq_some_iff.1 hearlier with hnoted | ⟨-, hheartbeat⟩
    · exact h.lost error hnoted
    · exact h.heartbeat_loss error hheartbeat
  · exact h.statusSync_loss error hstatus

theorem Working.join (h : Working loops history) : Working loops.join history := by
  have hlost (error : CallError) : loops.join.lost = some error →
      LossReported loops.identity history := h.reported
  rw [loops.join_eq] at hlost ⊢
  exact {
    holding := h.holding
    heartbeat := fun next hnext => h.heartbeat next (noted_eq_running hnext)
    statusSync := fun next hnext => h.statusSync next (noted_eq_running hnext)
    lost := hlost
    heartbeat_loss := fun error hloss => by simp [loss?_noted] at hloss
    statusSync_loss := fun error hloss => by simp [loss?_noted] at hloss }

/-- A loop that ends because of a lost identity was told of the loss. -/
theorem Working.renewed (h : Working loops history) {loop : Heartbeat}
    (hslot : loops.heartbeat = .running loop) (result : Except CallError Nat) (now : Instant) :
    Working { loops with heartbeat := slotOf (loop.afterAttempt result now) }
      (.ended .renewLease loop.identity (failure? result) :: history) := by
  have hidentity := h.heartbeat loop hslot
  refine (h.add (.ended .renewLease loop.identity (failure? result)) rfl).setHeartbeat _ ?_ ?_
  · intro next hnext
    rcases loop.afterAttempt_cases result now with
      ⟨version, after, -, hafter, heq, -⟩ | ⟨error, after, -, -, hafter, heq, -⟩ |
      ⟨error, -, -, hafter⟩ <;> rw [hafter] at hnext <;> cases hnext
    · exact heq.trans hidentity
    · exact heq.trans hidentity
  · intro error hloss
    rcases loop.afterAttempt_cases result now with
      ⟨version, after, -, hafter, -, -⟩ | ⟨known, after, -, -, hafter, -, -⟩ |
      ⟨known, rfl, hlost, hafter⟩ <;> rw [hafter] at hloss <;> cases hloss
    exact ⟨.renewLease, error, .inl rfl, hidentity ▸ List.mem_cons_self, hlost⟩

theorem Working.published (h : Working loops history) {loop : StatusSync}
    (hslot : loops.statusSync = .running loop) (flight : Publication)
    (result : Except CallError Unit) (now : Instant) :
    Working { loops with statusSync := slotOf (loop.afterPublication flight result now) }
      (.ended .publishStatus loop.identity (failure? result) :: history) := by
  have hidentity := h.statusSync loop hslot
  refine (h.add (.ended .publishStatus loop.identity (failure? result)) rfl).setStatusSync _ ?_ ?_
  · intro next hnext
    rcases loop.afterPublication_cases flight result now with
      ⟨after, hafter, heq, -⟩ | ⟨error, -, -, hafter⟩ <;> rw [hafter] at hnext <;> cases hnext
    exact heq.trans hidentity
  · intro error hloss
    rcases loop.afterPublication_cases flight result now with
      ⟨after, hafter, -, -⟩ | ⟨known, rfl, hlost, hafter⟩ <;> rw [hafter] at hloss <;> cases hloss
    exact ⟨.publishStatus, error, .inr rfl, hidentity ▸ List.mem_cons_self, hlost⟩

end Working

/-! ### Steps and runs -/

theorem Coherent.step {deed? : Option Deed} {after : View} (h : Coherent setup (a.view site) history)
    (hturn : Turn a site deed? after) : Coherent setup after (deed?.toList ++ history) := by
  have hname : a.name = setup.name := congrArg AgentSetup.name h.setup_eq
  have hfits : Fits setup.name site.drawn history a.stage := h.fits
  cases hturn with
  | rested => exact h
  | ended hstage =>
      refine ⟨h.setup_eq, h.disciplined, h.drawn, ?_⟩
      rcases hstage with rfl | rfl <;> trivial
  | @attempted generation identity backoff call hstage hidentity =>
      have hmay : MayRegister setup.name history identity := by
        rcases hstage with ⟨hstage, rfl⟩ | ⟨wake, hstage⟩ <;> rw [hstage] at hfits
        · have hunborn : standing history = .unborn := hfits
          refine ⟨by rw [hidentity, ← hname], ?_⟩
          rw [hunborn, hidentity]
        · obtain ⟨previous, hspent, hgeneration⟩ := hfits
          exact mayRegister_next hspent h.drawn (by rw [hidentity, ← hname])
            (by rw [hidentity]; rfl) (by rw [hidentity, hgeneration])
      have hdrawn : IsDrawn (site.drawn + 1) identity.uid := hidentity ▸ isDrawn_next site.drawn
      refine ⟨h.setup_eq, ⟨hmay, h.disciplined⟩, ?_, rfl, hmay.1, List.mem_cons_self⟩
      rintro used (_ | ⟨_, hused⟩)
      · exact hdrawn
      · exact (h.drawn used hused).mono (Nat.le_succ _)
  | repeated hstage =>
      rw [hstage] at hfits
      refine ⟨h.setup_eq, ⟨hfits.1, h.disciplined⟩, ?_, rfl, hfits.1.1, List.mem_cons_self⟩
      rintro used (_ | ⟨_, hused⟩)
      · exact hfits.2
      · exact h.drawn used hused
  | granted hstage hsettle =>
      rw [hstage] at hfits
      refine ⟨h.setup_eq, ⟨hfits.1, h.disciplined⟩, h.drawn, ?_⟩
      exact {
        holding := rfl
        heartbeat := by rintro _ ⟨rfl⟩; rfl
        statusSync := by rintro _ ⟨rfl⟩; rfl
        lost := nofun
        heartbeat_loss := nofun
        statusSync_loss := nofun }
  | @refused attempt call error settled wake hstage hsettle =>
      rw [hstage] at hfits
      obtain ⟨hattempting, hattempt, hmem⟩ := hfits
      have hdrawn := h.drawn attempt.identity hmem
      cases error with
      | conflict detail =>
          refine ⟨h.setup_eq, ⟨hattempting, h.disciplined⟩, ?_, ?_, isDrawn_next site.drawn⟩
          · exact fun used hused => (h.drawn used hused).mono (Nat.le_succ _)
          · have hspent : standing (.ended .register attempt.identity (some (.conflict detail)) ::
                history) = .spent attempt.identity := rfl
            exact mayRegister_next hspent h.drawn hattempt rfl rfl
      | _ => exact ⟨h.setup_eq, ⟨hattempting, h.disciplined⟩, h.drawn, ⟨hattempt, rfl⟩, hdrawn⟩
  | joined hstage =>
      rw [hstage] at hfits
      exact ⟨h.setup_eq, h.disciplined, h.drawn, Working.join hfits⟩
  | @lost loops error wake hstage hlost =>
      rw [hstage] at hfits
      have hworking : Working loops history := hfits
      exact ⟨h.setup_eq, ⟨⟨hworking.holding, hworking.reported hlost⟩, h.disciplined⟩, h.drawn,
        loops.identity, rfl, rfl⟩
  | leaving hstage =>
      rw [hstage] at hfits
      exact ⟨h.setup_eq, ⟨hfits.holding, h.disciplined⟩, h.drawn, hfits.holding⟩
  | left hstage hsettle =>
      rw [hstage] at hfits
      exact ⟨h.setup_eq, ⟨hfits, h.disciplined⟩, h.drawn, trivial⟩
  | heartbeatHalted hstage =>
      rw [hstage] at hfits
      exact ⟨h.setup_eq, h.disciplined, h.drawn, Working.setHeartbeat hfits _ nofun nofun⟩
  | @renewing loops loop call hstage hslot =>
      rw [hstage] at hfits
      have hworking : Working loops history := hfits
      have hidentity := hworking.heartbeat loop hslot
      refine ⟨h.setup_eq, ⟨?_, h.disciplined⟩, h.drawn, ?_⟩
      · exact hidentity ▸ hworking.holding
      · refine (hworking.add _ rfl).setHeartbeat _ ?_ nofun
        rintro _ ⟨rfl⟩
        exact hidentity
  | @renewed loops loop call result settled hstage hslot hsettle =>
      rw [hstage] at hfits
      have hworking : Working loops history := hfits
      refine ⟨h.setup_eq, ⟨?_, h.disciplined⟩, h.drawn, hworking.renewed hslot result settled.now⟩
      exact hworking.heartbeat loop hslot ▸ hworking.holding
  | statusSyncHalted hstage =>
      rw [hstage] at hfits
      exact ⟨h.setup_eq, h.disciplined, h.drawn, Working.setStatusSync hfits _ nofun nofun⟩
  | @ticked loops loop next hstage hslot hidentity =>
      rw [hstage] at hfits
      have hworking : Working loops history := hfits
      have hloop := hworking.statusSync loop hslot
      have hnext : ∀ other, LoopSlot.running next = .running other →
          other.identity = loops.identity := by
        rintro _ ⟨rfl⟩
        exact hidentity.trans hloop
      cases next.flight with
      | none =>
          exact ⟨h.setup_eq, h.disciplined, h.drawn, hworking.setStatusSync _ hnext nofun⟩
      | some flight =>
          refine ⟨h.setup_eq, ⟨hloop ▸ hworking.holding, h.disciplined⟩, h.drawn, ?_⟩
          exact (hworking.add _ rfl).setStatusSync _ hnext nofun
  | @published loops loop flight result settled hstage hslot hsettle =>
      rw [hstage] at hfits
      have hworking : Working loops history := hfits
      refine ⟨h.setup_eq, ⟨?_, h.disciplined⟩, h.drawn,
        hworking.published hslot flight result settled.now⟩
      exact hworking.statusSync loop hslot ▸ hworking.holding

theorem Fits.mono {name : String} {drawn later : Nat} {stage : Stage}
    (h : Fits name drawn history stage) (hle : drawn ≤ later) : Fits name later history stage := by
  cases stage with
  | retrying attempt wake => exact ⟨h.1, h.2.mono hle⟩
  | _ => exact h

theorem Coherent.move {r : Recorded} (h : Coherent setup (r.agent.view r.site) r.history)
    (move : Move) :
    Coherent setup ((r.move move).agent.view (r.move move).site) (r.move move).history := by
  cases move with
  | act actor => exact h.step (r.agent.act_turn r.site actor)
  | stop =>
      simp only [Recorded.move, view_stop]
      exact h
  | submit workload request => exact h
  | release workload =>
      simp only [Recorded.move, view_release]
      exact h
  | wait instant => exact h
  | plane event => exact ⟨h.setup_eq, h.disciplined, h.drawn, h.fits⟩
  | control plane => exact ⟨h.setup_eq, h.disciplined, h.drawn, h.fits⟩
  | draw count =>
      have hle : r.site.drawn ≤ r.site.drawn + count := Nat.le_add_right _ _
      exact ⟨h.setup_eq, h.disciplined, fun used hused => (h.drawn used hused).mono hle,
        h.fits.mono hle⟩

theorem run_coherent (setup : AgentSetup) (site : Site) (moves : List Move) :
    let r := run setup site moves
    Coherent setup (r.agent.view r.site) r.history := by
  induction moves using List.reverseRecOn with
  | nil => exact create_coherent setup site
  | append_singleton moves move ih =>
      rw [run_concat]
      exact ih.move move

/-- In every run, whatever the control plane answers, an agent does only what it may.  It first
tries to register with generation zero; it tries again with the same identity unless the last
attempt met a conflict or the registered identity was lost, and otherwise with a uid that it has
not used and the next generation.  Every other call carries the identity that was registered last,
and none is made between the loss of that identity and the next registration. -/
theorem run_disciplined (setup : AgentSetup) (site : Site) (moves : List Move) :
    Disciplined setup.name (run setup site moves).history :=
  (run_coherent setup site moves).disciplined

/-- A conflict makes the agent register with another uid and the next generation. -/
example :
    let profile : Profile := ⟨1000, 1000, 0, 0, 10, ⟨0, 24⟩⟩
    let setup : AgentSetup := ⟨"node", profile, 10, ⟨10, 60, 1⟩, ⟨3, 1, 8, 5⟩, 30⟩
    let plane := (ControlPlane.empty 0).failNext .register 1 (.conflict "taken")
    let first : Identity := ⟨"node", Site.uid 0, 0⟩
    let second : Identity := ⟨"node", Site.uid 1, 1⟩
    (run setup (.create plane ⟨0, 0⟩) (List.replicate 4 (.act .task))).history =
      [.ended .register second none, .began .register second,
        .ended .register first (some (.conflict "taken")), .began .register first] := by
  rfl

end Agent

end NodeFleet
