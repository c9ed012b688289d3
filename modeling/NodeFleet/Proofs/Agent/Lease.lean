import NodeFleet.Proofs.Agent.Identity
import NodeFleet.Proofs.ControlPlane.Frame

/-!
# The lease of an undisturbed agent

An agent is undisturbed if nobody else registers its name, takes its lease over or removes
its node, nobody else carries one of its uids, and no fault is queued that tells a caller
that its identity is lost.  Calls may still be slow, time out or fail for other reasons.

Such an agent never loses its identity.  It has only one, of generation zero, and the
control plane has the uid and the lease version that the agent believes to hold.  The
invariant is `Agent.Secure`: a call that fails leaves the node as it is, and one that
succeeds changes the node and the agent's belief in the same step.
-/

namespace NodeFleet

/-! ## Calls that meet harmless faults -/

/-- Whether every queued fault leaves identities intact. -/
def ControlPlane.IsHarmless (p : ControlPlane) : Prop :=
  ∀ fault ∈ p.faults, fault.2.isIdentityLost = false

theorem ControlPlane.IsHarmless.complete {α : Type} {p : ControlPlane} (h : p.IsHarmless)
    (operation : Operation) (caller : Identity) (now : Instant) (effect : Effect α) :
    (p.complete operation caller now effect).2.IsHarmless :=
  fun fault hmem => h fault (mem_faults_of_complete hmem)

namespace Site

section Settle

variable {α : Type} {site settled : Site} {call : Call} {operation : Operation}
  {caller : Identity} {now : Instant} {effect : ControlPlane.Effect α}
  {result : Except CallError α}

/-- A settled call fails harmlessly, or because of its effect, or it has its effect. -/
theorem settle_harmless (h : site.plane.IsHarmless)
    (hsettle : site.settle call (fun plane => plane.complete operation caller now effect) =
      (result, settled)) :
    settled.plane.IsHarmless ∧
      ((∃ error, result = .error error ∧ settled.plane.nodes = site.plane.nodes ∧
          (error.isIdentityLost = false ∨ effect site.plane.nodes = .error error)) ∨
        ∃ value nodes, result = .ok value ∧ effect site.plane.nodes = .ok (value, nodes) ∧
          settled.plane.nodes = nodes) := by
  unfold settle at hsettle
  split_ifs at hsettle with hanswered
  · obtain ⟨rfl, rfl⟩ := Prod.mk.inj hsettle
    refine ⟨h.complete operation caller now effect, ?_⟩
    rcases ControlPlane.complete_cases site.plane operation caller now effect with
      ⟨error, herror, hnodes⟩ | ⟨value, nodes, heffect, hvalue, hnodes⟩
    · refine .inl ⟨error, herror, hnodes, ?_⟩
      exact (ControlPlane.complete_eq_error herror).imp_left fun hqueued => h _ hqueued
    · exact .inr ⟨value, nodes, hvalue, heffect, hnodes⟩
  · obtain ⟨rfl, rfl⟩ := Prod.mk.inj hsettle
    exact ⟨h, .inl ⟨_, rfl, rfl, .inl rfl⟩⟩

end Settle

section Calls

variable {site settled : Site} {call : Call} {identity : Identity}

/-- A registration fails harmlessly, or the node is the caller's, with the version granted. -/
theorem settleRegister_harmless {profile : Profile} {result : Except CallError Nat}
    (h : site.plane.IsHarmless)
    (hsettle : site.settleRegister call identity profile = (result, settled)) :
    settled.plane.IsHarmless ∧
      ((∃ error, result = .error error ∧ error.isIdentityLost = false) ∨
        ∃ version node, result = .ok version ∧
          settled.plane.nodes.find? identity.name = some node ∧ node.uid = identity.uid ∧
          node.leaseVersion = version) := by
  obtain ⟨node, huid, -, hregistering⟩ :=
    ControlPlane.registering_eq identity profile site.wall site.plane.nodes
  obtain ⟨hharmless, hcases⟩ := settle_harmless h hsettle
  refine ⟨hharmless, ?_⟩
  rcases hcases with ⟨error, hresult, -, hlost | heffect⟩ | ⟨version, nodes, hresult, heffect, hnodes⟩
  · exact .inl ⟨error, hresult, hlost⟩
  · simp [hregistering] at heffect
  · rw [hregistering] at heffect
    cases heffect
    refine .inr ⟨_, node, hresult, ?_, huid, rfl⟩
    rw [hnodes, Table.find?_insert, if_pos rfl]

variable {node : Node}

/-- A renewal by the holder with the current version fails harmlessly and changes nothing, or it
raises the version to the one granted. -/
theorem settleRenew_harmless {result : Except CallError Nat} (h : site.plane.IsHarmless)
    (hfind : site.plane.nodes.find? identity.name = some node) (huid : node.uid = identity.uid)
    (hsettle : site.settleRenew call identity node.leaseVersion = (result, settled)) :
    settled.plane.IsHarmless ∧
      ((∃ error, result = .error error ∧ error.isIdentityLost = false ∧
          settled.plane.nodes.find? identity.name = some node) ∨
        ∃ version renewed, result = .ok version ∧
          settled.plane.nodes.find? identity.name = some renewed ∧ renewed.uid = identity.uid ∧
          renewed.leaseVersion = version) := by
  let renewed : Node :=
    { node with leaseVersion := node.leaseVersion + 1, renewedAt := some site.wall }
  have hrenewing : ControlPlane.renewing identity node.leaseVersion site.wall site.plane.nodes =
      .ok (node.leaseVersion + 1, site.plane.nodes.insert identity.name renewed) :=
    ControlPlane.renewing_eq_ok_iff.2 ⟨node, hfind, huid, rfl, rfl, rfl⟩
  obtain ⟨hharmless, hcases⟩ := settle_harmless h hsettle
  refine ⟨hharmless, ?_⟩
  rcases hcases with
    ⟨error, hresult, hnodes, hlost | heffect⟩ | ⟨version, nodes, hresult, heffect, hnodes⟩
  · exact .inl ⟨error, hresult, hlost, hnodes ▸ hfind⟩
  · simp [hrenewing] at heffect
  · rw [hrenewing] at heffect
    cases heffect
    refine .inr ⟨_, renewed, hresult, ?_, huid, rfl⟩
    rw [hnodes, Table.find?_insert, if_pos rfl]

/-- A publication by the holder at most fails harmlessly, and leaves the lease as it is. -/
theorem settlePublish_harmless {snapshot : StatusSnapshot} {result : Except CallError Unit}
    (h : site.plane.IsHarmless) (hfind : site.plane.nodes.find? identity.name = some node)
    (huid : node.uid = identity.uid)
    (hsettle : site.settlePublish call identity snapshot = (result, settled)) :
    settled.plane.IsHarmless ∧ (∀ error, result = .error error → error.isIdentityLost = false) ∧
      ∃ after, settled.plane.nodes.find? identity.name = some after ∧ after.uid = identity.uid ∧
        after.leaseVersion = node.leaseVersion := by
  let after : Node :=
    { node with status := some snapshot, publishCount := node.publishCount + 1 }
  have hpublishing : ControlPlane.publishing identity snapshot site.plane.nodes =
      .ok ((), site.plane.nodes.insert identity.name after) :=
    ControlPlane.publishing_eq_ok_iff.2 ⟨node, hfind, huid, rfl⟩
  obtain ⟨hharmless, hcases⟩ := settle_harmless h hsettle
  refine ⟨hharmless, ?_⟩
  rcases hcases with ⟨error, rfl, hnodes, hlost | heffect⟩ | ⟨_, nodes, rfl, heffect, hnodes⟩
  · refine ⟨?_, node, hnodes ▸ hfind, huid, rfl⟩
    rintro _ ⟨rfl⟩
    exact hlost
  · simp [hpublishing] at heffect
  · rw [hpublishing] at heffect
    cases heffect
    refine ⟨nofun, after, ?_, huid, rfl⟩
    rw [hnodes, Table.find?_insert, if_pos rfl]

theorem settleDeregister_harmless {result : Except CallError Unit} (h : site.plane.IsHarmless)
    (hfind : site.plane.nodes.find? identity.name = some node) (huid : node.uid = identity.uid)
    (hsettle : site.settleDeregister call identity = (result, settled)) :
    settled.plane.IsHarmless ∧ ∀ error, result = .error error → error.isIdentityLost = false := by
  have hderegistering : ControlPlane.deregistering identity site.plane.nodes =
      .ok ((), site.plane.nodes.erase identity.name) :=
    ControlPlane.deregistering_eq_ok_iff.2 ⟨node, hfind, huid, rfl⟩
  obtain ⟨hharmless, hcases⟩ := settle_harmless h hsettle
  refine ⟨hharmless, ?_⟩
  rcases hcases with ⟨error, rfl, -, hlost | heffect⟩ | ⟨_, nodes, rfl, -, -⟩
  · rintro _ ⟨rfl⟩
    exact hlost
  · simp [hderegistering] at heffect
  · exact nofun

end Calls

end Site

namespace Agent

/-! ## Undisturbed runs -/

/-- Whether a move leaves an agent undisturbed: the control plane does not become another, no fault
is queued that shows a loss, and the node of the agent is spared under every uid that it used. -/
def Recorded.IsUndisturbedBy (r : Recorded) : Move → Prop
  | .control _ => False
  | .plane event =>
      (∀ operation count error, event = .failNext operation count error →
        error.isIdentityLost = false) ∧
      ∀ identity ∈ attempts r.history, ControlPlane.Spares r.agent.name identity.uid event
  | _ => True

/-- Whether all moves of a run leave the agent undisturbed. -/
def IsUndisturbed (setup : AgentSetup) (site : Site) (moves : List Move) : Prop :=
  ∀ earlier move later, moves = earlier ++ move :: later →
    (run setup site earlier).IsUndisturbedBy move

theorem IsUndisturbed.of_concat {setup : AgentSetup} {site : Site} {moves : List Move} {move : Move}
    (h : IsUndisturbed setup site (moves ++ [move])) :
    IsUndisturbed setup site moves ∧ (run setup site moves).IsUndisturbedBy move := by
  refine ⟨fun earlier other later heq => ?_, h moves move [] rfl⟩
  exact h earlier other (later ++ [move]) (by simp [heq])

/-- Whether something that an agent did shows no loss of its identity. -/
def Deed.IsHarmless : Deed → Prop
  | .began _ _ => True
  | .ended _ _ failure => ∀ error, failure = some error → error.isIdentityLost = false
  | .lost _ => False

theorem Deed.isHarmless_ended {α : Type} {operation : Operation} {identity : Identity}
    {result : Except CallError α}
    (h : ∀ error, result = .error error → error.isIdentityLost = false) :
    (Deed.ended operation identity (failure? result)).IsHarmless := by
  intro error hfailure
  cases result with
  | ok _ => exact nomatch hfailure
  | error reason => exact h error (congrArg Except.error (Option.some.inj hfailure))

/-! ## The only identity -/

/-- The identities that were registered. -/
def registrations (history : List Deed) : List Identity :=
  history.filterMap fun
    | .ended .register identity none => some identity
    | _ => none

/-- An agent has used no other identity, and has registered it at most once. -/
structure OnlyIdentity (history : List Deed) (identity : Identity) : Prop where
  generation_eq : identity.generation = 0
  eq_of_mem : ∀ attempt ∈ attempts history, attempt = identity
  registrations_le : (registrations history).length ≤ 1
  current : match standing history with
    | .unborn => attempts history = [] ∧ registrations history = []
    | .attempting current => current = identity ∧ registrations history = []
    | .refused current => current = identity ∧ registrations history = []
    | .spent _ => False
    | .holding current => current = identity

section OnlyIdentity

variable {name : String} {history : List Deed} {identity current : Identity}

theorem OnlyIdentity.began_register (h : OnlyIdentity history identity)
    (hmay : MayRegister name history current) :
    OnlyIdentity (.began .register current :: history) current := by
  obtain ⟨-, hmay⟩ := hmay
  have hstanding := h.current
  cases hbefore : standing history with
  | unborn =>
      rw [hbefore] at hmay hstanding
      obtain ⟨hattempts, hregistrations⟩ := hstanding
      have hfirst : attempts (.began .register current :: history) = [current] :=
        congrArg (current :: ·) hattempts
      refine ⟨hmay, fun attempt hmem => ?_, h.registrations_le, rfl, hregistrations⟩
      rw [hfirst] at hmem
      exact List.mem_singleton.1 hmem
  | refused previous =>
      rw [hbefore] at hmay hstanding
      obtain rfl : current = identity := hmay.trans hstanding.1
      refine ⟨h.generation_eq, ?_, h.registrations_le, rfl, hstanding.2⟩
      exact List.forall_mem_cons.2 ⟨rfl, h.eq_of_mem⟩
  | spent previous =>
      rw [hbefore] at hstanding
      exact hstanding.elim
  | attempting previous =>
      rw [hbefore] at hmay
      exact hmay.elim
  | holding previous =>
      rw [hbefore] at hmay
      exact hmay.elim

theorem OnlyIdentity.ended_register (h : OnlyIdentity history identity)
    (hbefore : standing history = .attempting current) {failure : Option CallError}
    (hharmless : (Deed.ended .register current failure).IsHarmless) :
    OnlyIdentity (.ended .register current failure :: history) current := by
  have hstanding := h.current
  rw [hbefore] at hstanding
  obtain ⟨rfl, hregistrations⟩ := hstanding
  cases failure with
  | none =>
      have hone : registrations (.ended .register current none :: history) = [current] :=
        congrArg (current :: ·) hregistrations
      exact ⟨h.generation_eq, h.eq_of_mem, by simp [hone], rfl⟩
  | some error =>
      refine ⟨h.generation_eq, h.eq_of_mem, h.registrations_le, ?_⟩
      have hkept : error.isIdentityLost = false := hharmless error rfl
      cases error with
      | conflict detail => exact nomatch hkept
      | _ => exact ⟨rfl, hregistrations⟩

/-- Without a conflict and without a loss, discipline leaves an agent one identity. -/
theorem Disciplined.exists_onlyIdentity (h : Disciplined name history)
    (hharmless : ∀ deed ∈ history, deed.IsHarmless) :
    ∃ identity, OnlyIdentity history identity := by
  induction history with
  | nil => exact ⟨⟨name, "", 0⟩, rfl, nofun, Nat.zero_le 1, rfl, rfl⟩
  | cons deed earlier ih =>
      obtain ⟨hdeed, hearlier⟩ := List.forall_mem_cons.1 hharmless
      obtain ⟨identity, honly⟩ := ih h.2 hearlier
      -- Only registrations say something new of the identity.
      cases deed with
      | began operation current =>
          cases operation with
          | register => exact ⟨current, honly.began_register h.1⟩
          | _ => exact ⟨identity, honly.1, honly.2, honly.3, honly.4⟩
      | ended operation current failure =>
          cases operation with
          | register => exact ⟨current, honly.ended_register h.1 hdeed⟩
          | _ => exact ⟨identity, honly.1, honly.2, honly.3, honly.4⟩
      | lost current => exact hdeed.elim

end OnlyIdentity

/-! ## The invariant -/

/-- The control plane has the node of an agent under an identity that the agent has used. -/
structure Holds (name : String) (plane : ControlPlane) (used : List Identity)
    (identity : Identity) (node : Node) : Prop where
  name_eq : identity.name = name
  mem_used : identity ∈ used
  find?_eq : plane.nodes.find? identity.name = some node
  uid_eq : node.uid = identity.uid

/-- The loops, the registration and the control plane agree on the lease, and no loss is known. -/
structure Leased (name : String) (plane : ControlPlane) (registration : Registration)
    (used : List Identity) (loops : Loops) (node : Node) : Prop where
  holds : Holds name plane used loops.identity node
  version_eq : ∀ h, loops.heartbeat = .running h → h.version = node.leaseVersion
  identity_eq : registration.identity = some loops.identity
  lease_eq : registration.lease.map Lease.version = some node.leaseVersion
  lost_eq : loops.lost = none
  heartbeat_loss : loops.heartbeat.loss? = none
  statusSync_loss : loops.statusSync.loss? = none

/-- What is known of the node in a stage. -/
def Kept (v : View) (used : List Identity) : Stage → Prop
  | .running loops => ∃ node, Leased v.setup.name v.plane v.registration used loops node
  | .deregistering identity _ => ∃ node, Holds v.setup.name v.plane used identity node
  | _ => True

/-- An undisturbed agent is secure: it was told of no loss, and will not be. -/
structure Secure (v : View) (history : List Deed) : Prop where
  plane : v.plane.IsHarmless
  harmless : ∀ deed ∈ history, deed.IsHarmless
  kept : Kept v (attempts history) v.stage

section Leased

variable {name : String} {plane : ControlPlane} {registration : Registration}
  {used : List Identity} {loops : Loops} {node : Node}

theorem Leased.setHeartbeat (h : Leased name plane registration used loops node)
    (slot : LoopSlot Heartbeat)
    (hversion : ∀ next, slot = .running next → next.version = node.leaseVersion)
    (hloss : slot.loss? = none) :
    Leased name plane registration used { loops with heartbeat := slot } node :=
  { h with version_eq := hversion, heartbeat_loss := hloss }

theorem Leased.setStatusSync (h : Leased name plane registration used loops node)
    (slot : LoopSlot StatusSync) (hloss : slot.loss? = none) :
    Leased name plane registration used { loops with statusSync := slot } node :=
  { h with statusSync_loss := hloss }

theorem Leased.join_lost (h : Leased name plane registration used loops node) :
    loops.join.lost = none := by
  rw [loops.join_eq]
  simp only [h.lost_eq, h.heartbeat_loss, h.statusSync_loss, Option.or_none]

theorem Leased.join (h : Leased name plane registration used loops node) :
    Leased name plane registration used loops.join node := by
  have hlost := h.join_lost
  rw [loops.join_eq] at hlost ⊢
  exact {
    holds := h.holds
    version_eq := fun next hnext => h.version_eq next (noted_eq_running hnext)
    identity_eq := h.identity_eq
    lease_eq := h.lease_eq
    lost_eq := hlost
    heartbeat_loss := loss?_noted _
    statusSync_loss := loss?_noted _ }

end Leased

variable {setup : AgentSetup} {a : Agent} {site : Site} {history : List Deed}

/-- A renewal that is settled moves the versions of both sides together, or none of them. -/
theorem Leased.renewed {loops : Loops} {h : Heartbeat} {call : Call}
    {result : Except CallError Nat} {settled : Site} {node : Node} {used : List Identity}
    (hleased : Leased a.name site.plane a.tracker.registration used loops node)
    (hplane : site.plane.IsHarmless) (hslot : loops.heartbeat = .running h)
    (hidentity : h.identity = loops.identity)
    (hsettle : site.settleRenew call h.identity h.version = (result, settled)) :
    settled.plane.IsHarmless ∧ (Deed.ended .renewLease h.identity (failure? result)).IsHarmless ∧
      ∃ after, Leased a.name settled.plane (Heartbeat.report result a.tracker settled).1.registration
        used { loops with heartbeat := slotOf (h.afterAttempt result settled.now) } after := by
  have hholds := hleased.holds
  have hversion := hleased.version_eq h hslot
  rw [hidentity, hversion] at hsettle
  obtain ⟨hharmless, hcases⟩ :=
    Site.settleRenew_harmless hplane hholds.find?_eq hholds.uid_eq hsettle
  refine ⟨hharmless, ?_⟩
  rw [Heartbeat.report_registration]
  rcases hcases with ⟨error, rfl, hkept, hfind⟩ | ⟨version, renewed, rfl, hfind, huid, hgranted⟩
  · refine ⟨by rintro _ ⟨rfl⟩; exact hkept, node, ?_⟩
    rcases h.afterAttempt_cases (.error error) settled.now with
      ⟨_, _, hok, -⟩ | ⟨_, next, -, -, hnext, -, hsame⟩ | ⟨lost, herror, hlost, -⟩
    · exact nomatch hok
    · have hmoved : Leased a.name settled.plane a.tracker.registration used loops node :=
        { hleased with holds := { hholds with find?_eq := hfind } }
      rw [hnext]
      refine hmoved.setHeartbeat (.running next) ?_ rfl
      rintro _ ⟨rfl⟩
      exact hsame.trans hversion
    · obtain rfl : error = lost := Except.error.inj herror
      simp [hkept] at hlost
  · refine ⟨nofun, renewed, ?_⟩
    have hmoved : Holds a.name settled.plane used loops.identity renewed :=
      { hholds with find?_eq := hfind, uid_eq := huid }
    obtain ⟨lease, hlease, -⟩ := Option.map_eq_some_iff.1 hleased.lease_eq
    exact {
      holds := hmoved
      version_eq := by
        rintro _ ⟨rfl⟩
        exact hgranted.symm
      identity_eq := hleased.identity_eq
      lease_eq := by simp [Tracker.recordRenewal, hlease, hgranted]
      lost_eq := hleased.lost_eq
      heartbeat_loss := rfl
      statusSync_loss := hleased.statusSync_loss }

theorem Leased.published {loops : Loops} {s : StatusSync} {flight : Publication}
    {result : Except CallError Unit} {settled : Site} {node : Node} {used : List Identity}
    (hleased : Leased a.name site.plane a.tracker.registration used loops node)
    (hplane : site.plane.IsHarmless) (hidentity : s.identity = loops.identity)
    (hsettle : site.settlePublish flight.call s.identity flight.snapshot = (result, settled)) :
    settled.plane.IsHarmless ∧
      (Deed.ended .publishStatus s.identity (failure? result)).IsHarmless ∧
      ∃ after, Leased a.name settled.plane
        (StatusSync.report result flight.snapshot a.tracker settled).1.registration used
        { loops with statusSync := slotOf (s.afterPublication flight result settled.now) } after := by
  have hholds := hleased.holds
  rw [hidentity] at hsettle
  obtain ⟨hharmless, hkept, after, hfind, huid, hversion⟩ :=
    Site.settlePublish_harmless hplane hholds.find?_eq hholds.uid_eq hsettle
  obtain ⟨hregistered, hlease⟩ :=
    StatusSync.report_registration result flight.snapshot a.tracker settled
  refine ⟨hharmless, Deed.isHarmless_ended hkept, after, ?_⟩
  have hmoved : Leased a.name settled.plane
      (StatusSync.report result flight.snapshot a.tracker settled).1.registration used loops
      after :=
    { hleased with
      holds := { hholds with find?_eq := hfind, uid_eq := huid }
      version_eq := fun h hslot => (hleased.version_eq h hslot).trans hversion.symm
      identity_eq := hregistered.trans hleased.identity_eq
      lease_eq := by rw [hlease, hleased.lease_eq, hversion] }
  rcases s.afterPublication_cases flight result settled.now with
    ⟨next, hnext, -, -⟩ | ⟨error, herror, hlost, -⟩
  · rw [hnext]
    exact hmoved.setStatusSync (.running next) rfl
  · simp [hkept error herror] at hlost

theorem Secure.step {deed? : Option Deed} {after : View} (h : Secure (a.view site) history)
    (hcoherent : Coherent setup (a.view site) history) (hturn : Turn a site deed? after) :
    Secure after (deed?.toList ++ history) := by
  have hkept : Kept (a.view site) (attempts history) a.stage := h.kept
  have hfits : Fits setup.name site.drawn history a.stage := hcoherent.fits
  have hname : setup.name = a.name := (congrArg AgentSetup.name hcoherent.setup_eq).symm
  have hrunning {loops : Loops} (hstage : a.stage = .running loops) :
      ∃ node, Leased a.name site.plane a.tracker.registration (attempts history) loops node := by
    rw [hstage] at hkept
    exact hkept
  -- A call that begins says nothing of a loss.
  have hbegan (operation : Operation) (identity : Identity) :
      ∀ deed ∈ Deed.began operation identity :: history, deed.IsHarmless :=
    List.forall_mem_cons.2 ⟨trivial, h.harmless⟩
  cases hturn with
  | rested => exact h
  | ended hstage =>
      refine ⟨h.plane, h.harmless, ?_⟩
      rcases hstage with rfl | rfl <;> trivial
  | attempted hstage hidentity => exact ⟨h.plane, hbegan _ _, trivial⟩
  | repeated hstage => exact ⟨h.plane, hbegan _ _, trivial⟩
  | @granted attempt call version settled renewedAt anchor hstage hsettle =>
      rw [hstage] at hfits
      obtain ⟨-, hattempt, hmem⟩ := hfits
      obtain ⟨hharmless, ⟨error, herror, -⟩ | ⟨granted, node, hgranted, hfind, huid, hversion⟩⟩ :=
        Site.settleRegister_harmless h.plane hsettle
      · exact nomatch herror
      · obtain rfl : version = granted := Except.ok.inj hgranted
        refine ⟨hharmless, List.forall_mem_cons.2 ⟨nofun, h.harmless⟩, node, ?_⟩
        exact {
          holds := ⟨hattempt.trans hname, hmem, hfind, huid⟩
          version_eq := by
            rintro _ ⟨rfl⟩
            exact hversion.symm
          identity_eq := rfl
          lease_eq := congrArg some hversion.symm
          lost_eq := rfl
          heartbeat_loss := rfl
          statusSync_loss := rfl }
  | refused hstage hsettle =>
      obtain ⟨hharmless, ⟨error, herror, hintact⟩ | ⟨version, node, hgranted, -⟩⟩ :=
        Site.settleRegister_harmless h.plane hsettle
      · refine ⟨hharmless, List.forall_mem_cons.2 ⟨?_, h.harmless⟩, trivial⟩
        rintro _ ⟨rfl⟩
        exact Except.error.inj herror ▸ hintact
      · exact nomatch hgranted
  | joined hstage =>
      obtain ⟨node, hleased⟩ := hrunning hstage
      exact ⟨h.plane, h.harmless, node, hleased.join⟩
  | lost hstage hlost =>
      obtain ⟨node, hleased⟩ := hrunning hstage
      simp [hleased.join_lost] at hlost
  | leaving hstage =>
      obtain ⟨node, hleased⟩ := hrunning hstage
      exact ⟨h.plane, hbegan _ _, node, hleased.holds⟩
  | @left identity call result settled hstage hsettle =>
      rw [hstage] at hkept
      obtain ⟨node, hholds⟩ := hkept
      obtain ⟨hharmless, hintact⟩ :=
        Site.settleDeregister_harmless h.plane hholds.find?_eq hholds.uid_eq hsettle
      exact ⟨hharmless,
        List.forall_mem_cons.2 ⟨Deed.isHarmless_ended hintact, h.harmless⟩, trivial⟩
  | heartbeatHalted hstage =>
      obtain ⟨node, hleased⟩ := hrunning hstage
      exact ⟨h.plane, h.harmless, node, hleased.setHeartbeat _ nofun rfl⟩
  | @renewing loops loop call hstage hslot =>
      obtain ⟨node, hleased⟩ := hrunning hstage
      refine ⟨h.plane, hbegan _ _, node, hleased.setHeartbeat _ ?_ rfl⟩
      rintro _ ⟨rfl⟩
      exact hleased.version_eq loop hslot
  | @renewed loops loop call result settled hstage hslot hsettle =>
      obtain ⟨node, hleased⟩ := hrunning hstage
      rw [hstage] at hfits
      have hworking : Working loops history := hfits
      obtain ⟨hharmless, hintact, hafter⟩ :=
        Leased.renewed hleased h.plane hslot (hworking.heartbeat loop hslot) hsettle
      exact ⟨hharmless, List.forall_mem_cons.2 ⟨hintact, h.harmless⟩, hafter⟩
  | statusSyncHalted hstage =>
      obtain ⟨node, hleased⟩ := hrunning hstage
      exact ⟨h.plane, h.harmless, node, hleased.setStatusSync _ rfl⟩
  | @ticked loops loop next hstage hslot hidentity =>
      obtain ⟨node, hleased⟩ := hrunning hstage
      cases next.flight with
      | none => exact ⟨h.plane, h.harmless, node, hleased.setStatusSync _ rfl⟩
      | some flight => exact ⟨h.plane, hbegan _ _, node, hleased.setStatusSync _ rfl⟩
  | @published loops loop flight result settled hstage hslot hsettle =>
      obtain ⟨node, hleased⟩ := hrunning hstage
      rw [hstage] at hfits
      have hworking : Working loops history := hfits
      obtain ⟨hharmless, hintact, hafter⟩ :=
        Leased.published hleased h.plane (hworking.statusSync loop hslot) hsettle
      exact ⟨hharmless, List.forall_mem_cons.2 ⟨hintact, h.harmless⟩, hafter⟩

/-- An event that spares the node of an agent leaves it held. -/
theorem Holds.happen {name : String} {plane : ControlPlane} {used : List Identity}
    {identity : Identity} {node : Node} (h : Holds name plane used identity node)
    {event : ControlPlane.Event}
    (hspares : ∀ other ∈ used, ControlPlane.Spares name other.uid event) :
    Holds name (plane.happen event).2 used identity node := by
  have hspared := hspares identity h.mem_used
  rw [← h.uid_eq, ← h.name_eq] at hspared
  exact { h with find?_eq := ControlPlane.happen_find? h.find?_eq hspared }

theorem Secure.move {r : Recorded} (h : Secure (r.agent.view r.site) r.history)
    (hcoherent : Coherent setup (r.agent.view r.site) r.history) {move : Move}
    (hundisturbed : r.IsUndisturbedBy move) :
    Secure ((r.move move).agent.view (r.move move).site) (r.move move).history := by
  cases move with
  | act actor => exact h.step hcoherent (r.agent.act_turn r.site actor)
  | stop =>
      simp only [Recorded.move, view_stop]
      exact h
  | submit workload request => exact h
  | release workload =>
      simp only [Recorded.move, view_release]
      exact h
  | wait instant => exact ⟨h.plane, h.harmless, h.kept⟩
  | plane event =>
      obtain ⟨hqueued, hspares⟩ := hundisturbed
      refine ⟨?_, h.harmless, ?_⟩
      · intro fault hmem
        rcases ControlPlane.mem_faults_of_happen hmem with
          hbefore | ⟨operation, count, error, hevent, rfl⟩
        · exact h.plane fault hbefore
        · exact hqueued operation count error hevent
      · have hkept : Kept (r.agent.view r.site) (attempts r.history) r.agent.stage := h.kept
        change Kept _ (attempts r.history) r.agent.stage
        cases hstage : r.agent.stage with
        | running loops =>
            rw [hstage] at hkept
            obtain ⟨node, hleased⟩ := hkept
            exact ⟨node, { hleased with holds := hleased.holds.happen hspares }⟩
        | deregistering identity call =>
            rw [hstage] at hkept
            obtain ⟨node, hholds⟩ := hkept
            exact ⟨node, hholds.happen hspares⟩
        | _ => trivial
  | control plane => exact hundisturbed.elim
  | draw count => exact ⟨h.plane, h.harmless, h.kept⟩

theorem run_secure {moves : List Move} (hplane : site.plane.IsHarmless)
    (hundisturbed : IsUndisturbed setup site moves) :
    let r := run setup site moves
    Secure (r.agent.view r.site) r.history := by
  induction moves using List.reverseRecOn with
  | nil => exact ⟨hplane, nofun, trivial⟩
  | append_singleton moves move ih =>
      obtain ⟨hbefore, hlast⟩ := hundisturbed.of_concat
      rw [run_concat]
      exact (ih hbefore).move (run_coherent setup site moves) hlast

/-- An undisturbed agent never loses its identity.  In every run in which nobody else registers its
name, takes its lease over, removes its node or carries one of its uids, and no fault shows a loss,
all its registration calls carry one identity of generation zero, at most one of them succeeds, no
call tells it of a loss, and whenever both loops run, the control plane has a node of its name with
the uid of its identity and with the lease version that the heartbeat and the tracker know. -/
theorem identity_never_lost (setup : AgentSetup) (site : Site) (moves : List Move)
    (hplane : site.plane.IsHarmless) (hundisturbed : IsUndisturbed setup site moves) :
    let r := run setup site moves
    (∀ deed ∈ r.history, deed.IsHarmless) ∧
      (∃ identity : Identity, identity.generation = 0 ∧
        ∀ attempt ∈ attempts r.history, attempt = identity) ∧
      (registrations r.history).length ≤ 1 ∧
      ∀ loops h s, r.agent.stage = .running loops → loops.heartbeat = .running h →
        loops.statusSync = .running s →
        ∃ node lease, r.site.plane.nodes.find? setup.name = some node ∧
          node.uid = loops.identity.uid ∧
          r.agent.tracker.registration.identity = some loops.identity ∧
          r.agent.tracker.registration.lease = some lease ∧
          h.version = node.leaseVersion ∧ lease.version = node.leaseVersion := by
  intro r
  have hcoherent : Coherent setup (r.agent.view r.site) r.history := run_coherent setup site moves
  have hsecure : Secure (r.agent.view r.site) r.history := run_secure hplane hundisturbed
  obtain ⟨identity, honly⟩ := hcoherent.disciplined.exists_onlyIdentity hsecure.harmless
  refine ⟨hsecure.harmless, ⟨identity, honly.generation_eq, honly.eq_of_mem⟩,
    honly.registrations_le, ?_⟩
  intro loops h s hstage hheartbeat hstatus
  have hkept : Kept (r.agent.view r.site) (attempts r.history) r.agent.stage := hsecure.kept
  rw [hstage] at hkept
  obtain ⟨node, hleased⟩ := hkept
  obtain ⟨lease, hlease, hversion⟩ := Option.map_eq_some_iff.1 hleased.lease_eq
  have hname : loops.identity.name = setup.name :=
    hleased.holds.name_eq.trans (congrArg AgentSetup.name hcoherent.setup_eq)
  exact ⟨node, lease, hname ▸ hleased.holds.find?_eq, hleased.holds.uid_eq, hleased.identity_eq,
    hlease, hleased.version_eq h hheartbeat, hversion⟩

/-- The lease version that the heartbeat loop knows, while both loops run. -/
def knownVersion? (a : Agent) : Option Nat :=
  match a.stage with
  | .running ⟨_, _, .running h, .running _, _⟩ => some h.version
  | _ => none

/-- A renewal that fails because the control plane is away, and then one that succeeds. -/
theorem identity_never_lost_after_failed_renewal :
    let profile : Profile := ⟨1000, 1000, 0, 0, 10, ⟨0, 24⟩⟩
    let setup : AgentSetup := ⟨"node", profile, 10, ⟨10, 60, 1⟩, ⟨3, 1, 8, 5⟩, 30⟩
    let site : Site := .create (.empty 0) ⟨0, 0⟩
    let moves : List Move :=
      [.act .task, .act .task, .plane (.failNext .renewLease 1 (.unavailable "away"))] ++
        List.replicate 4 (.act .heartbeat)
    let identity : Identity := ⟨"node", Site.uid 0, 0⟩
    let r := run setup site moves
    site.plane.IsHarmless ∧ IsUndisturbed setup site moves ∧
      registrations r.history = [identity] ∧ (∀ deed ∈ r.history, deed.IsHarmless) ∧
      ∃ loops h s node lease, r.agent.stage = .running loops ∧ loops.heartbeat = .running h ∧
        loops.statusSync = .running s ∧ r.site.plane.nodes.find? "node" = some node ∧
        node.uid = loops.identity.uid ∧ r.agent.tracker.registration.lease = some lease ∧
        h.version = 2 ∧ node.leaseVersion = 2 ∧ lease.version = 2 := by
  intro profile setup site moves identity
  have hplane : site.plane.IsHarmless := fun _ hfault => absurd hfault List.not_mem_nil
  have hundisturbed : IsUndisturbed setup site moves := by
    intro earlier move later heq
    have hmem : move ∈ moves := by simp [heq]
    rcases List.mem_append.1 hmem with hfirst | hrenewed
    · simp only [List.mem_cons, List.not_mem_nil, or_false] at hfirst
      rcases hfirst with rfl | rfl | rfl
      · trivial
      · trivial
      · refine ⟨?_, fun _ _ => trivial⟩
        rintro _ _ _ ⟨rfl⟩
        rfl
    · obtain rfl := List.eq_of_mem_replicate hrenewed
      trivial
  have hregistered : registrations (run setup site moves).history = [identity] := by
    decide +kernel
  have hrun : (run setup site moves).agent.knownVersion? = some 2 := by decide +kernel
  have hlost := identity_never_lost setup site moves hplane hundisturbed
  -- From here on the run itself is of no interest.
  generalize run setup site moves = r at hregistered hrun hlost ⊢
  obtain ⟨hharmless, -, -, hrunning⟩ := hlost
  unfold knownVersion? at hrun
  split at hrun
  · rename_i held anchor h s lost hstage
    obtain ⟨node, lease, hfind, huid, -, hlease, hversion, hknown⟩ := hrunning _ h s hstage rfl rfl
    have htwo : h.version = 2 := Option.some.inj hrun
    have hnode : node.leaseVersion = 2 := hversion.symm.trans htwo
    exact ⟨hplane, hundisturbed, hregistered, hharmless, _, h, s, node, lease, hstage, rfl, rfl,
      hfind, huid, hlease, htwo, hnode, hknown.trans hnode⟩
  · cases hrun

end Agent

end NodeFleet
