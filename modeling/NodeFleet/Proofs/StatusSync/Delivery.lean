import NodeFleet.Proofs.Condition.Statuses
import NodeFleet.Proofs.StatusSync.Run

/-!
# What the control plane has of a node's status

A status loop skips a tick when the conditions are as it last published them with success.
What it goes by are the answers.  A publication that timed out may have been applied all
the same, and then the control plane has another status than the loop believes.

`Watched` keeps the publications of a loop with their results, and for each whether the
control plane applied it: an accepted one it did, a refused one it did not, and one that
timed out it may have or not.  The loop's belief is exact for the accepted ones
(`Informed.lastPublished_eq`).  So at a skipped tick the last accepted publication has the
statuses of that tick, and the control plane has them too unless the last publication that
it applied timed out.
-/

namespace NodeFleet.StatusSync

/-- A publication that has ended. -/
structure Delivery where
  snapshot : StatusSnapshot
  result : Except CallError Unit
  /-- Whether the control plane applied it. -/
  isApplied : Bool

/-- The end of a publication, where `reached` says whether the control plane applied it in case
that it timed out. -/
def Delivery.ofResult (snapshot : StatusSnapshot) (result : Except CallError Unit)
    (reached : Bool) : Delivery :=
  { snapshot
    result
    isApplied :=
      match result with
      | .ok () => true
      | .error (.timeout _) => reached
      | .error _ => false }

/-- The last publication that was accepted. -/
def accepted? (deliveries : List Delivery) : Option Delivery :=
  deliveries.find? fun d => d.result.isOk

/-- The last publication that the control plane applied. -/
def applied? (deliveries : List Delivery) : Option Delivery :=
  deliveries.find? Delivery.isApplied

/-- The status of a type of condition in a publication. -/
def statusOf (delivery? : Option Delivery) (type : ConditionType) : Option ConditionStatus :=
  delivery?.bind fun d => statusIn d.snapshot.conditions type

/-- A loop with what has become of its publications, the last first. -/
structure Watched where
  loop : StatusSync
  deliveries : List Delivery

namespace Watched

/-- The loop of an identity, with its first tick at `anchor`. -/
def start (identity : Identity) (policy : StatusPolicy) (retry : RetryPolicy)
    (anchor : Instant) : Watched :=
  { loop := .start identity policy retry anchor, deliveries := [] }

/-- Takes a step at any time; a publication may end in it. -/
def step (w : Watched) (around : Surroundings) (reached : Bool) : Except LoopExit Watched :=
  match (w.loop.act around.profile around.ledger around.tracker around.site).1 with
  | .error exit => .error exit
  | .ok loop =>
      let deliveries :=
        match w.loop.flight with
        | none => w.deliveries
        | some flight =>
            let (result, _) :=
              around.site.settlePublish flight.call w.loop.identity flight.snapshot
            .ofResult flight.snapshot result reached :: w.deliveries
      .ok { loop, deliveries }

/-- Takes steps one after the other, unless the loop ends. -/
def run (w : Watched) (around : Nat → Surroundings) (reached : Nat → Bool) :
    Nat → Except LoopExit Watched
  | 0 => .ok w
  | steps + 1 =>
      match w.run around reached steps with
      | .error exit => .error exit
      | .ok before => before.step (around steps) (reached steps)

end Watched

variable {policy : StatusPolicy} {w next : Watched} {around : Surroundings} {reached : Bool}

/-- A waking loop evaluates the conditions.  It begins a publication or skips the tick. -/
theorem Watched.step_of_idle (hidle : w.loop.flight = none)
    (hstep : w.step around reached = .ok next) :
    let snapshot := snapshotOf w.loop.policy around.profile around.ledger.snapshot
      w.loop.conditions around.site.wall
    let woken := w.loop.woken snapshot.conditions around.site.now
    next.deliveries = w.deliveries ∧
      ((∃ flight, next.loop = { woken with flight := some flight }) ∨
        (w.loop.shouldPublish snapshot.conditions around.site.now = false ∧
          next.loop = woken.sleepFrom around.site.now)) := by
  intro snapshot woken
  simp only [step, act, hidle] at hstep
  obtain rfl := Except.ok.inj hstep
  refine ⟨rfl, ?_⟩
  cases hwanted : w.loop.shouldPublish snapshot.conditions around.site.now with
  | true =>
      let flight : Publication := { call := around.site.beginCall w.loop.callLimit, snapshot }
      refine .inl ⟨flight, ?_⟩
      unfold tick
      exact congrArg Prod.fst (if_pos hwanted)
  | false =>
      refine .inr ⟨rfl, ?_⟩
      unfold tick
      exact congrArg Prod.fst (if_neg (Bool.eq_false_iff.1 hwanted))

/-- A publication that ends is what the loop compares with from then on, if it was accepted. -/
theorem Watched.step_of_flight {flight : Publication} (hflight : w.loop.flight = some flight)
    (hstep : w.step around reached = .ok next) :
    ∃ result, next.deliveries = .ofResult flight.snapshot result reached :: w.deliveries ∧
      next.loop.policy = w.loop.policy ∧
      next.loop.lastPublished =
        if result.isOk then some flight.snapshot.conditions else w.loop.lastPublished := by
  simp only [step, act, hflight] at hstep
  generalize around.site.settlePublish flight.call w.loop.identity flight.snapshot = settled
    at hstep
  obtain ⟨result, site⟩ := settled
  cases result with
  | ok _ =>
      obtain rfl := Except.ok.inj hstep
      exact ⟨.ok (), rfl, rfl, rfl⟩
  | error error =>
      simp only [afterPublication] at hstep
      split_ifs at hstep
      obtain rfl := Except.ok.inj hstep
      exact ⟨.error error, rfl, rfl, rfl⟩

/-! ## What the loop knows -/

/-- What a loop knows of its publications. -/
structure Informed (policy : StatusPolicy) (w : Watched) : Prop where
  policy_eq : w.loop.policy = policy
  /-- The loop compares with the last accepted publication. -/
  lastPublished_eq : w.loop.lastPublished =
    (accepted? w.deliveries).map fun d => d.snapshot.conditions
  /-- An accepted publication was applied. -/
  isApplied_of_isOk : ∀ d ∈ w.deliveries, d.result.isOk = true → d.isApplied = true
  /-- A publication that was applied was accepted or timed out. -/
  timeout_of_isApplied : ∀ d ∈ w.deliveries, d.isApplied = true → d.result.isOk = false →
    ∃ limit, d.result = .error (.timeout limit)

theorem start_informed (identity : Identity) (policy : StatusPolicy) (retry : RetryPolicy)
    (anchor : Instant) : Informed policy (.start identity policy retry anchor) where
  policy_eq := rfl
  lastPublished_eq := rfl
  isApplied_of_isOk := by simp [Watched.start]
  timeout_of_isApplied := by simp [Watched.start]

theorem Delivery.isApplied_ofResult {snapshot : StatusSnapshot} {result : Except CallError Unit}
    (hok : result.isOk = true) : (Delivery.ofResult snapshot result reached).isApplied = true := by
  cases result with
  | ok _ => rfl
  | error _ => exact absurd hok Bool.false_ne_true

theorem Delivery.timeout_ofResult {snapshot : StatusSnapshot} {result : Except CallError Unit}
    (happlied : (Delivery.ofResult snapshot result reached).isApplied = true)
    (herror : result.isOk = false) : ∃ limit, result = .error (.timeout limit) := by
  cases result with
  | ok _ => exact absurd herror.symm Bool.false_ne_true
  | error error =>
      cases error with
      | timeout limit => exact ⟨limit, rfl⟩
      | _ => exact absurd happlied Bool.false_ne_true

theorem Informed.step (h : Informed policy w) (hstep : w.step around reached = .ok next) :
    Informed policy next := by
  cases hflight : w.loop.flight with
  | none =>
      obtain ⟨hdeliveries, hloop⟩ := Watched.step_of_idle hflight hstep
      obtain ⟨hpolicy, hlast⟩ : next.loop.policy = w.loop.policy ∧
          next.loop.lastPublished = w.loop.lastPublished := by
        rcases hloop with ⟨flight, heq⟩ | ⟨-, heq⟩ <;> exact heq ▸ ⟨rfl, rfl⟩
      exact {
        policy_eq := hpolicy.trans h.policy_eq
        lastPublished_eq := by rw [hlast, hdeliveries, h.lastPublished_eq]
        isApplied_of_isOk := hdeliveries ▸ h.isApplied_of_isOk
        timeout_of_isApplied := hdeliveries ▸ h.timeout_of_isApplied }
  | some flight =>
      obtain ⟨result, hdeliveries, hpolicy, hlast⟩ := Watched.step_of_flight hflight hstep
      refine
        { policy_eq := hpolicy.trans h.policy_eq
          lastPublished_eq := ?_
          isApplied_of_isOk := ?_
          timeout_of_isApplied := ?_ }
      · rw [hlast, hdeliveries, h.lastPublished_eq]
        cases result <;> rfl
      · simp only [hdeliveries, List.mem_cons, forall_eq_or_imp]
        exact ⟨Delivery.isApplied_ofResult, h.isApplied_of_isOk⟩
      · simp only [hdeliveries, List.mem_cons, forall_eq_or_imp]
        exact ⟨Delivery.timeout_ofResult, h.timeout_of_isApplied⟩

theorem Informed.run (h : Informed policy w) {around : Nat → Surroundings}
    {reached : Nat → Bool} {steps : Nat} (hrun : w.run around reached steps = .ok next) :
    Informed policy next := by
  induction steps generalizing next with
  | zero =>
      obtain rfl := Except.ok.inj hrun
      exact h
  | succ steps ih =>
      simp only [Watched.run] at hrun
      cases hbefore : w.run around reached steps with
      | error exit => simp [hbefore] at hrun
      | ok before =>
          rw [hbefore] at hrun
          exact (ih hbefore).step hrun

/-- Once a publication was accepted one was applied, and if that is another one, it timed out. -/
theorem Informed.exists_applied (h : Informed policy w) {accepted : Delivery}
    (haccepted : accepted? w.deliveries = some accepted) :
    ∃ applied, applied? w.deliveries = some applied ∧
      (applied = accepted ∨ ∃ limit, applied.result = .error (.timeout limit)) := by
  obtain ⟨hok, later, earlier, hsplit, hlater⟩ :=
    List.find?_eq_some_iff_append.1 haccepted
  have happlied : accepted.isApplied = true :=
    h.isApplied_of_isOk accepted (List.mem_of_find?_eq_some haccepted) hok
  unfold applied?
  rw [hsplit, List.find?_append, List.find?_cons_of_pos happlied]
  cases hfind : later.find? Delivery.isApplied with
  | none => exact ⟨accepted, rfl, .inl rfl⟩
  | some applied =>
      have hmem : applied ∈ later := List.mem_of_find?_eq_some hfind
      have hrefused : applied.result.isOk = false := by simpa using hlater applied hmem
      have hdelivered : applied ∈ w.deliveries := hsplit ▸ List.mem_append_left _ hmem
      exact ⟨applied, rfl,
        .inr (h.timeout_of_isApplied applied hdelivered (List.find?_some hfind) hrefused)⟩

/-! ## Skipped ticks -/

/-- What is not to be published is as it was published last. -/
theorem exists_of_not_shouldPublish {s : StatusSync} {conditions : List NodeCondition}
    {now : Instant} (h : s.shouldPublish conditions now = false) :
    ∃ previous, s.lastPublished = some previous ∧ conditionsDiffer conditions previous = false := by
  unfold shouldPublish at h
  cases hsuccess : s.lastSuccess with
  | none => simp [hsuccess] at h
  | some last =>
      cases hlast : s.lastPublished with
      | none => simp [hsuccess, hlast] at h
      | some previous =>
          simp only [hsuccess, hlast, Bool.or_eq_false_iff] at h
          exact ⟨previous, rfl, h.1⟩

/-- A skipped tick finds the statuses that the control plane has, unless the last publication
that it applied timed out.  In every run, when the loop skips a tick, the last publication that
was accepted has for every type of condition the status evaluated at that tick, and so has the
last one that was applied if it did not end in a timeout. -/
theorem skipped_status_known_unless_timed_out (identity : Identity) (policy : StatusPolicy)
    (retry : RetryPolicy) (anchor : Instant) (around : Nat → Surroundings) (reached : Nat → Bool)
    {steps : Nat} {w next : Watched}
    (hrun : (Watched.start identity policy retry anchor).run around reached steps = .ok w)
    (hidle : w.loop.flight = none)
    (hstep : w.step (around steps) (reached steps) = .ok next)
    (hskipped : next.loop.flight = none) :
    let pressed := (around steps).ledger.snapshot.isPressed policy.pressureThreshold
    (∀ type, statusOf (accepted? w.deliveries) type = some (evaluate pressed type).status) ∧
      ((∃ applied limit, applied? w.deliveries = some applied ∧
          applied.result = .error (.timeout limit)) ∨
        ∀ type, statusOf (applied? w.deliveries) type = some (evaluate pressed type).status) := by
  intro pressed
  have hinformed := (start_informed identity policy retry anchor).run hrun
  obtain ⟨-, ⟨flight, hbegan⟩ | ⟨hunwanted, -⟩⟩ := Watched.step_of_idle hidle hstep
  · simp [hbegan] at hskipped
  · obtain ⟨previous, hprevious, hsame⟩ := exists_of_not_shouldPublish hunwanted
    rw [hinformed.lastPublished_eq] at hprevious
    obtain ⟨accepted, haccepted, rfl⟩ := Option.map_eq_some_iff.1 hprevious
    obtain ⟨applied, happlied, hwhich⟩ := hinformed.exists_applied haccepted
    have hstatus : ∀ type, statusIn accepted.snapshot.conditions type =
        some (evaluate pressed type).status := by
      intro type
      refine statusIn_of_not_conditionsDiffer hsame ?_
      rw [hinformed.policy_eq]
      exact statusIn_buildConditions _ _ _ type
    rw [haccepted, happlied]
    refine ⟨hstatus, ?_⟩
    rcases hwhich with rfl | ⟨limit, htimeout⟩
    · exact .inr hstatus
    · exact .inl ⟨applied, limit, rfl, htimeout⟩

/-- The tick after an accepted publication is skipped, and the control plane has its statuses. -/
theorem skipped_status_known_after_success :
    let identity : Identity := ⟨"node", "uid-0", 0⟩
    let policy : StatusPolicy := { minInterval := 10, maxInterval := 60, pressureThreshold := 1 }
    let retry : RetryPolicy := ⟨3, 1, 8, 5⟩
    let profile : Profile := ⟨1000, 1000, 0, 0, 10, ⟨0, 24⟩⟩
    let plane := ((ControlPlane.empty 0).register identity profile 0 ⟨0, 0⟩).2
    let around (step : Nat) : Surroundings :=
      { profile
        ledger := .empty profile.allocatable
        tracker := .create "node" 3
        site := { Site.create plane ⟨0, 0⟩ with now := 5 * step } }
    let pressed := (around 2).ledger.snapshot.isPressed policy.pressureThreshold
    ∃ w next, (Watched.start identity policy retry 0).run around (fun _ => false) 2 = .ok w ∧
      w.loop.flight = none ∧ w.step (around 2) false = .ok next ∧ next.loop.flight = none ∧
      ∀ type, statusOf (applied? w.deliveries) type = some (evaluate pressed type).status := by
  intro identity policy retry profile plane around pressed
  obtain ⟨w, next, hrun, hidle, hstep, hskipped, hok⟩ :
      ∃ w next, (Watched.start identity policy retry 0).run around (fun _ => false) 2 = .ok w ∧
        w.loop.flight = none ∧ w.step (around 2) false = .ok next ∧ next.loop.flight = none ∧
        ∀ d ∈ w.deliveries, d.result = .ok () := by
    refine ⟨_, _, rfl, rfl, rfl, ?_, ?_⟩
    · decide +kernel
    · exact List.forall_mem_singleton.2 rfl
  refine ⟨w, next, hrun, hidle, hstep, hskipped, ?_⟩
  obtain ⟨-, ⟨applied, limit, happlied, htimeout⟩ | hknown⟩ :=
    skipped_status_known_unless_timed_out identity policy retry 0 around (fun _ => false)
      hrun hidle hstep hskipped
  · have haccepted := hok applied (List.mem_of_find?_eq_some happlied)
    simp [htimeout] at haccepted
  · exact hknown

/-- The belief is wrong where an answer was lost.  The status without pressure is published, the
one with pressure is published but its answer is lost, and then the tick without pressure is
skipped: the control plane goes on with the status with pressure. -/
theorem skipped_after_lost_answer :
    let identity : Identity := ⟨"node", "uid-0", 0⟩
    let policy : StatusPolicy := { minInterval := 10, maxInterval := 60, pressureThreshold := 1 }
    let retry : RetryPolicy := ⟨3, 1, 8, 5⟩
    let profile : Profile := ⟨1000, 1000, 0, 0, 10, ⟨0, 24⟩⟩
    let plane := ((ControlPlane.empty 0).register identity profile 0 ⟨0, 0⟩).2
    let free := Ledger.empty profile.allocatable
    let full := (free.tryAdmit "workload" ⟨0, 1000, 0⟩ ⟨0, 0⟩).2
    let around (step : Nat) : Surroundings :=
      { profile
        ledger := if step = 2 then full else free
        tracker := .create "node" 3
        site := { Site.create (plane.setLatency (if step = 2 then 6 else 0)) ⟨0, 0⟩ with
          now := [0, 0, 10, 15, 20].getD step 20 } }
    ∃ w next, (Watched.start identity policy retry 0).run around (fun _ => true) 4 = .ok w ∧
      w.loop.flight = none ∧ w.step (around 4) true = .ok next ∧ next.loop.flight = none ∧
      statusOf (applied? w.deliveries) .memoryPressure = some .yes ∧
      statusIn next.loop.conditions .memoryPressure = some .no := by
  refine ⟨_, _, rfl, ?_, rfl, ?_, ?_, ?_⟩
  · decide +kernel
  · decide +kernel
  · decide +kernel
  · decide +kernel

end NodeFleet.StatusSync
