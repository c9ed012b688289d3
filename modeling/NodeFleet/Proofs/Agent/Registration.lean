import NodeFleet.Proofs.Agent.Cancellation
import NodeFleet.Proofs.Agent.Pace
import NodeFleet.Proofs.Backoff.Delay
import NodeFleet.Proofs.Config.Options

/-!
# Registration is never hot

Between two calls to register an agent waits: for the delay of the attempt after a call that
failed, and for the delay of the re-registration backoff after a loss.  Both delays are at
least the base, so the calls are (`Spaced.spaced`).  The backoff of an attempt starts afresh
with every identity; the other one lives as long as the agent, and `lossesInRow` reads off
the past how many failures it has counted.

`Spaced` is the invariant.  The instants at which calls began lie far enough back from the
wake of the stage that the task waits in, and nothing but the wake lets the task call again
(`wake_le_of_allows`).
-/

namespace NodeFleet

namespace Agent

/-! ## What a chronology tells -/

/-- The instants at which calls to register began. -/
def registerStarts (history : Chronology) : List Instant :=
  history.filterMap fun
    | (time, .began .register _) => some time
    | _ => none

/-- When a registration last succeeded. -/
def registeredAt? : Chronology → Option Instant
  | [] => none
  | (time, .ended .register _ none) :: _ => some time
  | _ :: earlier => registeredAt? earlier

/-- Whether the identity that is lost at an instant was registered for a renewal interval. -/
def hasLasted (renew : Duration) (earlier : Chronology) (time : Instant) : Bool :=
  (registeredAt? earlier).any fun registered => renew ≤ time - registered

/-- How many losses there were in a row: back to the last one of an identity that had lasted, this
one included. -/
def lossesInRow (renew : Duration) : Chronology → Nat
  | [] => 0
  | (time, .lost _) :: earlier =>
      if hasLasted renew earlier time then 1 else lossesInRow renew earlier + 1
  | _ :: earlier => lossesInRow renew earlier

/-- The wait after a loss: the losses in a row before it count as failures, unless the identity had
lasted. -/
def lossWait (setup : AgentSetup) (earlier : Chronology) (time : Instant) : Duration :=
  Backoff.delayAfter setup.retry.backoffBase setup.retry.backoffMax
    (if hasLasted setup.renewInterval earlier time then 0
      else lossesInRow setup.renewInterval earlier)

section Readings

variable {renew : Duration} {time : Instant} {deed : Deed} {earlier : Chronology}

theorem readings_of_isQuiet (time : Instant) (renew : Duration)
    (earlier : Chronology) (hquiet : deed.isQuiet = true) :
    registerStarts ((time, deed) :: earlier) = registerStarts earlier ∧
      registeredAt? ((time, deed) :: earlier) = registeredAt? earlier ∧
      lossesInRow renew ((time, deed) :: earlier) = lossesInRow renew earlier := by
  cases deed with
  | began operation identity =>
      cases operation with
      | register => exact absurd hquiet Bool.false_ne_true
      | _ => exact ⟨rfl, rfl, rfl⟩
  | ended operation identity failure =>
      cases operation with
      | register => exact absurd hquiet Bool.false_ne_true
      | _ => exact ⟨rfl, rfl, rfl⟩
  | lost identity => exact absurd hquiet Bool.false_ne_true

theorem mem_of_mem_registerStarts {start : Instant} (h : start ∈ registerStarts earlier) :
    ∃ entry ∈ earlier, entry.1 = start := by
  obtain ⟨⟨time, deed⟩, hentry, hstart⟩ := List.mem_filterMap.1 h
  refine ⟨_, hentry, ?_⟩
  split at hstart
  · rename_i heq
    rw [heq]
    exact Option.some.inj hstart
  · exact nomatch hstart

theorem lossesInRow_cons_of_not_lost (h : ∀ identity, deed ≠ .lost identity) :
    lossesInRow renew ((time, deed) :: earlier) = lossesInRow renew earlier := by
  cases deed with
  | lost identity => exact absurd rfl (h identity)
  | _ => rfl

theorem lossesInRow_append {between : Chronology}
    (h : ∀ entry ∈ between, ∀ identity, entry.2 ≠ .lost identity) :
    lossesInRow renew (between ++ earlier) = lossesInRow renew earlier := by
  induction between with
  | nil => rfl
  | cons entry rest ih =>
      obtain ⟨hentry, hrest⟩ := List.forall_mem_cons.1 h
      rw [List.cons_append, lossesInRow_cons_of_not_lost hentry, ih hrest]

/-- An identity that is held is the one that was registered last. -/
theorem exists_registeredAt {identity : Identity}
    (h : standing (earlier.map Prod.snd) = .holding identity) :
    ∃ registered, registeredAt? earlier = some registered ∧
      (registered, .ended .register identity none) ∈ earlier := by
  induction earlier with
  | nil => exact nomatch h
  | cons entry rest ih =>
      obtain ⟨time, deed⟩ := entry
      have hearlier (hrest : standing (rest.map Prod.snd) = .holding identity)
          (hsame : registeredAt? ((time, deed) :: rest) = registeredAt? rest) :
          ∃ registered, registeredAt? ((time, deed) :: rest) = some registered ∧
            (registered, .ended .register identity none) ∈ (time, deed) :: rest := by
        obtain ⟨registered, hregistered, hmem⟩ := ih hrest
        exact ⟨registered, hsame.trans hregistered, List.mem_cons_of_mem _ hmem⟩
      cases deed with
      | began operation other =>
          cases operation with
          | register => exact nomatch h
          | _ => exact hearlier h rfl
      | ended operation other failure =>
          cases operation with
          | register =>
              cases failure with
              | none =>
                  obtain rfl : other = identity := Standing.holding.inj h
                  exact ⟨time, rfl, List.mem_cons_self⟩
              | some error => cases error <;> exact nomatch h
          | _ => exact hearlier h rfl
      | lost other => exact nomatch h

end Readings

/-! ## Waits -/

theorem base_le_lossWait (setup : AgentSetup) (earlier : Chronology) (time : Instant) :
    setup.retry.backoffBase ≤ lossWait setup earlier time :=
  Backoff.base_le_delayAfter _ _ _

/-- Losses in a row wait longer and longer. -/
theorem lossWait_mono {setup : AgentSetup} {between earliest : Chronology}
    {before time : Instant} {other : Identity}
    (hbetween : ∀ entry ∈ between, ∀ identity, entry.2 ≠ .lost identity)
    (hshort : hasLasted setup.renewInterval (between ++ (before, .lost other) :: earliest) time =
      false) :
    lossWait setup earliest before ≤
      lossWait setup (between ++ (before, .lost other) :: earliest) time := by
  unfold lossWait
  apply Backoff.delayAfter_mono
  rw [hshort, lossesInRow_append hbetween, if_neg Bool.false_ne_true, lossesInRow]
  split_ifs
  · exact Nat.zero_le _
  · exact Nat.le_succ _

/-- What the re-registration backoff has counted. -/
def countedBackoff (setup : AgentSetup) (history : Chronology) : Backoff :=
  { Backoff.start setup.retry.backoffBase setup.retry.backoffMax with
    failures := min (lossesInRow setup.renewInterval history) Backoff.maxFailures }

/-- Whether a backoff gives delays of at least the base. -/
def Delays (setup : AgentSetup) (backoff : Backoff) : Prop :=
  backoff.base = setup.retry.backoffBase ∧ backoff.base ≤ backoff.cap

theorem Delays.le_delay {setup : AgentSetup} {backoff : Backoff} (h : Delays setup backoff) :
    setup.retry.backoffBase ≤ backoff.delay :=
  h.1 ▸ Backoff.base_le_delay h.2

theorem delays_fresh {setup : AgentSetup} {a : Agent} (hsetup : a.setup = setup) :
    Delays setup a.freshBackoff := by
  subst hsetup
  exact ⟨rfl, Nat.le_max_right _ _⟩

/-- What an agent that is set up so, and has done so much, waits for in a stage. -/
def Waits (setup : AgentSetup) (history : Chronology) : Stage → Prop
  | .created => history = []
  | .waiting _ wake =>
      (∃ time identity earlier, history = (time, .lost identity) :: earlier ∧
        wake = time + lossWait setup earlier time) ∧
      ∀ start ∈ registerStarts history, start + setup.retry.backoffBase ≤ wake
  | .registering attempt _ => Delays setup attempt.backoff
  | .retrying attempt wake =>
      Delays setup attempt.backoff ∧
      (∃ time identity failure earlier,
        history = (time, .ended .register identity failure) :: earlier) ∧
      ∀ start ∈ registerStarts history, start + setup.retry.backoffBase ≤ wake
  | .running loops => registeredAt? history = some loops.anchor
  | _ => True

/-- Whether the calls that follow a loss begin when its wait is over, and at once if whatever is
due happens. -/
def Resumes (setup : AgentSetup) (timely : Prop) (history : Chronology) : Prop :=
  ∀ later next fresh time identity earlier,
    history = later ++ (next, .began .register fresh) :: (time, .lost identity) :: earlier →
      time + lossWait setup earlier time ≤ next ∧
        (timely → next = time + lossWait setup earlier time)

theorem Resumes.cons {setup : AgentSetup} {timely : Prop} {history : Chronology}
    (h : Resumes setup timely history) {now : Instant} {deed : Deed}
    (hnext : ∀ fresh time identity earlier, deed = .began .register fresh →
      history = (time, .lost identity) :: earlier →
        time + lossWait setup earlier time ≤ now ∧
          (timely → now = time + lossWait setup earlier time)) :
    Resumes setup timely ((now, deed) :: history) := by
  intro later next fresh time identity earlier heq
  cases later with
  | nil =>
      obtain ⟨hentry, hhistory⟩ := List.cons.inj heq
      obtain ⟨rfl, hdeed⟩ := Prod.mk.inj hentry
      exact hnext fresh time identity earlier hdeed hhistory
  | cons first later => exact h later next fresh time identity earlier (List.cons.inj heq).2

/-! ## The invariant -/

/-- The calls to register are spaced, and the next one will be. -/
structure Spaced (setup : AgentSetup) (timely : Prop) (c : Clocked) : Prop where
  setup_eq : c.agent.setup = setup
  past : ∀ entry ∈ c.history, entry.1 ≤ c.site.now
  spaced : (registerStarts c.history).Pairwise fun later earlier =>
    earlier + setup.retry.backoffBase ≤ later
  resumes : Resumes setup timely c.history
  backoff : c.agent.reregistration = countedBackoff setup c.history
  waits : Waits setup c.history c.agent.stage
  /-- The wait after a loss has not been passed over. -/
  awake : timely → c.agent.isCancelled = false → ∀ generation wake,
    c.agent.stage = .waiting generation wake → c.site.now ≤ wake

/-- A task that waits calls only once its wait is over. -/
theorem wake_le_of_allows {a : Agent} {site : Site} {actor : Actor} (wake : Instant)
    (hallowed : (a.due? actor).any (· ≤ site.now) = true) (hdeed : a.deed? actor site ≠ none)
    (hcancelled : a.isCancelled = false)
    (hstage : (∃ generation, a.stage = .waiting generation wake) ∨
      ∃ attempt, a.stage = .retrying attempt wake) : wake ≤ site.now := by
  cases actor with
  | task =>
      rcases hstage with ⟨generation, hstage⟩ | ⟨attempt, hstage⟩ <;>
        simpa [due?, taskDue?, hstage, unlessCancelled, hcancelled] using hallowed
  | stopper => exact absurd (a.deed?_stopper site) hdeed
  | _ => rcases hstage with ⟨generation, hstage⟩ | ⟨attempt, hstage⟩ <;>
      simp [due?, hstage] at hallowed

section Moves

variable {setup : AgentSetup} {timely : Prop} {c : Clocked} {later : Agent} {site : Site}

/-- What does not bear on the waits keeps the invariant. -/
theorem Spaced.keep (h : Spaced setup timely c) (hsetup : later.setup = c.agent.setup)
    (hstage : later.stage = c.agent.stage)
    (hbackoff : later.reregistration = c.agent.reregistration)
    (hcancelled : later.isCancelled = false → c.agent.isCancelled = false)
    (hnow : site.now = c.site.now) : Spaced setup timely ⟨later, site, c.history⟩ where
  setup_eq := hsetup.trans h.setup_eq
  past entry hentry := (h.past entry hentry).trans_eq hnow.symm
  spaced := h.spaced
  resumes := h.resumes
  backoff := hbackoff.trans h.backoff
  waits := by
    rw [hstage]
    exact h.waits
  awake htimely hkept generation wake hwaiting := by
    rw [hnow]
    exact h.awake htimely (hcancelled hkept) generation wake (hstage.symm.trans hwaiting)

theorem Spaced.wait (h : Spaced setup timely c) {instant : Instant}
    (htimely : timely → c.IsTimely (.wait instant)) :
    Spaced setup timely ⟨c.agent, c.site.advanceTo instant, c.history⟩ where
  setup_eq := h.setup_eq
  past entry hentry := (h.past entry hentry).trans (Nat.le_max_left _ _)
  spaced := h.spaced
  resumes := h.resumes
  backoff := h.backoff
  waits := h.waits
  awake ht hkept generation wake hwaiting := by
    have hawake := h.awake ht hkept generation wake hwaiting
    have hdue : c.agent.due? .task = some wake := by
      have hstage : c.agent.stage = .waiting generation wake := hwaiting
      have hgoes : c.agent.isCancelled = false := hkept
      simp [due?, taskDue?, hstage, unlessCancelled, hgoes]
    have hinstant : instant ≤ max wake c.site.now := htimely ht instant rfl .task wake hdue
    exact Nat.max_le.2 ⟨hawake, hinstant.trans (Nat.max_le.2 ⟨le_rfl, hawake⟩)⟩

/-- A deed that is no part of a registration, or none. -/
theorem Spaced.quiet (h : Spaced setup timely c) {deed : Option Deed}
    (hquiet : ∀ d ∈ deed, d.isQuiet = true) (hsetup : later.setup = c.agent.setup)
    (hbackoff : later.reregistration = c.agent.reregistration)
    (hnow : site.now = c.site.now) (hstage : ∀ history, registeredAt? history =
      registeredAt? c.history → Waits setup history later.stage)
    (hwaiting : ∀ generation wake, later.stage ≠ .waiting generation wake) :
    Spaced setup timely
      ⟨later, site, deed.toList.map (fun d => (c.site.now, d)) ++ c.history⟩ := by
  cases deed with
  | none =>
      exact ⟨hsetup.trans h.setup_eq, fun entry hentry => (h.past entry hentry).trans_eq hnow.symm,
        h.spaced, h.resumes, hbackoff.trans h.backoff, hstage _ rfl,
        fun _ _ generation wake heq => absurd heq (hwaiting generation wake)⟩
  | some deed =>
      have hdeed : deed.isQuiet = true := hquiet deed rfl
      obtain ⟨hstarts, hregistered, hlosses⟩ :=
        readings_of_isQuiet c.site.now setup.renewInterval c.history hdeed
      refine ⟨hsetup.trans h.setup_eq, ?_, ?_, ?_, ?_, hstage _ hregistered,
        fun _ _ generation wake heq => absurd heq (hwaiting generation wake)⟩
      · refine List.forall_mem_cons.2 ⟨hnow.ge, fun entry hentry => ?_⟩
        exact (h.past entry hentry).trans_eq hnow.symm
      · simp only [Option.toList, List.map_cons, List.map_nil, List.singleton_append, hstarts]
        exact h.spaced
      · apply h.resumes.cons
        rintro fresh time identity earlier rfl
        exact absurd hdeed Bool.false_ne_true
      · rw [hbackoff, h.backoff, countedBackoff, countedBackoff]
        simp only [Option.toList, List.map_cons, List.map_nil, List.singleton_append, hlosses]

/-- The task calls once its wait is over. -/
theorem Spaced.call (h : Spaced setup timely c) {fresh : Identity}
    {attempt : RegistrationAttempt} {call : Call} (hsetup : later.setup = c.agent.setup)
    (hbackoff : later.reregistration = c.agent.reregistration)
    (hnow : site.now = c.site.now) (hlater : later.stage = .registering attempt call)
    (hdelays : Delays setup attempt.backoff)
    (hover : ∀ start ∈ registerStarts c.history,
      start + setup.retry.backoffBase ≤ c.site.now)
    (hresumes : ∀ time identity earlier, c.history = (time, .lost identity) :: earlier →
      time + lossWait setup earlier time ≤ c.site.now ∧
        (timely → c.site.now = time + lossWait setup earlier time)) :
    Spaced setup timely ⟨later, site, (c.site.now, .began .register fresh) :: c.history⟩ where
  setup_eq := hsetup.trans h.setup_eq
  past := List.forall_mem_cons.2
    ⟨hnow.ge, fun entry hentry => (h.past entry hentry).trans_eq hnow.symm⟩
  spaced := List.pairwise_cons.2 ⟨hover, h.spaced⟩
  resumes := h.resumes.cons fun _ time identity earlier _ => hresumes time identity earlier
  backoff := hbackoff.trans h.backoff
  waits := by
    rw [hlater]
    exact hdelays
  awake _ _ generation wake hwaiting := nomatch hlater.symm.trans hwaiting

/-- A call is answered or given up. -/
theorem Spaced.settled (h : Spaced setup timely c) {identity : Identity}
    {failure : Option CallError} (hsetup : later.setup = c.agent.setup)
    (hbackoff : later.reregistration = c.agent.reregistration)
    (hnow : site.now = c.site.now)
    (hwaits : Waits setup ((c.site.now, .ended .register identity failure) :: c.history)
      later.stage)
    (hwaiting : ∀ generation wake, later.stage ≠ .waiting generation wake) :
    Spaced setup timely
      ⟨later, site, (c.site.now, .ended .register identity failure) :: c.history⟩ where
  setup_eq := hsetup.trans h.setup_eq
  past := List.forall_mem_cons.2
    ⟨hnow.ge, fun entry hentry => (h.past entry hentry).trans_eq hnow.symm⟩
  spaced := h.spaced
  resumes := h.resumes.cons nofun
  backoff := hbackoff.trans h.backoff
  waits := hwaits
  awake _ _ generation wake heq := absurd heq (hwaiting generation wake)

/-- The backoff that a loss is waited out with, and the delay that it gives. -/
theorem Spaced.reregistrationBackoff_eq (h : Spaced setup timely c)
    (hcap : max setup.retry.backoffMax setup.retry.backoffBase ≤ Duration.max) {anchor : Instant}
    (hanchor : registeredAt? c.history = some anchor) (identity : Identity) :
    (c.agent.reregistrationBackoff anchor c.site.now).delay =
        lossWait setup c.history c.site.now ∧
      (c.agent.reregistrationBackoff anchor c.site.now).fail =
        countedBackoff setup ((c.site.now, .lost identity) :: c.history) := by
  have hlasted : hasLasted setup.renewInterval c.history c.site.now =
      decide (setup.renewInterval ≤ c.site.now - anchor) := by
    rw [hasLasted, hanchor, Option.any_some]
  unfold reregistrationBackoff lossWait
  simp only [h.setup_eq, h.backoff, hlasted, countedBackoff, lossesInRow, decide_eq_true_eq]
  split_ifs with hlong
  · exact ⟨Backoff.delay_counting hcap 0, Backoff.fail_counting _ _ 0⟩
  · exact ⟨Backoff.delay_counting hcap _, Backoff.fail_counting _ _ _⟩

theorem Spaced.lose (h : Spaced setup timely c)
    (hcap : max setup.retry.backoffMax setup.retry.backoffBase ≤ Duration.max)
    {identity : Identity} {loops : Loops} {generation : Nat}
    (hsetup : later.setup = c.agent.setup) (hnow : site.now = c.site.now)
    (hstage : c.agent.stage = .running loops)
    (hlater : later.stage = .waiting generation
      (c.site.now + (c.agent.reregistrationBackoff loops.anchor c.site.now).delay))
    (hbackoff : later.reregistration =
      (c.agent.reregistrationBackoff loops.anchor c.site.now).fail) :
    Spaced setup timely ⟨later, site, (c.site.now, .lost identity) :: c.history⟩ := by
  have hanchor : registeredAt? c.history = some loops.anchor := by
    have hwaits := h.waits
    rwa [hstage] at hwaits
  obtain ⟨hdelay, hfail⟩ := h.reregistrationBackoff_eq hcap hanchor identity
  rw [hdelay] at hlater
  refine ⟨hsetup.trans h.setup_eq, ?_, h.spaced, h.resumes.cons nofun, hbackoff.trans hfail,
    ?_, ?_⟩
  · exact List.forall_mem_cons.2
      ⟨hnow.ge, fun entry hentry => (h.past entry hentry).trans_eq hnow.symm⟩
  · rw [hlater]
    refine ⟨⟨_, _, _, rfl, rfl⟩, fun start hstart => ?_⟩
    obtain ⟨entry, hentry, rfl⟩ := mem_of_mem_registerStarts hstart
    have hpast : entry.1 ≤ c.site.now := by
      rcases List.mem_cons.1 hentry with rfl | hentry
      · exact le_rfl
      · exact h.past entry hentry
    exact Nat.add_le_add hpast (base_le_lossWait setup _ _)
  · intro _ _ other wake hwaiting
    obtain ⟨-, rfl⟩ := Stage.waiting.inj (hlater.symm.trans hwaiting)
    exact hnow.le.trans (Nat.le_add_right _ _)

end Moves

section Runs

variable {setup : AgentSetup} {timely : Prop} {c : Clocked}

theorem Spaced.act (h : Spaced setup timely c)
    (hcap : max setup.retry.backoffMax setup.retry.backoffBase ≤ Duration.max) {actor : Actor}
    (hallowed : (c.agent.due? actor).any (· ≤ c.site.now) = true) :
    Spaced setup timely
      ⟨(c.agent.act actor c.site).1, (c.agent.act actor c.site).2,
        (c.agent.deed? actor c.site).toList.map (fun deed => (c.site.now, deed)) ++
          c.history⟩ := by
  obtain ⟨hsetup, -, hcancelled⟩ := c.agent.act_keeps c.site actor
  have hnow : (c.agent.act actor c.site).2.now = c.site.now := c.agent.act_now c.site actor
  have hover (wake : Instant) := wake_le_of_allows wake hallowed
  have hpace := c.agent.act_pace actor c.site
  have hwaits := h.waits
  generalize c.agent.act actor c.site = after at hsetup hnow hcancelled hpace ⊢
  generalize c.agent.deed? actor c.site = deed at hover hpace ⊢
  cases hpace with
  | kept hstage hbackoff =>
      exact h.keep hsetup hstage hbackoff (hcancelled ▸ id) hnow
  | left hquiet hlater hbackoff =>
      refine h.quiet hquiet hsetup hbackoff hnow ?_ ?_
      · intro history _
        cases hstage : after.1.stage <;> first | trivial | (rw [hstage] at hlater; cases hlater)
      · rintro generation wake hstage
        rw [hstage] at hlater
        exact absurd hlater Bool.false_ne_true
  | worked hquiet hstage hlater hanchor hbackoff =>
      rw [hstage] at hwaits
      refine h.quiet hquiet hsetup hbackoff hnow ?_ ?_
      · intro history hregistered
        rw [hlater]
        exact (hregistered.trans hwaits).trans (congrArg some hanchor.symm)
      · rintro generation wake hstage
        exact nomatch hlater.symm.trans hstage
  | attempted hstage hlater hfresh hbackoff =>
      have hdelays := delays_fresh h.setup_eq
      rw [← hfresh] at hdelays
      rcases hstage with hstage | ⟨hkept, generation, wake, hstage⟩
      · rw [hstage] at hwaits
        have hempty : c.history = [] := hwaits
        refine h.call hsetup hbackoff hnow hlater hdelays ?_ ?_
        · rw [hempty]
          exact nofun
        · rw [hempty]
          exact nofun
      · rw [hstage] at hwaits
        obtain ⟨⟨lossTime, lostIdentity, past, hhistory, rfl⟩, hstarts⟩ := hwaits
        have hwake := hover _ nofun hkept (.inl ⟨generation, hstage⟩)
        refine h.call hsetup hbackoff hnow hlater hdelays ?_ ?_
        · exact fun start hstart => (hstarts start hstart).trans hwake
        · intro time identity earlier hsame
          obtain ⟨hentry, rfl⟩ := List.cons.inj (hhistory.symm.trans hsame)
          obtain ⟨rfl, -⟩ := Prod.mk.inj hentry
          exact ⟨hwake, fun htimely =>
            le_antisymm (h.awake htimely hkept generation _ hstage) hwake⟩
  | repeated hkept hstage hlater hsame hbackoff =>
      rw [hstage] at hwaits
      obtain ⟨hdelays, ⟨lastTime, lastIdentity, failure, past, hhistory⟩, hstarts⟩ := hwaits
      have hwake := hover _ nofun hkept (.inr ⟨_, hstage⟩)
      rw [← hsame] at hdelays
      refine h.call hsetup hbackoff hnow hlater hdelays ?_ ?_
      · exact fun start hstart => (hstarts start hstart).trans hwake
      · -- What was done last is the call that failed, and no loss.
        intro time identity earlier hlost
        exact nomatch hhistory.symm.trans hlost
  | granted hstage hlater hanchor hbackoff =>
      refine h.settled hsetup hbackoff hnow ?_ ?_
      · rw [hlater]
        exact congrArg some hanchor.symm
      · rintro generation wake hstage
        exact nomatch hlater.symm.trans hstage
  | refused hstage hlater hnext hbackoff =>
      rw [hstage] at hwaits
      have hdelays : Delays setup _ := hwaits
      refine h.settled hsetup hbackoff hnow ?_ ?_
      · rw [hlater]
        refine ⟨?_, ⟨_, _, _, _, rfl⟩, fun start hstart => ?_⟩
        · rw [hnext]
          exact hdelays
        · obtain ⟨entry, hentry, rfl⟩ :=
            mem_of_mem_registerStarts (show start ∈ registerStarts c.history from hstart)
          exact Nat.add_le_add (h.past entry hentry) hdelays.le_delay
      · rintro generation wake hstage
        exact nomatch hlater.symm.trans hstage
  | lost hstage hlater hbackoff =>
      exact h.lose hcap hsetup hnow hstage hlater hbackoff

theorem Spaced.move (h : Spaced setup timely c)
    (hcap : max setup.retry.backoffMax setup.retry.backoffBase ≤ Duration.max) {m : Move}
    (htimely : timely → c.IsTimely m) : Spaced setup timely (c.move m) := by
  unfold Clocked.move
  split_ifs with hallowed
  · cases m with
    | act actor =>
        simp only [Recorded.move, List.append_nil]
        exact h.act hcap hallowed
    | stop =>
        obtain ⟨hsetup, -, hstage, hbackoff, htold, hnow⟩ := c.agent.stop_keeps c.site
        refine h.keep hsetup hstage hbackoff ?_ hnow
        exact fun hkept => absurd (htold.symm.trans hkept) Bool.noConfusion
    | wait instant => exact h.wait htimely
    | release workload =>
        exact h.keep rfl rfl rfl id (congrArg Prod.fst (c.agent.frame_release c.site workload))
    | _ => exact h.keep rfl rfl rfl id rfl
  · exact h

/-- What holds if whatever is due happens holds of the runs where it does. -/
theorem Spaced.weaken (h : Spaced setup timely c) {other : Prop} (hother : other → timely) :
    Spaced setup other c where
  setup_eq := h.setup_eq
  past := h.past
  spaced := h.spaced
  resumes later next fresh time identity earlier heq :=
    (h.resumes later next fresh time identity earlier heq).imp_right fun hexact => hexact ∘ hother
  backoff := h.backoff
  waits := h.waits
  awake htimely := h.awake (hother htimely)

theorem clock_spaced
    (hcap : max setup.retry.backoffMax setup.retry.backoffBase ≤ Duration.max) (site : Site)
    (moves : List Move) :
    Spaced setup (IsTimely setup site moves) (clock setup site moves) := by
  induction moves using List.reverseRecOn with
  | nil =>
      exact ⟨rfl, nofun, .nil, fun _ _ _ _ _ _ heq => absurd heq (by simp [clock]), rfl, rfl, nofun⟩
  | append_singleton moves m ih =>
      rw [clock_concat]
      exact (ih.weaken fun h => h.of_concat.1).move hcap fun h => h.of_concat.2

/-- Nothing is done after a loss but to register anew, and only a held identity is lost. -/
theorem clock_lost {site : Site} {moves : List Move} {others earlier : Chronology}
    {time : Instant} {identity : Identity}
    (h : (clock setup site moves).history = others ++ (time, .lost identity) :: earlier) :
    standing (earlier.map Prod.snd) = .holding identity ∧
      ∀ rest next, others = rest ++ [next] → ∃ fresh, next.2 = .began .register fresh := by
  obtain ⟨happened, hrun⟩ := exists_clock_eq setup site moves
  have hdisciplined : Disciplined setup.name ((clock setup site moves).history.map Prod.snd) := by
    have hcoherent := (run_coherent setup site happened).disciplined
    rwa [hrun] at hcoherent
  have hsuffix (front back : List Deed) (hall : Disciplined setup.name (front ++ back)) :
      Disciplined setup.name back := by
    induction front with
    | nil => exact hall
    | cons deed front ih => exact ih hall.2
  rw [h, List.map_append, List.map_cons] at hdisciplined
  refine ⟨(hsuffix _ _ hdisciplined).1.1, ?_⟩
  rintro rest ⟨next, deed⟩ rfl
  rw [List.map_append, List.append_assoc] at hdisciplined
  have hlawful := (hsuffix _ _ hdisciplined).1
  cases deed with
  | began operation fresh =>
      cases operation with
      | register => exact ⟨fresh, rfl⟩
      | _ => exact nomatch hlawful
  | ended operation other failure => cases operation <;> exact nomatch hlawful
  | lost other => exact nomatch hlawful.1

end Runs

/-- In every run of an agent of a valid configuration, whatever the control plane answers, calls to
register begin at least the base delay apart.  What follows the loss of an identity is a call to
register, not before the wait for that loss is over, and just then if whatever is due happens.
The wait is the base delay if the identity had been registered for a renewal interval.  Otherwise
it is the next delay of the backoff, at most the longest one and no shorter than the wait for the
loss before. -/
theorem registration_spaced {config : FleetConfig} (hvalid : config.validate = .ok ())
    (index : Nat) (profile : Profile) (site : Site) (moves : List Move) :
    let setup := config.setupFor index profile
    let base := config.retryPolicy.backoffBase
    let longest := config.retryPolicy.backoffMax
    let history := (clock setup site moves).history
    0 < base ∧
    (registerStarts history).Pairwise (fun later earlier => earlier + base ≤ later) ∧
    ∀ others time identity earlier, history = others ++ (time, .lost identity) :: earlier →
      let wait := lossWait setup earlier time
      (∀ rest next, others = rest ++ [next] →
        (∃ fresh, next.2 = .began .register fresh) ∧ time + wait ≤ next.1 ∧
          (IsTimely setup site moves → next.1 = time + wait)) ∧
      ∃ registered, registeredAt? earlier = some registered ∧
        (registered, .ended .register identity none) ∈ earlier ∧
        (config.renewInterval ≤ time - registered → wait = base) ∧
        (time - registered < config.renewInterval →
          wait = Backoff.delayAfter base longest (lossesInRow config.renewInterval earlier) ∧
          wait ≤ max base longest ∧
          ∀ between before other earliest,
            earlier = between ++ (before, .lost other) :: earliest →
            (∀ entry ∈ between, ∀ i, entry.2 ≠ .lost i) →
            lossWait setup earliest before ≤ wait) := by
  intro setup base longest history
  obtain ⟨hpositive, hcap⟩ := FleetConfig.retryPolicy_of_validate hvalid
  have hspaced : Spaced setup (IsTimely setup site moves) (clock setup site moves) :=
    clock_spaced hcap site moves
  refine ⟨hpositive, hspaced.spaced, ?_⟩
  intro others time identity earlier hhistory wait
  obtain ⟨hholding, hnext⟩ := clock_lost hhistory
  constructor
  · rintro rest ⟨next, deed⟩ hrest
    obtain ⟨fresh, hfresh⟩ := hnext rest _ hrest
    obtain rfl : deed = .began .register fresh := hfresh
    subst hrest
    rw [List.append_assoc, List.singleton_append] at hhistory
    exact ⟨⟨fresh, rfl⟩, hspaced.resumes rest next fresh time identity earlier hhistory⟩
  · obtain ⟨registered, hregistered, hmem⟩ := exists_registeredAt hholding
    have hlasted : hasLasted setup.renewInterval earlier time =
        decide (config.renewInterval ≤ time - registered) := by
      rw [hasLasted, hregistered, Option.any_some]
      rfl
    refine ⟨registered, hregistered, hmem, fun hlong => ?_, fun hshort => ?_⟩
    · have hfresh : hasLasted setup.renewInterval earlier time = true :=
        hlasted.trans (decide_eq_true hlong)
      calc wait = Backoff.delayAfter base longest 0 := by
            simp only [wait, lossWait, hfresh, if_true]
            rfl
        _ = base := Backoff.delayAfter_zero base longest
    · have hcounts : hasLasted setup.renewInterval earlier time = false :=
        hlasted.trans (decide_eq_false (Nat.not_le.2 hshort))
      have hwait : wait =
          Backoff.delayAfter base longest (lossesInRow config.renewInterval earlier) := by
        simp only [wait, lossWait, hcounts, Bool.false_eq_true, if_false]
        rfl
      refine ⟨hwait, ?_, ?_⟩
      · rw [hwait, max_comm]
        exact Backoff.delayAfter_le base longest _
      · rintro between before other earliest rfl hbetween
        exact lossWait_mono hbetween hcounts

/-- Two identities are lost at once, and the third registration waits twice as long as the
second. -/
theorem registration_spaced_after_two_losses :
    let config : FleetConfig := { fleetSize := 1 }
    let profile : Profile := ⟨1000, 1000, 0, 0, 10, ⟨0, 24⟩⟩
    let plane := (ControlPlane.empty 0).failNext .publishStatus 2 (.conflict "taken")
    let lose : List Move :=
      [.act .task, .act .statusSync, .act .statusSync, .act .task, .act .heartbeat, .act .task]
    let moves : List Move :=
      .act .task :: lose ++ .wait 200000000 :: .act .task :: lose ++ [.wait 600000000, .act .task]
    let history := (clock (config.setupFor 0 profile) (.create plane ⟨0, 0⟩) moves).history
    config.validate = .ok () ∧ registerStarts history = [600000000, 200000000, 0] ∧
      (registerStarts history).Pairwise fun later earlier =>
        earlier + config.retryPolicy.backoffBase ≤ later := by
  intro config profile plane lose moves history
  have hvalid : config.validate = .ok () := FleetConfig.validate_eq_ok (by decide +kernel)
  have hstarts : registerStarts history = [600000000, 200000000, 0] := by decide +kernel
  obtain ⟨-, hspaced, -⟩ := registration_spaced hvalid 0 profile (.create plane ⟨0, 0⟩) moves
  exact ⟨hvalid, hstarts, hspaced⟩

end Agent

end NodeFleet
