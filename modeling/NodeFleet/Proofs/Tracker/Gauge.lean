import Mathlib
import NodeFleet.Tracker

/-!
# The gauge of agents

The metrics count the agents in every state.  A change of state moves an agent from one
gauge to another, so what the gauge shows beside that agent stays the same: this is
`Tracker.Carried`, and every operation of a tracker has it but the announcement, by which
the agent enters the gauge in the first place.

A `Standing` is what is known of one agent: its state, whether it was told to end, and
whether it has announced itself and had been told to end by then.  The gauge is the sum of
the standings' shares (`Accounted`).  An agent that announces itself in time has the share
one in its state and none elsewhere.  One that was told to end before has moved to
`terminating` and announces that state, so it is counted there twice and is missing from
`unregistered`.
-/

namespace NodeFleet

/-! ## One agent -/

/-- What an agent in one state adds to the gauge of another. -/
def AgentState.share (state s : AgentState) : Int := if state = s then 1 else 0

def Telemetry.gauge (shown : Telemetry) (s : AgentState) : Int := shown.metrics.count (.agents s)

/-- How much the gauge of a state has changed since the telemetry was another. -/
def Telemetry.gaugeSince (shown base : Telemetry) (s : AgentState) : Int :=
  shown.gauge s - base.gauge s

theorem Telemetry.gauge_increment {series : Series} (shown : Telemetry)
    (hseries : ∀ s, series ≠ .agents s) (s : AgentState) :
    (shown.increment series).gauge s = shown.gauge s := by
  simp only [gauge, increment, Metrics.increment, Metrics.count_add, if_neg (hseries s), Int.add_zero]

namespace Tracker

variable {t : Tracker} {shown : Telemetry} {now : Timestamp}

/-- An announcement adds an agent to the gauge of its state. -/
theorem gauge_announce (s : AgentState) :
    (t.announce shown now).gauge s = shown.gauge s + t.state.share s := by
  simp [announce, Telemetry.gauge, Metrics.moveAgent, Metrics.increment, Metrics.count_add,
    AgentState.share]

/-- What the gauge shows beside an agent stays the same. -/
def Carried (before after : Tracker × Telemetry) : Prop :=
  ∀ s, after.2.gauge s - after.1.state.share s = before.2.gauge s - before.1.state.share s

theorem Carried.refl (x : Tracker × Telemetry) : Carried x x := fun _ => rfl

theorem Carried.trans {x y z : Tracker × Telemetry} (h : Carried x y) (h' : Carried y z) :
    Carried x z := fun s => (h' s).trans (h s)

theorem Carried.gaugeSince {x y : Tracker × Telemetry} (h : Carried x y) (base : Telemetry)
    (s : AgentState) :
    y.2.gaugeSince base s - y.1.state.share s = x.2.gaugeSince base s - x.1.state.share s := by
  have hbeside := h s
  unfold Telemetry.gaugeSince
  omega

theorem gaugeSince_announce (base : Telemetry) (s : AgentState) :
    (t.announce shown now).gaugeSince base s = shown.gaugeSince base s + t.state.share s := by
  rw [Telemetry.gaugeSince, gauge_announce, Telemetry.gaugeSince]
  omega

/-- Neither the state nor the metrics change. -/
theorem carried_of_eq {changed : Tracker} {later : Telemetry} (hstate : changed.state = t.state)
    (hgauge : ∀ s, later.gauge s = shown.gauge s) : Carried (t, shown) (changed, later) := by
  intro s
  rw [hstate, hgauge s]

theorem moveWhen_carried (guard : AgentState → Bool) (target : AgentState) :
    Carried (t, shown) (t.moveWhen guard target shown now).2 := by
  intro s
  unfold moveWhen
  split_ifs with hcan
  · -- The gauge loses the share of the old state and gains that of the new one.
    simp only [showMove, Telemetry.gauge, Metrics.moveAgent, Metrics.increment,
      Metrics.count_add, Series.agents.injEq, AgentState.share]
    split_ifs <;> omega
  · rfl

/-- An agent that has not begun is terminating once it is told to end. -/
theorem move_terminating_state (h : t.state = .unregistered ∨ t.state = .terminating) :
    (t.move .terminating shown now).2.1.state = .terminating := by
  unfold move moveWhen canMove
  rcases h with h | h
  · simp [h, AgentState.canMoveTo]
  · simp [h]

theorem degradeAt_carried (count : Nat) : Carried (t, shown) (t.degradeAt count shown now) := by
  unfold degradeAt
  split_ifs
  · exact moveWhen_carried _ _
  · exact .refl _

theorem recoverBelow_carried (count : Nat) :
    Carried (t, shown) (t.recoverBelow count shown now) := by
  unfold recoverBelow
  split_ifs
  · exact moveWhen_carried _ _
  · exact .refl _

end Tracker

/-! ## All agents -/

/-- What is known of one agent. -/
structure Standing where
  state : AgentState
  /-- Whether it was told to end. -/
  isTold : Bool
  /-- Once it has announced itself, whether it had been told to end by then. -/
  announced : Option Bool

namespace Standing

/-- What an agent has added to the gauge of a state. -/
def share (e : Standing) (s : AgentState) : Int :=
  match e.announced with
  | none => e.state.share s - AgentState.unregistered.share s
  | some false => e.state.share s
  | some true =>
      e.state.share s + (AgentState.terminating.share s - AgentState.unregistered.share s)

/-- Until an agent has announced itself, nothing moves it but being told to end. -/
def IsOrderly (e : Standing) : Prop :=
  e.announced = none → e.state = if e.isTold then .terminating else .unregistered

/-- The agent was told to end before it announced itself. -/
def isHasty (e : Standing) : Bool := e.announced.getD e.isTold

/-- The number of agents in a state. -/
def inState (standings : List Standing) (s : AgentState) : Nat :=
  standings.countP fun e => e.state = s

/-- The number of agents in a state that have announced themselves. -/
def announcedIn (standings : List Standing) (s : AgentState) : Nat :=
  standings.countP fun e => e.announced.isSome && e.state = s

/-- The number of agents that were told to end before they announced themselves. -/
def hasty (standings : List Standing) : Nat := standings.countP isHasty

/-- A change of state carries over to the share. -/
theorem share_carried (e : Standing) (state : AgentState) (isTold : Bool) (s : AgentState) :
    share { e with state, isTold } s - state.share s = e.share s - e.state.share s := by
  unfold share
  rcases e.announced with _ | _ | _ <;> dsimp only <;> omega

/-- An announcement adds the announced state to the share. -/
theorem IsOrderly.share_announced {e : Standing} (h : e.IsOrderly) (hnone : e.announced = none)
    (s : AgentState) :
    share { e with announced := some e.isTold } s = e.share s + e.state.share s := by
  -- The announced state is `terminating` exactly if the agent was told to end.
  have hstate := h hnone
  unfold share
  rw [hnone]
  cases htold : e.isTold with
  | false =>
      simp only [htold, Bool.false_eq_true, if_false] at hstate
      rw [hstate]
      dsimp only
      omega
  | true =>
      simp only [htold, if_true] at hstate
      rw [hstate]
      dsimp only
      omega

/-- An agent is in the gauge once it has announced itself; one that was told to end before is
counted as `terminating` besides and missing from `unregistered`. -/
theorem IsOrderly.share_eq {e : Standing} (h : e.IsOrderly) (s : AgentState) :
    e.share s = (if e.announced.isSome && e.state = s then 1 else 0) +
      (if e.isHasty then 1 else 0) *
        (AgentState.terminating.share s - AgentState.unregistered.share s) := by
  unfold share isHasty
  cases hannounced : e.announced with
  | none =>
      have hstate := h hannounced
      cases htold : e.isTold with
      | false => simp [hstate, htold]
      | true => simp [hstate, htold]
  | some told => cases told <;> simp [AgentState.share]

/-- Replacing one standing changes the sum of the shares by the difference. -/
theorem sum_share_set {standings : List Standing} {i : Nat} {before : Standing} (after : Standing)
    (hbefore : standings[i]? = some before) (s : AgentState) :
    ((standings.set i after).map (·.share s)).sum =
      (standings.map (·.share s)).sum - before.share s + after.share s := by
  induction standings generalizing i with
  | nil => cases hbefore
  | cons e rest ih =>
      cases i with
      | zero =>
          obtain rfl : e = before := Option.some.inj hbefore
          simp only [List.set_cons_zero, List.map_cons, List.sum_cons]
          omega
      | succ i =>
          have hrest := ih hbefore
          simp only [List.set_cons_succ, List.map_cons, List.sum_cons]
          omega

/-- An agent that is told to end stays orderly. -/
theorem IsOrderly.tell {e : Standing} (h : e.IsOrderly) {state : AgentState}
    (hstate : e.state = .unregistered ∨ e.state = .terminating → state = .terminating) :
    IsOrderly { e with state, isTold := true } := by
  intro hnone
  refine hstate ?_
  rw [h hnone]
  split_ifs
  · exact .inr rfl
  · exact .inl rfl

end Standing

/-- The gauge of agents has changed by the agents' shares. -/
structure Accounted (change : AgentState → Int) (standings : List Standing) : Prop where
  /-- The change of every state's gauge is the sum of the shares. -/
  change_eq : ∀ s, change s = (standings.map (·.share s)).sum
  /-- Every agent is orderly. -/
  orderly : ∀ e ∈ standings, e.IsOrderly

namespace Accounted

variable {change : AgentState → Int} {standings : List Standing}

/-- An agent that starts is not in the gauge yet. -/
theorem start (h : Accounted change standings) :
    Accounted change
      (standings ++ [{ state := .unregistered, isTold := false, announced := none }]) := by
  constructor
  · intro s
    simp [h.change_eq s, Standing.share]
  · intro e hmem
    rcases List.mem_append.1 hmem with hmem | hmem
    · exact h.orderly e hmem
    · obtain rfl := List.mem_singleton.1 hmem
      exact fun _ => rfl

/-- One agent's standing changes, and the gauge changes with it. -/
theorem set {later : AgentState → Int} {i : Nat} {before after : Standing}
    (h : Accounted change standings) (hbefore : standings[i]? = some before)
    (hafter : after.IsOrderly)
    (hchange : ∀ s, later s - after.share s = change s - before.share s) :
    Accounted later (standings.set i after) := by
  constructor
  · intro s
    have hlater := hchange s
    rw [Standing.sum_share_set after hbefore s, ← h.change_eq s]
    omega
  · intro e hmem
    rcases List.mem_or_eq_of_mem_set hmem with hold | rfl
    · exact h.orderly e hold
    · exact hafter

/-- One agent changes its state or is told to end, and the gauge beside it stays the same. -/
theorem carry {later : AgentState → Int} {i : Nat} {before : Standing} {state : AgentState}
    {isTold : Bool} (h : Accounted change standings) (hbefore : standings[i]? = some before)
    (horderly : Standing.IsOrderly { before with state, isTold })
    (hcarried : ∀ s, later s - state.share s = change s - before.state.share s) :
    Accounted later (standings.set i { before with state, isTold }) := by
  refine h.set hbefore horderly fun s => ?_
  have hshare := before.share_carried state isTold s
  have hgauge := hcarried s
  omega

/-- One agent announces itself. -/
theorem announce {later : AgentState → Int} {i : Nat} {before : Standing}
    (h : Accounted change standings) (hbefore : standings[i]? = some before)
    (hnone : before.announced = none)
    (hadded : ∀ s, later s = change s + before.state.share s) :
    Accounted later (standings.set i { before with announced := some before.isTold }) := by
  have horderly := h.orderly before (List.mem_of_getElem? hbefore)
  refine h.set hbefore nofun fun s => ?_
  have hshare := horderly.share_announced hnone s
  have hgauge := hadded s
  omega

/-- The gauge shows the agents that have announced themselves, but for those that were told to end
before. -/
theorem change_eq_announcedIn (h : Accounted change standings) (s : AgentState) :
    change s = Standing.announcedIn standings s +
      Standing.hasty standings *
        (AgentState.terminating.share s - AgentState.unregistered.share s) := by
  obtain ⟨hchange, horderly⟩ := h
  rw [hchange s]
  clear hchange
  induction standings with
  | nil => simp [Standing.announcedIn, Standing.hasty]
  | cons e rest ih =>
      have hrest := ih fun e hmem => horderly e (List.mem_cons_of_mem _ hmem)
      have hshare := (horderly e List.mem_cons_self).share_eq s
      have hannounced : (Standing.announcedIn (e :: rest) s : Int) =
          Standing.announcedIn rest s + if e.announced.isSome && e.state = s then 1 else 0 := by
        rw [Standing.announcedIn, List.countP_cons]
        split_ifs <;> rfl
      have hhasty : (Standing.hasty (e :: rest) : Int) =
          Standing.hasty rest + if e.isHasty then 1 else 0 := by
        rw [Standing.hasty, List.countP_cons]
        split_ifs <;> rfl
      rw [List.map_cons, List.sum_cons, hrest, hshare, hannounced, hhasty, Int.add_mul]
      omega

end Accounted

/-- What the gauge of agents comes to, by what is known of the agents. -/
structure GaugeLaw (change : AgentState → Int) (standings : List Standing) : Prop where
  /-- The gauge shows the agents that have announced themselves.  Each agent that was told to end
  before counts as terminating once more, and as one unregistered agent less. -/
  change_eq : ∀ s, change s = Standing.announcedIn standings s +
    Standing.hasty standings *
      (AgentState.terminating.share s - AgentState.unregistered.share s)
  /-- Once all agents have announced themselves, the gauge shows for every state how many are in it
  exactly if none was told to end before it announced itself. -/
  exact_iff : (∀ e ∈ standings, e.announced ≠ none) →
    ((∀ s, change s = Standing.inState standings s) ↔ Standing.hasty standings = 0)
  /-- No gauge has gone down exactly if no more agents were told to end before they announced
  themselves than are announced and still unregistered. -/
  nonneg_iff : (∀ s, 0 ≤ change s) ↔
    Standing.hasty standings ≤ Standing.announcedIn standings .unregistered

theorem Accounted.gaugeLaw {change : AgentState → Int} {standings : List Standing}
    (h : Accounted change standings) : GaugeLaw change standings := by
  have hchange := h.change_eq_announcedIn
  have hterminating := hchange .terminating
  have hunregistered := hchange .unregistered
  have hother : ∀ s, s ≠ .terminating → s ≠ .unregistered →
      change s = Standing.announcedIn standings s := by
    intro s hs hs'
    rw [hchange s, AgentState.share, AgentState.share, if_neg hs.symm, if_neg hs'.symm]
    omega
  simp only [AgentState.share, reduceCtorEq, if_true, if_false] at hterminating hunregistered
  refine ⟨hchange, fun hall => ?_, ?_⟩
  · have hin : ∀ s, Standing.announcedIn standings s = Standing.inState standings s := by
      intro s
      refine List.countP_congr fun e hmem => ?_
      simp [Option.isSome_iff_ne_none.2 (hall e hmem)]
    constructor
    · -- A single hasty agent is one too many among the terminating ones.
      intro heq
      have hboth := (heq .terminating).symm.trans hterminating
      rw [hin] at hboth
      omega
    · intro hnone s
      rw [hchange s, hnone, hin]
      omega
  · constructor
    · intro hnonneg
      have hleft := hnonneg .unregistered
      omega
    · intro hle s
      by_cases hs : s = .terminating
      · subst hs
        omega
      · by_cases hs' : s = .unregistered
        · subst hs'
          omega
        · rw [hother s hs hs']
          exact Int.natCast_nonneg _

end NodeFleet
