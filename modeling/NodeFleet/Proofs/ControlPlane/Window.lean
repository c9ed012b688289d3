import Mathlib.Data.List.DropRight
import Mathlib.Data.List.Perm.Basic
import Mathlib.Data.List.Perm.Subperm
import NodeFleet.ControlPlane.Call
import NodeFleet.Proofs.ControlPlane.Faults
import NodeFleet.Site

/-!
# The log as a window

The log is a window on all calls that were ever completed: it shows the last of them, as many
as its capacity, and the capacity plays no other part.

Any number of calls are on their way here, and each goes at its own pace.  A call waits for its
latency, takes the fault that is queued for it, looks its node up, looks it up again to change
it, and comes back with an answer; between any two of these others may come in, and its caller
may drop it.  It is in the log from the moment at which it comes back.  A call that goes all
the way at once is what `ControlPlane.happen` makes of it (`Transit.carried_through`).

Two lemmas carry the statement: `toList_appendBounded` for the one move that writes the log,
and `Transit.unlogged_move`, by which every move does the same without the log.
-/

namespace NodeFleet.ControlPlane

/-! ## Entries of a window -/

/-- The last calls of a list, and one more. -/
theorem rtake_concat {capacity : Nat} (calls : List CallRecord) (call : CallRecord) :
    (calls ++ [call]).rtake capacity =
      if capacity = 0 then []
      else if capacity ≤ (calls.rtake capacity).length then
        (calls.rtake capacity).tail ++ [call]
      else calls.rtake capacity ++ [call] := by
  cases capacity with
  | zero => simp
  | succ capacity =>
      have hlength : (calls.rtake (capacity + 1)).length = min (capacity + 1) calls.length := by
        rw [List.rtake, List.length_drop]
        omega
      rw [List.rtake_concat_succ, if_neg (Nat.succ_ne_zero capacity), hlength]
      split_ifs with hfull
      · -- The oldest call of the window goes.
        have hplace : calls.length - capacity = calls.length - (capacity + 1) + 1 := by omega
        rw [List.rtake, hplace, List.rtake, List.tail_drop]
      · have hall : calls.length - capacity = calls.length - (capacity + 1) := by omega
        rw [List.rtake, hall, List.rtake]

/-- A log that shows the last of some calls shows the last of them and one more after it. -/
theorem toList_appendBounded {capacity : Nat} {log : Array CallRecord} {calls : List CallRecord}
    (h : log.toList = calls.rtake capacity) (call : CallRecord) :
    (appendBounded capacity log call).toList = (calls ++ [call]).rtake capacity := by
  have hsize : log.size = (calls.rtake capacity).length := by
    rw [← h, Array.length_toList]
  rw [rtake_concat, appendBounded, hsize]
  split_ifs with hzero hfull
  · rw [h, hzero, List.rtake_zero]
  · have hrest : (log.extract 1 log.size).toList = log.toList.tail := by
      simp [List.drop_one]
    rw [Array.toList_push, ← hsize, hrest, h]
  · rw [Array.toList_push, h]

/-! ## Calls on their way -/

/-- The error of an answer that is a refusal. -/
def Answer.error? : Answer → Option CallError
  | .refused error => some error
  | _ => none

/-- How far a call has come. -/
inductive Progress where
  /-- It waits for its latency. -/
  | waiting
  /-- There was no fault for it. -/
  | admitted
  /-- Its caller may make it. -/
  | checked
  /-- It has its answer, but has not come back with it. -/
  | answered (answer : Answer)

/-- A call on its way. -/
structure Passage where
  request : Request
  call : Call
  progress : Progress

/-- The next access of a call to the tables of a control plane. -/
def Passage.advance (x : Passage) (now : Instant) (wall : Timestamp) (p : ControlPlane) :
    Passage × ControlPlane :=
  match x.progress with
  | .waiting =>
      if x.call.answeredAt ≤ now then
        let (fault, faults) := takeFault x.request.operation p.faults
        match fault with
        | some error => ({ x with progress := .answered (.refused error) }, { p with faults })
        | none => ({ x with progress := .admitted }, { p with faults })
      else (x, p)
  | .admitted =>
      match x.request.check p.nodes with
      | .error error => ({ x with progress := .answered (.refused error) }, p)
      | .ok () => ({ x with progress := .checked }, p)
  | .checked =>
      match x.request.change wall p.nodes with
      | .error error => ({ x with progress := .answered (.refused error) }, p)
      | .ok (answer, nodes) => ({ x with progress := .answered answer }, { p with nodes })
  | .answered _ => (x, p)

/-- A call that has come back, with its answer and the time. -/
structure Completion where
  request : Request
  answer : Answer
  endedAt : Instant

/-- What the log is to say of a call. -/
def Completion.record (c : Completion) : CallRecord :=
  { operation := c.request.operation
    agent := c.request.caller.name
    uid := c.request.caller.uid
    endedAt := c.endedAt
    error := c.answer.error? }

/-- A site with the calls on their way, and those that have come back, in the order in which they
did. -/
structure Transit where
  site : Site
  passages : List Passage
  completed : List Completion

namespace Transit

/-- What may come next. -/
inductive Move where
  /-- Somebody begins a call. -/
  | begin (request : Request) (limit : Duration)
  /-- The call at a position makes its next access. -/
  | advance (position : Nat)
  /-- The call at a position comes back, if it has its answer. -/
  | finish (position : Nat)
  /-- The call at a position is dropped, however far it has come. -/
  | drop (position : Nat)
  /-- Control from outside. -/
  | control (event : Event) (isControl : event.call? = none)
  /-- Time passes. -/
  | wait (instant : Instant)

/-- Replaces the control plane. -/
def setPlane (t : Transit) (plane : ControlPlane) : Transit :=
  { t with site := { t.site with plane } }

/-- Replaces the call at a position, and the control plane. -/
def place (t : Transit) (position : Nat) (x : Passage) (plane : ControlPlane) : Transit :=
  { t.setPlane plane with passages := t.passages.set position x }

def move (t : Transit) : Move → Transit
  | .begin request limit =>
      let passage : Passage := ⟨request, t.site.beginCall limit, .waiting⟩
      { t with passages := t.passages ++ [passage] }
  | .advance position =>
      match t.passages[position]? with
      | none => t
      | some x =>
          let (x, plane) := x.advance t.site.now t.site.wall t.site.plane
          t.place position x plane
  | .finish position =>
      match t.passages[position]? with
      | some ⟨request, _, .answered answer⟩ =>
          let plane := t.site.plane.record request.operation request.caller t.site.now answer.error?
          { t.setPlane plane with
            passages := t.passages.eraseIdx position
            completed := t.completed ++ [⟨request, answer, t.site.now⟩] }
      | _ => t
  | .drop position => { t with passages := t.passages.eraseIdx position }
  | .control event _ => t.setPlane (t.site.plane.happen event).2
  | .wait instant => { t with site := t.site.advanceTo instant }

/-- A site whose control plane keeps a number of calls in its log, before the first call. -/
def start (logCapacity : Nat) (epoch : Timestamp) : Transit :=
  { site := .create (.empty logCapacity) epoch, passages := [], completed := [] }

/-- Moves one after the other. -/
def run (logCapacity : Nat) (epoch : Timestamp) (moves : List Move) : Transit :=
  moves.foldl move (start logCapacity epoch)

theorem run_concat (logCapacity : Nat) (epoch : Timestamp) (moves : List Move) (m : Move) :
    run logCapacity epoch (moves ++ [m]) = (run logCapacity epoch moves).move m := by
  simp [run]

end Transit

/-! ## The whole way -/

theorem Answer.error?_eq_some_iff {answer : Answer} {error : CallError} :
    answer.error? = some error ↔ answer = .refused error := by
  cases answer with
  | refused own => exact ⟨fun h => congrArg _ (Option.some.inj h), fun h => by cases h; rfl⟩
  | _ => exact ⟨nofun, nofun⟩

/-- A completed call is logged, and else only the nodes and the faults can have changed. -/
theorem complete_eq_record {α : Type} (p : ControlPlane) (operation : Operation)
    (caller : Identity) (now : Instant) (effect : Effect α) {success : α → Answer}
    (hsuccess : ∀ result, (success result).error? = none) :
    (p.complete operation caller now effect).2 =
      { p with
        nodes := (p.complete operation caller now effect).2.nodes
        faults := (p.complete operation caller now effect).2.faults }.record operation caller now
        (Answer.ofResult success (p.complete operation caller now effect).1).error? := by
  unfold complete
  obtain ⟨fault, faults⟩ := takeFault operation p.faults
  cases fault with
  | some error => rfl
  | none =>
      dsimp only
      cases effect p.nodes with
      | error error => rfl
      | ok done =>
          simp only [Answer.ofResult, hsuccess]
          rfl

theorem happen_request_eq_record (p : ControlPlane) (request : Request) (now : Instant)
    (wall : Timestamp) :
    (p.happen (request.event now wall)).2 =
      { p with
        nodes := (p.happen (request.event now wall)).2.nodes
        faults := (takeFault request.operation p.faults).2 }.record request.operation
        request.caller now (p.happen (request.event now wall)).1.error? := by
  rw [← p.faults_happen_request request now wall]
  cases request with
  | register caller profile =>
      exact p.complete_eq_record .register caller now (registering caller profile wall) fun _ => rfl
  | renew caller version =>
      exact p.complete_eq_record .renewLease caller now (renewing caller version wall) fun _ => rfl
  | publish caller snapshot =>
      exact p.complete_eq_record .publishStatus caller now (publishing caller snapshot) fun _ => rfl
  | deregister caller =>
      exact p.complete_eq_record .deregister caller now (deregistering caller) fun _ => rfl

/-- Three accesses of a call, one right after the other. -/
def Passage.advanceThrice (x : Passage) (now : Instant) (wall : Timestamp) (p : ControlPlane) :
    Passage × ControlPlane :=
  let (x, p) := x.advance now wall p
  let (x, p) := x.advance now wall p
  x.advance now wall p

/-- If nobody comes in between, the three accesses are what happens to the running control plane,
but for the log. -/
theorem Passage.advanceThrice_eq {x : Passage} {now : Instant} (hwaiting : x.progress = .waiting)
    (hanswered : x.call.answeredAt ≤ now) (wall : Timestamp) (p : ControlPlane) :
    x.advanceThrice now wall p =
      ({ x with progress := .answered (p.happen (x.request.event now wall)).1 },
        { p with
          nodes := (p.happen (x.request.event now wall)).2.nodes
          faults := (takeFault x.request.operation p.faults).2 }) := by
  obtain ⟨request, call, progress⟩ := x
  dsimp only at hwaiting hanswered
  subst hwaiting
  have hhappen := p.happen_request request now wall
  rw [waiting, ← (takeFault_eq request.operation p.faults).1] at hhappen
  dsimp only
  generalize (p.happen (request.event now wall)).1 = answer,
    (p.happen (request.event now wall)).2.nodes = changed at hhappen ⊢
  cases hfault : takeFault request.operation p.faults with
  | mk fault faults =>
      rw [hfault] at hhappen
      cases fault with
      | some error =>
          obtain ⟨rfl, rfl⟩ := Prod.mk.inj hhappen
          simp only [advanceThrice, advance, if_pos hanswered, hfault]
      | none =>
          -- The effect is the check and the change, with nothing in between.
          rw [Option.elim_none, Request.outcome, Request.effect_eq] at hhappen
          cases hcheck : request.check p.nodes with
          | error error =>
              rw [hcheck] at hhappen
              obtain ⟨rfl, rfl⟩ := Prod.mk.inj hhappen
              simp only [advanceThrice, advance, if_pos hanswered, hfault, hcheck]
          | ok _ =>
              rw [hcheck] at hhappen
              change (answer, changed) = Request.settled p.nodes (request.change wall p.nodes)
                at hhappen
              cases hchange : request.change wall p.nodes with
              | error error =>
                  rw [hchange] at hhappen
                  obtain ⟨rfl, rfl⟩ := Prod.mk.inj hhappen
                  simp only [advanceThrice, advance, if_pos hanswered, hfault, hcheck, hchange]
              | ok done =>
                  rw [hchange] at hhappen
                  obtain ⟨rfl, rfl⟩ := Prod.mk.inj hhappen
                  simp only [advanceThrice, advance, if_pos hanswered, hfault, hcheck, hchange]

/-- The same control plane without a log. -/
def unlogged (p : ControlPlane) : ControlPlane := { p with log := #[], logCapacity := 0 }

namespace Transit

/-- All that is left to a call whose latency has passed. -/
def through (position : Nat) : List Move :=
  [.advance position, .advance position, .advance position, .finish position]

theorem move_advance {t : Transit} {position : Nat} {x : Passage}
    (hx : t.passages[position]? = some x) :
    t.move (.advance position) =
      t.place position (x.advance t.site.now t.site.wall t.site.plane).1
        (x.advance t.site.now t.site.wall t.site.plane).2 := by
  simp only [move, hx]

theorem getElem?_passages_place {t : Transit} {position : Nat}
    (h : position < t.passages.length) (x : Passage) (plane : ControlPlane) :
    (t.place position x plane).passages[position]? = some x :=
  List.getElem?_set_self h

theorem place_place (t : Transit) (position : Nat) (x y : Passage) (plane later : ControlPlane) :
    (t.place position x plane).place position y later = t.place position y later := by
  simp only [place, setPlane, List.set_set]

theorem move_advance_thrice {t : Transit} {position : Nat} {x : Passage}
    (hx : t.passages[position]? = some x) :
    ((t.move (.advance position)).move (.advance position)).move (.advance position) =
      t.place position (x.advanceThrice t.site.now t.site.wall t.site.plane).1
        (x.advanceThrice t.site.now t.site.wall t.site.plane).2 := by
  have hlt : position < t.passages.length := (List.getElem?_eq_some_iff.1 hx).1
  rw [move_advance hx, move_advance (getElem?_passages_place hlt _ _), place_place,
    move_advance (getElem?_passages_place hlt _ _), place_place]
  rfl

theorem move_finish {t : Transit} {position : Nat} {request : Request} {call : Call}
    {answer : Answer} (hx : t.passages[position]? = some ⟨request, call, .answered answer⟩) :
    t.move (.finish position) =
      { t.setPlane (t.site.plane.record request.operation request.caller t.site.now
          answer.error?) with
        passages := t.passages.eraseIdx position
        completed := t.completed ++ [⟨request, answer, t.site.now⟩] } := by
  simp only [move, hx]

/-- A call that goes all the way at once is what happens to the running control plane. -/
theorem carried_through {t : Transit} {position : Nat} {x : Passage}
    (hx : t.passages[position]? = some x) (hwaiting : x.progress = .waiting)
    (hanswered : x.call.answeredAt ≤ t.site.now) :
    (through position).foldl move t =
      { t.setPlane (t.site.plane.happen (x.request.event t.site.now t.site.wall)).2 with
        passages := t.passages.eraseIdx position
        completed := t.completed ++
          [⟨x.request, (t.site.plane.happen (x.request.event t.site.now t.site.wall)).1,
            t.site.now⟩] } := by
  have hlt : position < t.passages.length := (List.getElem?_eq_some_iff.1 hx).1
  simp only [through, List.foldl_cons, List.foldl_nil]
  rw [move_advance_thrice hx, Passage.advanceThrice_eq hwaiting hanswered,
    move_finish (getElem?_passages_place hlt _ _), t.site.plane.happen_request_eq_record]
  simp only [place, setPlane, List.eraseIdx_set_eq]
  rfl

/-! ## The log of a run -/

/-- The log shows the last calls that have come back, as many as its capacity. -/
structure Windowed (logCapacity : Nat) (t : Transit) : Prop where
  capacity_eq : t.site.plane.logCapacity = logCapacity
  log_eq : t.site.plane.log.toList = (t.completed.map Completion.record).rtake logCapacity

theorem log_advance (x : Passage) (now : Instant) (wall : Timestamp) (p : ControlPlane) :
    (x.advance now wall p).2.log = p.log ∧
      (x.advance now wall p).2.logCapacity = p.logCapacity := by
  obtain ⟨request, call, progress⟩ := x
  cases progress with
  | waiting =>
      simp only [Passage.advance]
      split_ifs
      · split <;> exact ⟨rfl, rfl⟩
      · exact ⟨rfl, rfl⟩
  | admitted =>
      simp only [Passage.advance]
      split <;> exact ⟨rfl, rfl⟩
  | checked =>
      simp only [Passage.advance]
      split <;> exact ⟨rfl, rfl⟩
  | answered answer => exact ⟨rfl, rfl⟩

/-- Control from outside is no call. -/
theorem log_happen_of_control {event : Event} (h : event.call? = none) (p : ControlPlane) :
    (p.happen event).2.log = p.log ∧ (p.happen event).2.logCapacity = p.logCapacity := by
  cases event with
  | failNext operation count error => exact ⟨rfl, rfl⟩
  | supersede name => exact ⟨rfl, rfl⟩
  | removeNode name => exact ⟨rfl, rfl⟩
  | setLatency latency => exact ⟨rfl, rfl⟩
  | _ => cases h

theorem Windowed.setPlane {logCapacity : Nat} {t : Transit} {plane : ControlPlane}
    (h : t.Windowed logCapacity)
    (hkept : plane.log = t.site.plane.log ∧ plane.logCapacity = t.site.plane.logCapacity) :
    (t.setPlane plane).Windowed logCapacity :=
  ⟨hkept.2.trans h.capacity_eq, (congrArg Array.toList hkept.1).trans h.log_eq⟩

theorem Windowed.move {logCapacity : Nat} {t : Transit} (h : t.Windowed logCapacity) (m : Move) :
    (t.move m).Windowed logCapacity := by
  cases m with
  | begin request limit => exact ⟨h.capacity_eq, h.log_eq⟩
  | drop position => exact ⟨h.capacity_eq, h.log_eq⟩
  | wait instant => exact ⟨h.capacity_eq, h.log_eq⟩
  | control event isControl => exact h.setPlane (log_happen_of_control isControl _)
  | advance position =>
      cases hx : t.passages[position]? with
      | none =>
          simp only [Transit.move, hx]
          exact h
      | some x =>
          rw [move_advance hx]
          have hkept := h.setPlane (log_advance x t.site.now t.site.wall t.site.plane)
          exact ⟨hkept.capacity_eq, hkept.log_eq⟩
  | finish position =>
      simp only [Transit.move]
      split
      · -- The one move that logs a call.
        rename_i request call answer hx
        refine ⟨h.capacity_eq, ?_⟩
        show (appendBounded t.site.plane.logCapacity t.site.plane.log _).toList = _
        rw [h.capacity_eq, toList_appendBounded h.log_eq, List.map_append]
        rfl
      · exact h

theorem windowed_run (logCapacity : Nat) (epoch : Timestamp) (moves : List Move) :
    (run logCapacity epoch moves).Windowed logCapacity := by
  induction moves using List.reverseRecOn with
  | nil => exact ⟨rfl, by simp [run, start, Site.create, empty, List.rtake]⟩
  | append_singleton moves m ih =>
      rw [run_concat]
      exact ih.move m

/-! ## Nothing else depends on the log -/

/-- The same without a log. -/
def unlogged (t : Transit) : Transit := t.setPlane t.site.plane.unlogged

theorem advance_unlogged (x : Passage) (now : Instant) (wall : Timestamp) (p : ControlPlane) :
    x.advance now wall p.unlogged =
      ((x.advance now wall p).1, (x.advance now wall p).2.unlogged) := by
  obtain ⟨request, call, progress⟩ := x
  cases progress with
  | waiting =>
      simp only [Passage.advance, ControlPlane.unlogged]
      split_ifs
      · split <;> rfl
      · rfl
  | admitted =>
      simp only [Passage.advance, ControlPlane.unlogged]
      split <;> rfl
  | checked =>
      simp only [Passage.advance, ControlPlane.unlogged]
      split <;> rfl
  | answered answer => rfl

theorem happen_unlogged_of_control {event : Event} (h : event.call? = none) (p : ControlPlane) :
    p.unlogged.happen event = ((p.happen event).1, (p.happen event).2.unlogged) := by
  cases event with
  | failNext operation count error => rfl
  | supersede name => rfl
  | removeNode name => rfl
  | setLatency latency => rfl
  | _ => cases h

/-- Every move does the same without the log. -/
theorem unlogged_move (t : Transit) (m : Move) : (t.move m).unlogged = t.unlogged.move m := by
  cases m with
  | begin request limit => rfl
  | drop position => rfl
  | wait instant => rfl
  | control event isControl =>
      have hsame := happen_unlogged_of_control isControl t.site.plane
      show t.setPlane _ = t.setPlane (t.site.plane.unlogged.happen event).2
      rw [hsame]
      rfl
  | advance position =>
      cases hx : t.passages[position]? with
      | none =>
          have hunlogged : t.unlogged.passages[position]? = none := hx
          simp only [move, hx, hunlogged]
      | some x =>
          have hunlogged : t.unlogged.passages[position]? = some x := hx
          have hsame := advance_unlogged x t.site.now t.site.wall t.site.plane
          rw [move_advance hx, move_advance hunlogged]
          show _ = t.place position (x.advance t.site.now t.site.wall t.site.plane.unlogged).1
            (x.advance t.site.now t.site.wall t.site.plane.unlogged).2
          rw [hsame]
          rfl
  | finish position =>
      have hunlogged : t.unlogged.passages = t.passages := rfl
      simp only [move, hunlogged]
      split <;> rfl

theorem run_zero (logCapacity : Nat) (epoch : Timestamp) (moves : List Move) :
    run 0 epoch moves = (run logCapacity epoch moves).unlogged := by
  induction moves using List.reverseRecOn with
  | nil => rfl
  | append_singleton moves m ih => rw [run_concat, run_concat, unlogged_move, ih]

/-! ## What a run shows -/

/-- The calls that somebody begins, in order. -/
def begun (moves : List Move) : List Request :=
  moves.filterMap fun
    | .begin request _ => some request
    | _ => none

/-- All calls, those that have come back first. -/
def requests (t : Transit) : List Request :=
  t.completed.map Completion.request ++ t.passages.map Passage.request

theorem request_advance (x : Passage) (now : Instant) (wall : Timestamp) (p : ControlPlane) :
    (x.advance now wall p).1.request = x.request := by
  obtain ⟨request, call, progress⟩ := x
  cases progress with
  | waiting =>
      simp only [Passage.advance]
      split_ifs
      · split <;> rfl
      · rfl
  | admitted =>
      simp only [Passage.advance]
      split <;> rfl
  | checked =>
      simp only [Passage.advance]
      split <;> rfl
  | answered answer => rfl

/-- No move makes up a call, and none makes two of one. -/
theorem requests_move (t : Transit) (m : Move) :
    (t.move m).requests.Subperm (t.requests ++ begun [m]) := by
  cases m with
  | begin request limit =>
      have hmore : (t.move (.begin request limit)).requests =
          t.requests ++ begun [.begin request limit] := by
        simp [move, requests, begun]
      exact hmore ▸ List.Subperm.refl _
  | control event isControl => exact (List.sublist_append_left _ _).subperm
  | wait instant => exact (List.sublist_append_left _ _).subperm
  | drop position =>
      have hless : (t.move (.drop position)).requests.Sublist t.requests :=
        ((List.eraseIdx_sublist ..).map _).append_left _
      exact (hless.trans (List.sublist_append_left _ _)).subperm
  | advance position =>
      have hsame : (t.move (.advance position)).requests = t.requests := by
        cases hx : t.passages[position]? with
        | none => simp only [move, hx]
        | some x =>
            obtain ⟨hlt, rfl⟩ := List.getElem?_eq_some_iff.1 hx
            rw [move_advance hx, requests, requests]
            simp only [place, setPlane, List.map_set, request_advance]
            rw [← List.map_set, List.set_getElem_self]
      rw [hsame]
      exact (List.sublist_append_left _ _).subperm
  | finish position =>
      simp only [move]
      split
      · -- The call goes over from those on their way to those that have come back.
        rename_i request call answer hx
        obtain ⟨hlt, hx⟩ := List.getElem?_eq_some_iff.1 hx
        have hperm := (List.getElem_cons_eraseIdx_perm hlt).map Passage.request
        rw [hx] at hperm
        have hall : (requests { t.setPlane (t.site.plane.record request.operation request.caller
            t.site.now answer.error?) with
            passages := t.passages.eraseIdx position
            completed := t.completed ++ [⟨request, answer, t.site.now⟩] }).Perm t.requests := by
          simp only [requests, List.map_append, List.append_assoc]
          exact hperm.append_left _
        exact hall.subperm.trans (List.sublist_append_left _ _).subperm
      · exact (List.sublist_append_left _ _).subperm

theorem subperm_requests_run (logCapacity : Nat) (epoch : Timestamp) (moves : List Move) :
    (run logCapacity epoch moves).requests.Subperm (begun moves) := by
  induction moves using List.reverseRecOn with
  | nil => exact List.Subperm.refl _
  | append_singleton moves m ih =>
      have hbegun : begun (moves ++ [m]) = begun moves ++ begun [m] := List.filterMap_append
      rw [run_concat, hbegun]
      exact (requests_move _ m).trans ((List.subperm_append_right _).2 ih)

/-- What the log of a control plane shows after any moves of its callers. -/
structure Shows (logCapacity : Nat) (epoch : Timestamp) (moves : List Move) (t : Transit) :
    Prop where
  /-- The last calls that have come back, in the order in which they did. -/
  log_eq : t.site.plane.log.toList = (t.completed.map Completion.record).rtake logCapacity
  size_eq : t.site.plane.log.size = min logCapacity t.completed.length
  /-- A call is shown with the error with which it came back. -/
  error_iff : ∀ done ∈ t.completed, ∀ error,
    done.record.error = some error ↔ done.answer = .refused error
  /-- Every call was begun, and comes back once. -/
  requested : (t.completed.map Completion.request).Subperm (begun moves)
  callsFor_eq : ∀ operation agent, t.site.plane.callsFor operation agent =
    ((t.completed.rtake logCapacity).filter fun done =>
      done.request.operation = operation ∧ done.request.caller.name = agent).map Completion.record
  successes_eq : ∀ operation agent, t.site.plane.successes operation agent =
    ((t.completed.rtake logCapacity).filter fun done =>
      (done.request.operation = operation ∧ done.request.caller.name = agent) ∧
        done.answer.error?.isNone).map Completion.endedAt
  /-- Without a log the same happens: nodes, faults and answers are the same. -/
  unlogged_eq : run 0 epoch moves = t.unlogged
  /-- A call that goes all the way at once is what happens to the running control plane. -/
  through_eq : ∀ position x, t.passages[position]? = some x → x.progress = .waiting →
    x.call.answeredAt ≤ t.site.now → run logCapacity epoch (moves ++ through position) =
      { t.setPlane (t.site.plane.happen (x.request.event t.site.now t.site.wall)).2 with
        passages := t.passages.eraseIdx position
        completed := t.completed ++
          [⟨x.request, (t.site.plane.happen (x.request.event t.site.now t.site.wall)).1,
            t.site.now⟩] }

theorem Windowed.callsFor_eq {logCapacity : Nat} {t : Transit} (h : t.Windowed logCapacity)
    (operation : Operation) (agent : String) :
    t.site.plane.callsFor operation agent =
      ((t.completed.rtake logCapacity).filter fun done =>
        done.request.operation = operation ∧ done.request.caller.name = agent).map
          Completion.record := by
  have hmap : (t.completed.map Completion.record).rtake logCapacity =
      (t.completed.rtake logCapacity).map Completion.record := by
    rw [List.rtake, List.rtake, List.map_drop, List.length_map]
  rw [callsFor, h.log_eq, hmap, List.filter_map]
  rfl

/-- The log is an exact window on the calls that have come back, and nothing depends on it. -/
theorem run_shows (logCapacity : Nat) (epoch : Timestamp) (moves : List Move) :
    Shows logCapacity epoch moves (run logCapacity epoch moves) := by
  have hwindowed := windowed_run logCapacity epoch moves
  have hcalls := hwindowed.callsFor_eq
  refine
    { log_eq := hwindowed.log_eq
      size_eq := ?_
      error_iff := fun _ _ _ => Answer.error?_eq_some_iff
      requested := ?_
      callsFor_eq := hcalls
      successes_eq := ?_
      unlogged_eq := run_zero logCapacity epoch moves
      through_eq := ?_ }
  · rw [← Array.length_toList, hwindowed.log_eq, List.rtake, List.length_drop, List.length_map]
    omega
  · exact (List.sublist_append_left _ _).subperm.trans
      (subperm_requests_run logCapacity epoch moves)
  · intro operation agent
    rw [successes, hcalls, List.filter_map, List.map_map, List.filter_filter]
    apply congrArg (List.map Completion.endedAt)
    apply List.filter_congr
    intro done _
    simp only [Function.comp_apply, Completion.record, Bool.decide_and, Bool.decide_eq_true,
      Bool.and_comm]
  · intro position x hx hwaiting hanswered
    rw [run, List.foldl_append]
    exact carried_through hx hwaiting hanswered

end Transit

end NodeFleet.ControlPlane
