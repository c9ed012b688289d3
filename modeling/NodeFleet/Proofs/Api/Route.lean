import Mathlib.Data.List.Forall2
import NodeFleet.Api
import NodeFleet.Proofs.Text.Parts

/-!
# What requests are about

A request is about an agent, about its placements or about one of them, and the path of its
target says which (`subject?`).  The segments of the path are then those that belong to the
subject, percent-encoded in some way (`forall₂_of_subject?`).  An encoding that leaves the fixed
segments as they are is read back (`subject?_of_segments`), and the request is handled for
exactly the names that were read (`handle_placement`).
-/

namespace NodeFleet.Api

open NodeFleet.Text

/-- What a request about agents is about. -/
inductive Subject where
  | agent (name : String)
  | placements (agent : String)
  | placement (agent workload : String)
  deriving DecidableEq

namespace Subject

/-- The names after the front of the path. -/
def names : Subject → List String
  | .agent name => [name]
  | .placements name => [name, "placements"]
  | .placement name workload => [name, "placements", workload]

/-- The front of the path. -/
def front : List String := ["api", "v1", "agents"]

/-- The segments of the path, as they are meant. -/
def path (s : Subject) : List (List Char) :=
  (front ++ s.names).map String.toList

end Subject

/-- What a route is about, if its names can be decoded. -/
def Route.subject? : Route → Option Subject
  | .agent name => (decodeSegment? name).map .agent
  | .placements name => (decodeSegment? name).map .placements
  | .placement name workload => do
      return .placement (← decodeSegment? name) (← decodeSegment? workload)
  | .healthz | .readyz | .metrics | .agents => none

/-- What a target is about. -/
def subject? (target : String) : Option Subject :=
  (route? target).bind Route.subject?

/-! ## Segments -/

/-- A path of segments. -/
def pathOf (segments : List (List Char)) : List Char :=
  segments.flatMap fun segment => '/' :: segment

theorem pathOf_injective {few many : List (List Char)} (hfew : ∀ segment ∈ few, '/' ∉ segment)
    (hmany : ∀ segment ∈ many, '/' ∉ segment) (h : pathOf few = pathOf many) : few = many := by
  have hcons : [] :: few = [] :: many := by
    rw [← splitOn_flatMap hfew, ← splitOn_flatMap hmany]
    exact congrArg _ h
  exact List.tail_eq_of_cons_eq hcons

theorem after?_eq_some_iff {front cs rest : List Char} :
    after? front cs = some rest ↔ cs = front ++ rest := by
  induction front generalizing cs with
  | nil => simp [after?, eq_comm]
  | cons f front ih =>
      cases cs with
      | nil => simp [after?]
      | cons c cs =>
          rw [after?]
          split_ifs with heq
          · rw [ih, heq, List.cons_append, List.cons_inj_right]
          · simp [Ne.symm heq]

theorem pathOf_front (rest : List (List Char)) :
    pathOf (Subject.front.map String.toList ++ rest) = "/api/v1/agents".toList ++ pathOf rest := by
  rw [pathOf, List.flatMap_append]
  rfl

/-- The segments of the routes to agents come after the fixed front. -/
theorem exists_segments_of_route? {target : String} {route : Route} {s : Subject}
    (h : route? target = some route) (hsubject : route.subject? = some s) :
    ∃ rest : List (List Char), (∀ segment ∈ rest, '/' ∉ segment) ∧
      Target.path target = pathOf (Subject.front.map String.toList ++ rest) ∧
      routeOfSegments? ([] :: rest) = some route := by
  have hother {other : Route} (hroute : some other = some route) (hnone : other.subject? = none) :
      False := by
    obtain rfl := Option.some.inj hroute
    cases hnone.symm.trans hsubject
  unfold route? at h
  simp only at h
  split_ifs at h
  · exact (hother h rfl).elim
  · exact (hother h rfl).elim
  · exact (hother h rfl).elim
  · split at h
    · rename_i rest hafter
      have hpath := after?_eq_some_iff.1 hafter
      split_ifs at h with hrest
      cases rest with
      | nil => exact ⟨[], by simp, by rw [hpath, pathOf_front]; rfl, h⟩
      | cons c tail =>
          obtain rfl : c = '/' := by simpa using hrest
          rw [splitOn, if_pos rfl] at h
          exact ⟨splitOn '/' tail, fun _ => notMem_of_mem_splitOn,
            by rw [hpath, pathOf_front, pathOf, flatMap_splitOn], h⟩
    · cases h

theorem route?_of_segments {target : String} {rest : List (List Char)}
    (hrest : ∀ segment ∈ rest, '/' ∉ segment)
    (hpath : Target.path target = pathOf (Subject.front.map String.toList ++ rest)) :
    route? target = routeOfSegments? ([] :: rest) := by
  rw [pathOf_front] at hpath
  have hafter : after? "/api/v1/agents".toList (Target.path target) = some (pathOf rest) :=
    after?_eq_some_iff.2 hpath
  have hslash : pathOf rest = [] ∨ (pathOf rest).head? = some '/' := by
    cases rest with
    | nil => exact .inl rfl
    | cons => exact .inr rfl
  have hhealthz : Target.path target ≠ "/healthz".toList := by simp [hpath]
  have hreadyz : Target.path target ≠ "/readyz".toList := by simp [hpath]
  have hmetrics : Target.path target ≠ "/metrics".toList := by simp [hpath]
  simp only [route?, hhealthz, hreadyz, hmetrics, hafter, if_false, if_pos hslash]
  rw [pathOf, splitOn_flatMap hrest]

/-! ## Names -/

theorem decodeSegment?_eq_some_iff {segment : List Char} {name : String} :
    decodeSegment? segment = some name ↔ Percent.decode? segment = some name.toList := by
  rw [decodeSegment?, Option.map_eq_some_iff]
  constructor
  · rintro ⟨cs, hcs, rfl⟩
    rw [hcs, String.toList_ofList]
  · exact fun h => ⟨_, h, String.ofList_toList⟩

theorem forall₂_of_routeOfSegments? {rest : List (List Char)} {route : Route} {s : Subject}
    (h : routeOfSegments? ([] :: rest) = some route) (hsubject : route.subject? = some s) :
    List.Forall₂ (fun segment name => Percent.decode? segment = some name) rest
      (s.names.map String.toList) := by
  have hplacements : Percent.decode? "placements".toList = some "placements".toList := by decide
  match rest with
  | [] =>
      obtain rfl := Option.some.inj h
      exact nomatch hsubject
  | [name] =>
      simp only [routeOfSegments?] at h
      split_ifs at h
      obtain rfl := Option.some.inj h
      obtain ⟨agent, hagent, rfl⟩ := Option.map_eq_some_iff.1 hsubject
      exact .cons (decodeSegment?_eq_some_iff.1 hagent) .nil
  | [name, placements] =>
      simp only [routeOfSegments?] at h
      split_ifs at h with hfixed
      obtain rfl := Option.some.inj h
      obtain ⟨agent, hagent, rfl⟩ := Option.map_eq_some_iff.1 hsubject
      exact .cons (decodeSegment?_eq_some_iff.1 hagent) (.cons (hfixed ▸ hplacements) .nil)
  | [name, placements, workload] =>
      simp only [routeOfSegments?] at h
      split_ifs at h with hfixed
      obtain rfl := Option.some.inj h
      simp only [Route.subject?, Option.bind_eq_bind, Option.bind_eq_some_iff] at hsubject
      obtain ⟨agent, hagent, named, hnamed, heq⟩ := hsubject
      obtain rfl := Option.some.inj heq
      exact .cons (decodeSegment?_eq_some_iff.1 hagent)
        (.cons (hfixed.1 ▸ hplacements) (.cons (decodeSegment?_eq_some_iff.1 hnamed) .nil))
  | _ :: _ :: _ :: _ :: _ => exact nomatch h

/-- The segments of a path are those of what it is about, encoded in some way. -/
theorem forall₂_of_subject? {target : String} {segments : List (List Char)} {s : Subject}
    (hsegments : ∀ segment ∈ segments, '/' ∉ segment) (hpath : Target.path target = pathOf segments)
    (h : subject? target = some s) :
    List.Forall₂ (fun segment name => Percent.decode? segment = some name) segments s.path := by
  obtain ⟨route, hroute, hsubject⟩ := Option.bind_eq_some_iff.1 h
  obtain ⟨rest, hrest, hpathRest, hsegmentsRest⟩ := exists_segments_of_route? hroute hsubject
  have hall : ∀ segment ∈ Subject.front.map String.toList ++ rest, '/' ∉ segment :=
    List.forall_mem_append.2 ⟨by decide, hrest⟩
  have hfront : ∀ segment ∈ Subject.front.map String.toList,
      Percent.decode? segment = some segment := by decide
  obtain rfl := pathOf_injective hsegments hall (hpath.symm.trans hpathRest)
  rw [Subject.path, List.map_append]
  exact List.rel_append (List.forall₂_same.2 hfront)
    (forall₂_of_routeOfSegments? hsegmentsRest hsubject)

/-- A way to write names that can be decoded is read back, if it leaves the fixed segments as they
are and no name is lost. -/
theorem subject?_of_segments {target : String} {s : Subject} (write : String → List Char)
    (hdecode : ∀ name ∈ s.names, Percent.decode? (write name) = some name.toList)
    (hslash : ∀ name ∈ s.names, '/' ∉ write name) (hne : ∀ name ∈ s.names, write name ≠ [])
    (hfixed : write "placements" = "placements".toList)
    (hpath : Target.path target =
      pathOf (Subject.front.map String.toList ++ s.names.map write)) :
    subject? target = some s := by
  rw [subject?, route?_of_segments (List.forall_mem_map.2 hslash) hpath]
  cases s with
  | agent name =>
      simp only [Subject.names, List.forall_mem_singleton] at hdecode hne
      simp [Subject.names, routeOfSegments?, hne, Route.subject?, decodeSegment?, hdecode]
  | placements name =>
      simp only [Subject.names, List.forall_mem_cons] at hdecode
      simp [Subject.names, routeOfSegments?, hfixed, Route.subject?, decodeSegment?, hdecode.1]
  | placement name workload =>
      simp only [Subject.names, List.forall_mem_cons] at hdecode hne
      simp [Subject.names, routeOfSegments?, hfixed, Route.subject?, decodeSegment?, hdecode.1,
        hdecode.2.2.1, hne.2.2.1]

/-! ## Handling -/

/-- What is released is what the target is about. -/
theorem handle_placement {r : Request} (hmethod : r.method = "DELETE") {agent workload : String}
    (h : subject? r.target = some (.placement agent workload)) (f : Fleet) :
    handle f r = releasePlacement f agent workload := by
  obtain ⟨route, hroute, hsubject⟩ := Option.bind_eq_some_iff.1 h
  cases route with
  | placement name id =>
      simp only [Route.subject?, Option.bind_eq_bind, Option.bind_eq_some_iff] at hsubject
      obtain ⟨agent', hagent, workload', hworkload, heq⟩ := hsubject
      obtain ⟨rfl, rfl⟩ := Subject.placement.inj (Option.some.inj heq)
      simp only [handle, hroute, handleRoute, hmethod, withSegment, hagent, hworkload]
  | agent name => exact absurd hsubject (by simp [Route.subject?])
  | placements name => exact absurd hsubject (by simp [Route.subject?])
  | healthz | readyz | metrics | agents => exact nomatch hsubject

end NodeFleet.Api
