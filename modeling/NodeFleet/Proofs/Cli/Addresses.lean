import NodeFleet.Cli
import NodeFleet.Proofs.Api.Route
import NodeFleet.Proofs.Url.Reference

/-!
# What the client's requests are about

The client puts the names that it is given into its references as they are.  A daemon reads
the same names from the target of the request if and only if they are clear
(`subject?_join_iff`): nothing in them has a meaning in an address.  A clear subject is reached
and no other one; if a name is not clear, then the request is about something else or about
nothing, although the client goes on to speak of the name it was given.
-/

namespace NodeFleet

open NodeFleet.Text

/-! ## Clear subjects -/

/-- A subject whose names stand for themselves in an address.  A blank is lost only at the end of
the last name. -/
structure Api.Subject.IsClear (s : Api.Subject) : Prop where
  plain : ∀ name ∈ s.names, Url.IsPlain name.toList
  unbroken : ∀ name ∈ s.names, ∀ c ∈ name.toList, Url.isInner c = true
  closed : ∀ last ∈ s.names.getLast?, ∀ c ∈ last.toList.getLast?, Url.isOuter c = false

namespace Cli

/-! ## References -/

/-- What every reference to a subject begins with. -/
def referenceFront : List Char := "api/v1/agents/".toList

/-- The rest of the reference to a subject. -/
def referenceBody (s : Api.Subject) : List Char :=
  ['/'].intercalate (s.names.map String.toList)

/-- The reference to a subject. -/
def reference (s : Api.Subject) : List Char :=
  referenceFront ++ referenceBody s

theorem toList_agentPath (agent : String) :
    (agentPath agent).toList = reference (.agent agent) := by
  have hfront : agentsPath.toList ++ "/".toList = referenceFront := by decide
  have hbody : referenceBody (.agent agent) = agent.toList := List.intercalate_singleton
  rw [agentPath, String.toList_append, String.toList_append, hfront, reference, hbody]

theorem toList_placementsPath (agent : String) :
    (placementsPath agent).toList = reference (.placements agent) := by
  have hbody : referenceBody (.placements agent) =
      referenceBody (.agent agent) ++ "/placements".toList := by
    simp [referenceBody, Api.Subject.names, List.intercalate_cons_cons]
  rw [placementsPath, String.toList_append, toList_agentPath, reference, reference, hbody,
    List.append_assoc]

theorem toList_placementPath (agent workload : String) :
    (placementPath agent workload).toList = reference (.placement agent workload) := by
  have hbody : referenceBody (.placement agent workload) =
      referenceBody (.placements agent) ++ "/".toList ++ workload.toList := by
    simp [referenceBody, Api.Subject.names, List.intercalate_cons_cons]
  rw [placementPath, String.toList_append, String.toList_append, toList_placementsPath, reference,
    reference, hbody, List.append_assoc, List.append_assoc, List.append_assoc]

theorem intercalate_path (s : Api.Subject) : ['/'].intercalate s.path = reference s := by
  cases s <;> rfl

theorem clean_reference (s : Api.Subject) :
    Url.clean (String.ofList (reference s)) =
      referenceFront ++ ((referenceBody s).rdropWhile Url.isOuter).filter Url.isInner :=
  Url.clean_append (by decide) (by decide) (referenceBody s)

theorem getLast?_referenceBody {s : Api.Subject} (h : ∀ name ∈ s.names, name ≠ "") :
    (referenceBody s).getLast? = s.names.getLast?.bind fun last => last.toList.getLast? := by
  cases s with
  | agent name => simp [referenceBody, Api.Subject.names]
  | placements name =>
      simp [referenceBody, Api.Subject.names, List.intercalate_cons_cons]
  | placement name workload =>
      have hne : workload.toList ≠ [] := fun heq =>
        h workload (by simp [Api.Subject.names]) (String.toList_eq_nil_iff.1 heq)
      simp [referenceBody, Api.Subject.names, List.intercalate_cons_cons, List.getLast?_cons,
        List.getLast?_eq_some_getLast hne]

/-- The whole reference counts if and only if no name has a line break and the last none at its end. -/
theorem clean_reference_eq_iff {s : Api.Subject} (h : ∀ name ∈ s.names, name ≠ "") :
    Url.clean (String.ofList (reference s)) = reference s ↔
      (∀ name ∈ s.names, ∀ c ∈ name.toList, Url.isInner c = true) ∧
        ∀ last ∈ s.names.getLast?, ∀ c ∈ last.toList.getLast?, Url.isOuter c = false := by
  have hinner : (∀ c ∈ referenceBody s, Url.isInner c = true) ↔
      ∀ name ∈ s.names, ∀ c ∈ name.toList, Url.isInner c = true := by
    constructor
    · intro hbody name hname c hc
      by_cases hslash : c = '/'
      · exact hslash ▸ by decide
      · exact hbody c ((Url.mem_intercalate_iff hslash).2
          ⟨name.toList, List.mem_map_of_mem hname, hc⟩)
    · intro hnames c hc
      by_cases hslash : c = '/'
      · exact hslash ▸ by decide
      · obtain ⟨segment, hsegment, hmem⟩ := (Url.mem_intercalate_iff hslash).1 hc
        obtain ⟨name, hname, rfl⟩ := List.mem_map.1 hsegment
        exact hnames name hname c hmem
  have hclosed : (∀ c ∈ (referenceBody s).getLast?, Url.isOuter c = false) ↔
      ∀ last ∈ s.names.getLast?, ∀ c ∈ last.toList.getLast?, Url.isOuter c = false := by
    rw [getLast?_referenceBody h]
    cases s.names.getLast? <;> simp
  rw [clean_reference, reference, List.append_cancel_left_eq, Url.filter_rdropWhile_eq_iff, hinner,
    hclosed]

/-- What a reference leads to from the root of a host. -/
def leadsTo (base : Url) (s : Api.Subject) : Url :=
  base.withPath [] (Url.clean (String.ofList (reference s)))

theorem join?_reference {base : Url} (hpath : base.path = .segments [""])
    (hscheme : base.scheme = "http") (s : Api.Subject) :
    base.join? (String.ofList (reference s)) = some (leadsTo base s) := by
  have hclean : Url.clean (String.ofList (reference s)) = "api/".toList ++
      ("v1/agents/".toList ++ ((referenceBody s).rdropWhile Url.isOuter).filter Url.isInner) :=
    clean_reference s
  exact Url.join?_of_clean hpath hscheme hclean

/-- The segments of what a reference leads to. -/
def segments (s : Api.Subject) : List String :=
  Url.resolve true []
    ((Url.clean (String.ofList (reference s))).takeWhile fun c => !Url.endsPath c)

theorem path_leadsTo {base : Url} (hscheme : base.scheme = "http") (s : Api.Subject) :
    Target.path (leadsTo base s).target = Api.pathOf ((segments s).map String.toList) := by
  have hspecial : Url.isSpecial base.scheme = true := by rw [hscheme]; decide
  have hpath : (leadsTo base s).path = .segments (segments s) := by
    rw [leadsTo, Url.withPath, hspecial]
    rfl
  rw [Url.path_target hpath (Url.resolve_ne_nil _ _ _), Api.pathOf, List.flatMap_map]
  intro part hpart c hc
  have hkept := (Url.mem_resolve hpart hc).2
  by_contra hends
  have hmark : c = '?' ∨ c = '#' := by
    simpa only [Url.endsPath, Bool.not_eq_false, Bool.or_eq_true, decide_eq_true_eq] using hends
  rcases hmark with rfl | rfl <;> exact absurd hkept (by decide)

/-- The daemon reads a subject from its reference if and only if it is clear. -/
theorem subject?_leadsTo_iff {base : Url} (hscheme : base.scheme = "http") {s : Api.Subject}
    (hne : ∀ name ∈ s.names, name ≠ "") :
    Api.subject? (leadsTo base s).target = some s ↔ s.IsClear := by
  have hnil : s.path ≠ [] := List.cons_ne_nil _ _
  constructor
  · intro h
    have hsublist : (Url.clean (String.ofList (reference s))).Sublist
        (['/'].intercalate s.path) := by
      rw [intercalate_path, clean_reference, reference]
      exact (List.filter_sublist.trans (List.rdropWhile_prefix _ _).sublist).append_left _
    have hslash : ∀ segment ∈ (segments s).map String.toList, '/' ∉ segment :=
      List.forall_mem_map.2 fun part hpart hmem => (Url.mem_resolve hpart hmem).1 rfl
    have hreads := Api.forall₂_of_subject? hslash (path_leadsTo hscheme s) h
    rw [List.forall₂_map_left_iff] at hreads
    obtain ⟨hclean, hplain⟩ := Url.isPlain_of_forall₂_resolve hnil hsublist hreads
    rw [intercalate_path] at hclean
    obtain ⟨hunbroken, hclosed⟩ := (clean_reference_eq_iff hne).1 hclean
    refine ⟨fun name hname => hplain _ ?_, hunbroken, hclosed⟩
    exact List.mem_map_of_mem (List.mem_append_right _ hname)
  · intro h
    have hclean := (clean_reference_eq_iff hne).2 ⟨h.unbroken, h.closed⟩
    have hplain : ∀ name ∈ s.path, Url.IsPlain name := by
      rw [Api.Subject.path, List.map_append]
      exact List.forall_mem_append.2 ⟨by decide, List.forall_mem_map.2 h.plain⟩
    have hsegments : segments s = s.path.map (Url.encoded Url.isPathChar) := by
      rw [segments, hclean, ← intercalate_path, Url.resolve_of_isPlain hnil hplain]
    let write (name : String) : List Char := (Url.encoded Url.isPathChar name.toList).toList
    have hread : ∀ name ∈ s.names, Percent.decode? (write name) = some name.toList :=
      fun name hname => Url.reads_encoded_iff.2
        (Percent.decode?_of_isUnescaped (h.plain name hname).isUnescaped)
    refine Api.subject?_of_segments write hread ?_ ?_ rfl ?_
    · exact fun name hname hmem =>
        (Url.mem_encoded ((h.plain name hname).notMem '/' (by decide)) hmem).1 rfl
    · intro name hname hempty
      have hnothing : some [] = some name.toList := (hempty ▸ hread name hname :)
      exact hne name hname (String.toList_eq_nil_iff.1 (Option.some.inj hnothing).symm)
    · have hfront : (Api.Subject.front.map String.toList).map
          (String.toList ∘ Url.encoded Url.isPathChar) = Api.Subject.front.map String.toList := by
        decide
      rw [path_leadsTo hscheme, hsegments, Api.Subject.path, List.map_map, List.map_append,
        List.map_append, hfront, List.map_map]
      rfl

theorem eq_of_leadsTo_eq {base : Url} (hscheme : base.scheme = "http") {s t : Api.Subject}
    (hs : ∀ name ∈ s.names, name ≠ "") (ht : ∀ name ∈ t.names, name ≠ "") (hclearS : s.IsClear)
    (hclearT : t.IsClear) (h : leadsTo base s = leadsTo base t) : s = t := by
  have hreadS := (subject?_leadsTo_iff hscheme hs).2 hclearS
  have hreadT := (subject?_leadsTo_iff hscheme ht).2 hclearT
  rw [h, hreadT] at hreadS
  exact (Option.some.inj hreadS).symm

end Cli

end NodeFleet
