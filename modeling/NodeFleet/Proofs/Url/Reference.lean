import Mathlib.Data.List.DropRight
import NodeFleet.Proofs.Url.Path
import NodeFleet.Target

/-!
# References seen from the root of a host

A reference that begins with a name and a slash is seen from the root of a host as the path
it spells (`join?_of_clean`), and a server finds that path in the target of the request
(`path_target`).  Only what counts of the reference is seen: blanks at its end and line
breaks in it are lost (`clean_eq_iff`).
-/

namespace NodeFleet.Url

open NodeFleet.Text

/-! ## The text that counts -/

/-- Whether a character counts between others. -/
def isInner (c : Char) : Bool :=
  c ≠ '\t' && c ≠ '\n' && c ≠ '\r'

/-- Whether a character counts at the ends. -/
def isOuter (c : Char) : Bool :=
  c.toNat ≤ 0x20

theorem isInner_of_isOuter {c : Char} (h : isOuter c = false) : isInner c = true := by
  have hne {d : Char} (hd : isOuter d = true) : c ≠ d := fun heq => by simp [heq, hd] at h
  simp [isInner, hne (d := '\t') (by decide), hne (d := '\n') (by decide),
    hne (d := '\r') (by decide)]

/-- Of a text that begins with a character that counts, only the end is cleaned. -/
theorem clean_append {front : List Char} (hne : front ≠ []) (h : ∀ c ∈ front, isOuter c = false)
    (back : List Char) :
    clean (String.ofList (front ++ back)) = front ++ (back.rdropWhile isOuter).filter isInner := by
  have hkept {cs : List Char} (hne : cs ≠ []) (h : ∀ c ∈ cs, isOuter c = false)
      (rest : List Char) :
      (cs ++ rest).dropWhile isOuter = cs ++ rest := by
    obtain ⟨c, tail, rfl⟩ := List.exists_cons_of_ne_nil hne
    rw [List.cons_append, List.dropWhile_cons_of_neg (by simp [h c List.mem_cons_self])]
  have hend : (front ++ back).rdropWhile isOuter = front ++ back.rdropWhile isOuter := by
    have hfront := hkept (List.reverse_ne_nil_iff.2 hne)
      (fun c hc => h c (List.mem_reverse.1 hc)) []
    rw [List.append_nil] at hfront
    rw [List.rdropWhile, List.rdropWhile, List.reverse_append, List.dropWhile_append, hfront]
    split_ifs with hempty
    · simp [List.isEmpty_iff.1 hempty]
    · simp
  calc clean (String.ofList (front ++ back))
      = (((front ++ back).dropWhile isOuter).rdropWhile isOuter).filter isInner := by
        rw [clean, String.toList_ofList]
        rfl
    _ = front.filter isInner ++ (back.rdropWhile isOuter).filter isInner := by
        rw [hkept hne h back, hend, List.filter_append]
    _ = front ++ (back.rdropWhile isOuter).filter isInner := by
        rw [List.filter_eq_self.2 fun c hc => isInner_of_isOuter (h c hc)]

/-- Nothing of a text is lost if no line breaks are in it and no blanks at its end. -/
theorem filter_rdropWhile_eq_iff {cs : List Char} :
    (cs.rdropWhile isOuter).filter isInner = cs ↔
      (∀ c ∈ cs, isInner c = true) ∧ ∀ c ∈ cs.getLast?, isOuter c = false := by
  have hlast : cs.rdropWhile isOuter = cs ↔ ∀ c ∈ cs.getLast?, isOuter c = false := by
    rw [List.rdropWhile_eq_self_iff]
    constructor
    · intro h c hc
      have hne : cs ≠ [] := by rintro rfl; exact nomatch hc
      rw [List.getLast?_eq_some_getLast hne, Option.mem_some_iff] at hc
      exact hc ▸ Bool.eq_false_iff.2 (h hne)
    · intro h hne
      simp [h _ (List.getLast?_eq_some_getLast hne)]
  constructor
  · intro h
    have hfilter : ((cs.rdropWhile isOuter).filter isInner).length ≤ (cs.rdropWhile isOuter).length :=
      List.length_filter_le _ _
    have hkept : cs.rdropWhile isOuter = cs :=
      (List.rdropWhile_prefix isOuter cs).eq_of_length_le (by rwa [h] at hfilter)
    rw [hkept] at h
    exact ⟨List.filter_eq_self.1 h, hlast.1 hkept⟩
  · rintro ⟨hinner, houter⟩
    rw [hlast.2 houter, List.filter_eq_self.2 hinner]

/-! ## References -/

theorem join?_of_clean {base : Url} (hpath : base.path = .segments [""])
    (hscheme : base.scheme = "http") {reference : String} {rest : List Char}
    (hclean : clean reference = "api/".toList ++ rest) :
    base.join? reference = some (withPath base [] (clean reference)) := by
  have hscheme? : cutScheme? ("api/".toList ++ rest) = none := rfl
  have hspecial : isSpecial base.scheme = true := by rw [hscheme]; decide
  have hfolder : base.folder = [] := by rw [folder, hpath]; rfl
  have hhierarchical : base.isHierarchical = true := by rw [isHierarchical, hpath]
  have hrelative : joinRelative? base ("api/".toList ++ rest) =
      some (withPath base base.folder ("api/".toList ++ rest)) := by
    rw [joinRelative?.eq_def, hspecial]
    rfl
  rw [join?, hclean, hscheme?]
  simp only [hhierarchical, if_true, hrelative, hfolder]

theorem read?_http {authority : String}
    (hauthority : ∀ c ∈ authority.toList, endsAuthority true c = false) {base : Url}
    (h : read? ("http://" ++ authority) = some base) :
    base.scheme = "http" ∧ base.path = .segments [""] := by
  let kept := (authority.toList.rdropWhile isOuter).filter isInner
  have hkept : ∀ c ∈ kept, endsAuthority true c = false := fun c hc =>
    hauthority c ((List.rdropWhile_prefix isOuter _).subset (List.mem_of_mem_filter hc))
  have hclean : clean ("http://" ++ authority) = "http://".toList ++ kept := by
    rw [← clean_append (by decide) (by decide), String.ofList_append, String.ofList_toList,
      String.ofList_toList]
  have hscheme : cutScheme? ("http://".toList ++ kept) = some ("http", "//".toList ++ kept) := rfl
  have hslashes : ("//".toList ++ kept).dropWhile (isSlash true) = kept := by
    cases hcases : kept with
    | nil => rfl
    | cons c rest =>
        have hc := hkept c (hcases ▸ List.mem_cons_self)
        simp only [endsAuthority, Bool.or_eq_false_iff] at hc
        change (c :: rest).dropWhile (isSlash true) = c :: rest
        rw [List.dropWhile_cons_of_neg (by simp [hc.1])]
  have hwhole : (kept.takeWhile fun c => !endsAuthority true c) = kept :=
    List.takeWhile_eq_self_iff.2 fun c hc => by rw [hkept c hc]; rfl
  have hspecial : isSpecial "http" = true := by decide
  rw [read?, hclean, hscheme] at h
  simp only [Option.bind_eq_bind, Option.bind_some, readRest?, hspecial, hslashes, readAuthority?,
    hwhole, List.drop_length, if_neg (show "http" ≠ "file" by decide), if_true, not_true_eq_false,
    and_false, if_false, Option.bind_eq_some_iff] at h
  obtain ⟨port, -, host, -, heq⟩ := h
  obtain rfl := Option.some.inj heq
  exact ⟨rfl, rfl⟩

/-! ## Targets -/

theorem toList_text (parts : List String) :
    (Path.segments parts).text.toList = parts.flatMap fun part => '/' :: part.toList := by
  simp [Path.text, String.toList_join, List.flatMap_map]

theorem path_target {u : Url} {parts : List String} (hpath : u.path = .segments parts)
    (hne : parts ≠ []) (hparts : ∀ part ∈ parts, ∀ c ∈ part.toList, endsPath c = false) :
    Target.path u.target = parts.flatMap fun part => '/' :: part.toList := by
  let path := parts.flatMap fun part => '/' :: part.toList
  let query := (u.query.map fun query => "?" ++ query).getD ""
  have htarget : u.target.toList = path ++ query.toList := by
    rw [target, hpath, String.toList_append, toList_text]
  have hpathChars : ∀ c ∈ path, (c ≠ '?' && c ≠ '#') = true := by
    intro c hc
    obtain ⟨part, hpart, hmem⟩ := List.mem_flatMap.1 hc
    rcases List.mem_cons.1 hmem with rfl | hmem
    · decide
    · simpa [endsPath] using hparts part hpart c hmem
  have hquery : (query.toList.takeWhile fun c => c ≠ '?' && c ≠ '#') = [] := by
    cases hcases : u.query with
    | none => simp [query, hcases]
    | some text => simp [query, hcases]
  have habsolute : Target.absolute? (path ++ query.toList) = none := by
    obtain ⟨first, rest, rfl⟩ := List.exists_cons_of_ne_nil hne
    rfl
  simp only [Target.path, htarget, habsolute]
  rw [Target.pathPart, List.takeWhile_append_of_pos hpathChars, hquery, List.append_nil]

end NodeFleet.Url
