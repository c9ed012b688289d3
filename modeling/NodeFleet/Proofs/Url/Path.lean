import Mathlib.Algebra.GroupWithZero.Nat
import Mathlib.Data.List.Forall2
import Mathlib.Data.List.TakeWhile
import NodeFleet.Proofs.Text.Parts
import NodeFleet.Proofs.Text.Percent
import NodeFleet.Url

/-!
# Names in paths

Names are put into a path with slashes between them and read back from the resolved path.
Plain names become the segments of the path (`resolve_of_isPlain`), and no others come back
(`isPlain_of_forall₂_resolve`).  The second is a matter of length: each step from the text to the
decoded segments can lose characters and none can add any, for what ends the path is cut off,
the points are resolved, and escapes shrink.  So if as many characters come out as went in,
then every step left the names as they were.
-/

namespace NodeFleet.Url

open NodeFleet.Text

/-! ## Plain names -/

/-- A segment that is neither resolved away nor decoded to another one. -/
structure IsLiteral (segment : List Char) : Prop where
  isUnescaped : Percent.isUnescaped segment = true
  notHere : segment ≠ ['.']
  notUp : segment ≠ ['.', '.']

/-- A name that stands for itself between the slashes of a path. -/
structure IsPlain (name : List Char) : Prop extends IsLiteral name where
  notMem : ∀ c ∈ "/\\?#".toList, c ∉ name

instance (name : List Char) : Decidable (IsPlain name) :=
  decidable_of_iff
    ((Percent.isUnescaped name = true ∧ name ≠ ['.'] ∧ name ≠ ['.', '.']) ∧
      ∀ c ∈ "/\\?#".toList, c ∉ name)
    ⟨fun ⟨⟨h1, h2, h3⟩, h4⟩ => ⟨⟨h1, h2, h3⟩, h4⟩, fun ⟨⟨h1, h2, h3⟩, h4⟩ => ⟨⟨h1, h2, h3⟩, h4⟩⟩

theorem withPoints_of_isUnescaped {name : List Char} (h : Percent.isUnescaped name = true) :
    withPoints name = name := by
  fun_induction withPoints name with
  | case1 rest _ => simp [Percent.isUnescaped, Percent.beginsWithDigits, Percent.hexDigit?] at h
  | case2 rest _ => simp [Percent.isUnescaped, Percent.beginsWithDigits, Percent.hexDigit?] at h
  | case3 c rest _ _ ih =>
      rw [Percent.isUnescaped, Bool.and_eq_true] at h
      rw [ih h.2]
  | case4 => rfl

/-- A segment that is resolved away leaves an empty one at most. -/
def undotted (segment : List Char) : List Char :=
  if withPoints segment = ['.', '.'] ∨ withPoints segment = ['.'] then [] else segment

theorem ne_of_undotted {segment : List Char} (h : undotted segment = segment) :
    segment ≠ ['.'] ∧ segment ≠ ['.', '.'] := by
  constructor <;> rintro rfl <;> exact absurd h (by decide)

/-! ## Resolving -/

/-- The segments that are left after a walk are those of the folder and the path, some left out. -/
theorem exists_walk_eq (folder segments : List (List Char)) :
    ∃ kept : List (List Char), walk (folder.map (encoded isPathChar)) segments = kept.map (encoded isPathChar) ∧
      kept.Sublist (folder.reverse ++ segments.map undotted) := by
  have hdrop (folder : List (List Char)) (tail : List (List Char)) :
      ((folder.drop 1).reverse ++ tail).Sublist (folder.reverse ++ tail) :=
    (List.drop_sublist 1 folder).reverse.append_right tail
  induction segments generalizing folder with
  | nil => exact ⟨folder.reverse, by simp [walk], by simp⟩
  | cons segment rest ih =>
      cases rest with
      | nil =>
          simp only [walk, List.map_cons, List.map_nil]
          split_ifs with hup hhere
          · refine ⟨(folder.drop 1).reverse ++ [[]], by simp [encoded, Percent.encode], ?_⟩
            rw [undotted, if_pos (.inl hup)]
            exact hdrop folder [[]]
          · refine ⟨folder.reverse ++ [[]], by simp [encoded, Percent.encode], ?_⟩
            rw [undotted, if_pos (.inr hhere)]
          · refine ⟨folder.reverse ++ [segment], by simp, ?_⟩
            rw [undotted, if_neg (not_or_intro hup hhere)]
      | cons next rest =>
          have hskip (segment : List Char) : (folder.reverse ++ (next :: rest).map undotted).Sublist
              (folder.reverse ++ (segment :: next :: rest).map undotted) :=
            (List.sublist_cons_self _ _).append_left _
          simp only [walk]
          split_ifs with hup hhere
          · obtain ⟨kept, heq, hsub⟩ := ih (folder.drop 1)
            refine ⟨kept, by rw [← heq, List.map_drop], ?_⟩
            exact hsub.trans ((hdrop folder _).trans (hskip segment))
          · obtain ⟨kept, heq, hsub⟩ := ih folder
            exact ⟨kept, heq, hsub.trans (hskip segment)⟩
          · obtain ⟨kept, heq, hsub⟩ := ih (segment :: folder)
            refine ⟨kept, heq, ?_⟩
            have hself : undotted segment = segment := if_neg (not_or_intro hup hhere)
            simpa [hself] using hsub

theorem walk_ne_nil (folder : List String) {segments : List (List Char)} (h : segments ≠ []) :
    walk folder segments ≠ [] := by
  induction segments generalizing folder with
  | nil => exact absurd rfl h
  | cons segment rest ih =>
      cases rest with
      | nil => simp only [walk]; split_ifs <;> simp
      | cons next rest => simp only [walk]; split_ifs <;> exact ih _ (List.cons_ne_nil _ _)

theorem resolve_ne_nil (special : Bool) (folder : List String) (cs : List Char) :
    resolve special folder cs ≠ [] :=
  walk_ne_nil _ (splitOn_ne_nil _ _)

theorem mem_encoded {segment : List Char} (h : '/' ∉ segment) {c : Char}
    (hc : c ∈ (encoded isPathChar segment).toList) : c ≠ '/' ∧ isPathChar c = true := by
  rw [encoded, String.toList_ofList] at hc
  obtain ⟨d, hd, hc⟩ := List.mem_flatMap.1 hc
  split_ifs at hc with hkeep
  · obtain rfl := List.mem_singleton.1 hc
    exact ⟨fun heq => h (heq ▸ hd), hkeep⟩
  · have hdigits : ∀ n : Fin 16, Percent.hexChar n.val ≠ '/' ∧
        isPathChar (Percent.hexChar n.val) = true := by decide
    have hdigit (n : Nat) : Percent.hexChar n ≠ '/' ∧ isPathChar (Percent.hexChar n) = true := by
      simpa only [Percent.hexChar, Nat.mod_mod] using hdigits ⟨n % 16, Nat.mod_lt n (by decide)⟩
    obtain ⟨byte, -, hc⟩ := List.mem_flatMap.1 hc
    simp only [Percent.escape, List.mem_cons, List.not_mem_nil, or_false] at hc
    rcases hc with rfl | rfl | rfl
    · decide
    · exact hdigit _
    · exact hdigit _

/-- Segments from the root have no slashes and none of the characters that have to be escaped. -/
theorem mem_resolve {special : Bool} {cs : List Char} {part : String}
    (h : part ∈ resolve special [] cs) {c : Char} (hc : c ∈ part.toList) :
    c ≠ '/' ∧ isPathChar c = true := by
  obtain ⟨kept, hwalk, hkept⟩ :=
    exists_walk_eq [] (splitOn '/' (cs.map fun c => if isSlash special c then '/' else c))
  rw [resolve, List.reverse_nil, ← List.map_nil, hwalk] at h
  obtain ⟨segment, hsegment, rfl⟩ := List.mem_map.1 h
  obtain ⟨source, hsource, rfl⟩ := List.mem_map.1 (hkept.subset hsegment)
  refine mem_encoded ?_ hc
  rw [undotted]
  split_ifs
  · exact List.not_mem_nil
  · exact notMem_of_mem_splitOn hsource

theorem walk_of_isLiteral {names : List (List Char)} (h : ∀ name ∈ names, IsLiteral name)
    (folder : List String) :
    walk folder names = folder.reverse ++ names.map (encoded isPathChar) := by
  induction names generalizing folder with
  | nil => simp [walk]
  | cons name rest ih =>
      obtain ⟨hname, hrest⟩ := List.forall_mem_cons.1 h
      have hpoints := withPoints_of_isUnescaped hname.isUnescaped
      cases rest with
      | nil => simp [walk, hpoints, hname.notUp, hname.notHere]
      | cons next rest =>
          simp only [walk, hpoints, hname.notUp, hname.notHere, if_false]
          rw [ih hrest]
          simp

/-! ## Lengths -/

/-- The length of a path of segments, each after a slash. -/
def pathLength (segments : List (List Char)) : Nat :=
  (segments.map fun segment => segment.length + 1).sum

theorem pathLength_cons (segment : List Char) (rest : List (List Char)) :
    pathLength (segment :: rest) = segment.length + 1 + pathLength rest := by
  rw [pathLength, List.map_cons, List.sum_cons, pathLength]

theorem length_intercalate {segments : List (List Char)} (h : segments ≠ []) :
    (['/'].intercalate segments).length + 1 = pathLength segments := by
  induction segments with
  | nil => exact absurd rfl h
  | cons segment rest ih =>
      rw [pathLength_cons]
      cases rest with
      | nil => simp [pathLength]
      | cons next rest =>
          rw [List.intercalate_cons_cons, ← ih (List.cons_ne_nil _ _)]
          simp only [List.length_append, List.length_singleton]
          omega

theorem pathLength_splitOn (cs : List Char) : pathLength (splitOn '/' cs) = cs.length + 1 := by
  rw [← length_intercalate (splitOn_ne_nil '/' cs), intercalate_splitOn]

theorem pathLength_le_of_sublist {few many : List (List Char)} (h : few.Sublist many) :
    pathLength few ≤ pathLength many := by
  induction h with
  | slnil => exact Nat.le_refl _
  | cons segment _ ih => rw [pathLength_cons]; omega
  | cons_cons segment _ ih => rw [pathLength_cons, pathLength_cons]; omega

/-- No segment is missing if the length is the same. -/
theorem eq_of_sublist_of_pathLength {few many : List (List Char)} (h : few.Sublist many)
    (hlength : pathLength many ≤ pathLength few) : few = many := by
  induction h with
  | slnil => rfl
  | cons segment hsub _ =>
      have hle := pathLength_le_of_sublist hsub
      rw [pathLength_cons] at hlength
      omega
  | cons_cons segment _ ih =>
      rw [pathLength_cons, pathLength_cons] at hlength
      rw [ih (by omega)]

/-- Points that are resolved make a path shorter. -/
theorem pathLength_map_undotted (segments : List (List Char)) :
    pathLength (segments.map undotted) ≤ pathLength segments ∧
      (pathLength segments ≤ pathLength (segments.map undotted) →
        ∀ segment ∈ segments, undotted segment = segment) := by
  induction segments with
  | nil => exact ⟨Nat.le_refl _, fun _ _ h => nomatch h⟩
  | cons segment rest ih =>
      have hle : (undotted segment).length ≤ segment.length := by
        unfold undotted
        split_ifs
        · exact Nat.zero_le _
        · exact Nat.le_refl _
      rw [List.map_cons, pathLength_cons, pathLength_cons]
      refine ⟨by omega, fun h => List.forall_mem_cons.2 ⟨?_, ih.2 (by omega)⟩⟩
      have hlength : segment.length ≤ (undotted segment).length := by omega
      unfold undotted at hlength ⊢
      split_ifs at hlength ⊢
      · exact (List.eq_nil_of_length_eq_zero (Nat.le_zero.1 hlength)).symm
      · rfl

/-- Escapes that are decoded make a path shorter. -/
theorem pathLength_decode? {segments names : List (List Char)}
    (h : List.Forall₂ (fun segment name => Percent.decode? segment = some name) segments names) :
    pathLength names ≤ pathLength segments ∧
      (pathLength segments ≤ pathLength names →
        names = segments ∧ ∀ name ∈ names, Percent.isUnescaped name = true) := by
  induction h with
  | nil => exact ⟨Nat.le_refl _, fun _ => ⟨rfl, fun _ h => nomatch h⟩⟩
  | @cons segment name _ _ hdecode _ ih =>
      have hle := Percent.length_decode?_le hdecode
      rw [pathLength_cons, pathLength_cons]
      refine ⟨by omega, fun h => ?_⟩
      obtain ⟨hunescaped, rfl⟩ := Percent.eq_of_decode? hdecode (by omega)
      obtain ⟨rfl, hrest⟩ := ih.2 (by omega)
      exact ⟨rfl, List.forall_mem_cons.2 ⟨hunescaped, hrest⟩⟩

/-! ## Reading names back -/

theorem keeps_isPathChar : Percent.Keeps isPathChar where
  percent := by decide
  digit c hc := by
    have hrange : ∀ n < 128, (Percent.hexDigit? (Char.ofNat n)).isSome = true →
        isPathChar (Char.ofNat n) = true := by decide
    have hascii : c.toNat < 128 := by
      by_contra hge
      have hgt {d : Char} (hd : d.toNat < 128) : ¬ c ≤ d := fun hle => hge (Nat.lt_of_le_of_lt hle hd)
      simp only [Percent.hexDigit?] at hc
      rw [if_neg fun h => hgt (by decide) h.2, if_neg fun h => hgt (by decide) h.2, if_neg fun h => hgt (by decide) h.2] at hc
      exact Bool.false_ne_true hc
    simpa only [Char.ofNat_toNat] using hrange c.toNat hascii (by rwa [Char.ofNat_toNat])

/-- Whether a segment of a path is read as a name. -/
def Reads (segment : String) (name : List Char) : Prop :=
  Percent.decode? segment.toList = some name

theorem reads_encoded_iff {segment name : List Char} :
    Reads (encoded isPathChar segment) name ↔ Percent.decode? segment = some name := by
  rw [Reads, encoded, String.toList_ofList, Percent.decode?_encode keeps_isPathChar]

/-- Names that come back from segments no longer than they are were the segments, and literal. -/
theorem eq_of_forall₂_walk {segments names : List (List Char)}
    (hle : pathLength segments ≤ pathLength names)
    (hreads : List.Forall₂ Reads (walk [] segments) names) :
    segments = names ∧ ∀ name ∈ names, IsLiteral name := by
  obtain ⟨kept, hwalk, hkept⟩ := exists_walk_eq [] segments
  rw [List.map_nil] at hwalk
  rw [List.reverse_nil, List.nil_append] at hkept
  rw [hwalk, List.forall₂_map_left_iff] at hreads
  have hdecode := pathLength_decode? (hreads.imp fun _ _ => reads_encoded_iff.1)
  have hundotted := pathLength_map_undotted segments
  have hlength : pathLength kept ≤ pathLength (segments.map undotted) :=
    pathLength_le_of_sublist hkept
  -- What comes out is as long as what went in, so no step has lost anything.
  obtain ⟨rfl, hunescaped⟩ := hdecode.2 (by omega)
  have hself : ∀ segment ∈ segments, undotted segment = segment := hundotted.2 (by omega)
  have hkeptSelf : names = segments := calc
    names = segments.map undotted := eq_of_sublist_of_pathLength hkept (by omega)
    _ = segments.map id := List.map_congr_left hself
    _ = segments := List.map_id segments
  subst hkeptSelf
  exact ⟨rfl, fun name hname =>
    have hdots := ne_of_undotted (hself name hname)
    ⟨hunescaped name hname, hdots.1, hdots.2⟩⟩

/-! ## Names in texts -/

/-- Slashes of both kinds as one kind. -/
def slashed (cs : List Char) : List Char :=
  cs.map fun c => if isSlash true c then '/' else c

theorem slashed_eq_self_iff {cs : List Char} : slashed cs = cs ↔ '\\' ∉ cs := by
  have hnone : '\\' ∉ slashed cs := by
    intro h
    obtain ⟨c, -, hc⟩ := List.mem_map.1 h
    split_ifs at hc with hslash
    · exact absurd hc (by decide)
    · exact hslash (hc ▸ by decide)
  constructor
  · exact fun h => h ▸ hnone
  · intro h
    calc slashed cs = cs.map id := List.map_congr_left fun c hc => by
            have hne : c ≠ '\\' := fun heq => h (heq ▸ hc)
            split_ifs with hslash
            · simpa [isSlash, hne, eq_comm] using hslash
            · rfl
      _ = cs := List.map_id cs

theorem mem_intercalate_iff {c : Char} (hc : c ≠ '/') {segments : List (List Char)} :
    c ∈ ['/'].intercalate segments ↔ ∃ segment ∈ segments, c ∈ segment := by
  induction segments with
  | nil => simp
  | cons segment rest ih =>
      cases rest with
      | nil => simp
      | cons next rest =>
          rw [List.intercalate_cons_cons, List.mem_append, List.mem_append, List.mem_singleton, ih,
            List.exists_mem_cons_iff (a := segment)]
          simp only [hc, or_false]

theorem takeWhile_eq_self_iff {cs : List Char} :
    (cs.takeWhile fun c => !endsPath c) = cs ↔ '?' ∉ cs ∧ '#' ∉ cs := by
  simp only [List.takeWhile_eq_self_iff, endsPath, Bool.not_eq_true', Bool.or_eq_false_iff,
    decide_eq_false_iff_not]
  constructor
  · exact fun h => ⟨fun hmem => (h _ hmem).1 rfl, fun hmem => (h _ hmem).2 rfl⟩
  · exact fun ⟨hquery, hfragment⟩ c hc =>
      ⟨fun heq => hquery (heq ▸ hc), fun heq => hfragment (heq ▸ hc)⟩

theorem splitOn_slashed_of_isPlain {names : List (List Char)} (hne : names ≠ [])
    (h : ∀ name ∈ names, IsPlain name) :
    splitOn '/' (slashed ((['/'].intercalate names).takeWhile fun c => !endsPath c)) = names := by
  have hnone {c : Char} (hc : c ∈ "/\\?#".toList) (hslash : c ≠ '/') :
      c ∉ ['/'].intercalate names := by
    rw [mem_intercalate_iff hslash]
    exact fun ⟨name, hname, hmem⟩ => (h name hname).notMem c hc hmem
  rw [takeWhile_eq_self_iff.2 ⟨hnone (by decide) (by decide), hnone (by decide) (by decide)⟩,
    slashed_eq_self_iff.2 (hnone (by decide) (by decide)), splitOn_eq,
    List.splitOn_intercalate '/' (fun name hname => (h name hname).notMem '/' (by decide)) hne]

/-- Plain names become the segments of the path. -/
theorem resolve_of_isPlain {names : List (List Char)} (hne : names ≠ [])
    (h : ∀ name ∈ names, IsPlain name) :
    resolve true [] ((['/'].intercalate names).takeWhile fun c => !endsPath c) =
      names.map (encoded isPathChar) := by
  have hwalk := walk_of_isLiteral (fun name hname => (h name hname).toIsLiteral) []
  rw [List.reverse_nil, List.nil_append] at hwalk
  rw [← hwalk]
  exact congrArg (walk []) (splitOn_slashed_of_isPlain hne h)

/-- If the names of a path come back from a part of it, then the part is the whole and all names
are plain. -/
theorem isPlain_of_forall₂_resolve {names : List (List Char)} (hne : names ≠ []) {cs : List Char}
    (hcs : cs.Sublist (['/'].intercalate names))
    (h : List.Forall₂ Reads (resolve true [] (cs.takeWhile fun c => !endsPath c)) names) :
    cs = ['/'].intercalate names ∧ ∀ name ∈ names, IsPlain name := by
  have hprefix : (cs.takeWhile fun c => !endsPath c) <+: cs := List.takeWhile_prefix _
  have hpathLength := hprefix.length_le
  have hwholeLength := hcs.length_le
  have hnamesLength := length_intercalate hne
  have hsegmentsLength (path : List Char) :
      pathLength (splitOn '/' (slashed path)) = path.length + 1 := by
    rw [pathLength_splitOn, slashed, List.length_map]
  have hwalk : List.Forall₂ Reads
      (walk [] (splitOn '/' (slashed (cs.takeWhile fun c => !endsPath c)))) names := h
  obtain ⟨hnames, hliteral⟩ := eq_of_forall₂_walk (by rw [hsegmentsLength]; omega) hwalk
  have hlength := hsegmentsLength (cs.takeWhile fun c => !endsPath c)
  rw [hnames] at hlength
  obtain rfl : cs = ['/'].intercalate names := hcs.eq_of_length (by omega)
  have hpath := hprefix.eq_of_length (by omega)
  rw [hpath] at hnames
  have hslashed : slashed (['/'].intercalate names) = ['/'].intercalate names := by
    rw [← intercalate_splitOn '/' (slashed _), hnames]
  have hnone : ∀ c ∈ "\\?#".toList, c ∉ ['/'].intercalate names := by
    simpa [slashed_eq_self_iff.1 hslashed] using takeWhile_eq_self_iff.1 hpath
  refine ⟨rfl, fun name hname => ⟨hliteral name hname, fun c hc hmem => ?_⟩⟩
  rcases List.mem_cons.1 hc with rfl | hc
  · exact notMem_of_mem_splitOn (hnames ▸ hname) hmem
  · have hslash : c ≠ '/' := fun heq => absurd (heq ▸ hc) (by decide)
    exact hnone c hc ((mem_intercalate_iff hslash).2 ⟨name, hname, hmem⟩)

end NodeFleet.Url
