/-!
# Blank characters and trimming

The blank characters are those with the Unicode property `White_Space`.  Names,
quantities and address ranges are read with blanks removed from both ends, so the
module gives the class (`isBlank`) and the two-sided `trim` on characters.
`trim_eq_nil_iff` says that only blank text trims to nothing.
-/

namespace NodeFleet.Text

/-- The characters with the Unicode property `White_Space`. -/
def isBlank (c : Char) : Bool :=
  let n := c.toNat
  (9 ≤ n && n ≤ 13) || n == 0x20 || n == 0x85 || n == 0xA0 || n == 0x1680 ||
    (0x2000 ≤ n && n ≤ 0x200A) || n == 0x2028 || n == 0x2029 || n == 0x202F ||
    n == 0x205F || n == 0x3000

/-- The characters without the blanks before the first and after the last other character. -/
def trim (cs : List Char) : List Char :=
  ((cs.dropWhile isBlank).reverse.dropWhile isBlank).reverse

theorem dropWhile_eq_nil_of_all {p : Char → Bool} :
    ∀ {cs : List Char}, (∀ c ∈ cs, p c = true) → cs.dropWhile p = []
  | [], _ => rfl
  | c :: cs, h => by
      have hc : p c = true := h c List.mem_cons_self
      rw [List.dropWhile_cons_of_pos hc]
      exact dropWhile_eq_nil_of_all fun d hd => h d (List.mem_cons_of_mem _ hd)

theorem all_of_dropWhile_eq_nil {p : Char → Bool} :
    ∀ {cs : List Char}, cs.dropWhile p = [] → ∀ c ∈ cs, p c = true
  | [], _ => fun _ hc => nomatch hc
  | c :: cs, h => by
      by_cases hc : p c = true
      · rw [List.dropWhile_cons_of_pos hc] at h
        intro d hd
        rcases List.mem_cons.mp hd with rfl | hd
        · exact hc
        · exact all_of_dropWhile_eq_nil h d hd
      · rw [List.dropWhile_cons_of_neg hc] at h
        exact absurd h (by simp)

/-- Nothing is left after trimming exactly when every character is blank. -/
theorem trim_eq_nil_iff {cs : List Char} : trim cs = [] ↔ ∀ c ∈ cs, isBlank c = true := by
  constructor
  · intro h
    have hrev : (cs.dropWhile isBlank).reverse.dropWhile isBlank = [] := by
      simpa [trim] using h
    have hall : ∀ c ∈ cs.dropWhile isBlank, isBlank c = true := fun c hc =>
      all_of_dropWhile_eq_nil hrev c (List.mem_reverse.mpr hc)
    have hnil : cs.dropWhile isBlank = [] := by
      cases hd : cs.dropWhile isBlank with
      | nil => rfl
      | cons c rest =>
          have hhead := List.head?_dropWhile_not isBlank cs
          rw [hd] at hhead hall
          simp [hall c List.mem_cons_self] at hhead
    exact all_of_dropWhile_eq_nil hnil
  · intro h
    simp [trim, dropWhile_eq_nil_of_all h]

end NodeFleet.Text
