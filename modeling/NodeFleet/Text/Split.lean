/-!
# Splitting at a character

`splitOn` gives the parts of a text between single occurrences of a character, so
there is always one part more than there are occurrences, and joining the parts
with the character gives the text back.  `cut?` splits at the first occurrence only.
-/

namespace NodeFleet.Text

/-- The parts of `cs` between single occurrences of `separator`. -/
def splitOn (separator : Char) : List Char → List (List Char)
  | [] => [[]]
  | c :: rest =>
      if c = separator then [] :: splitOn separator rest
      else
        match splitOn separator rest with
        | [] => [[c]]
        | part :: parts => (c :: part) :: parts

/-- The parts before and after the first occurrence of `separator`. -/
def cut? (separator : Char) : List Char → Option (List Char × List Char)
  | [] => none
  | c :: rest =>
      if c = separator then some ([], rest)
      else (cut? separator rest).map fun parts => (c :: parts.1, parts.2)

/-- What follows `front`, if `cs` starts with it. -/
def after? : List Char → List Char → Option (List Char)
  | [], cs => some cs
  | _ :: _, [] => none
  | f :: front, c :: cs => if f = c then after? front cs else none

theorem splitOn_ne_nil (separator : Char) (cs : List Char) : splitOn separator cs ≠ [] := by
  cases cs with
  | nil => simp [splitOn]
  | cons c rest =>
      unfold splitOn
      by_cases h : c = separator
      · simp [h]
      · simp only [h, if_false]
        split <;> simp

/-- Joining the parts gives the text back. -/
theorem intercalate_splitOn (separator : Char) (cs : List Char) :
    [separator].intercalate (splitOn separator cs) = cs := by
  induction cs with
  | nil => rfl
  | cons c rest ih =>
      unfold splitOn
      cases hparts : splitOn separator rest with
      | nil => exact absurd hparts (splitOn_ne_nil separator rest)
      | cons part parts =>
          rw [hparts] at ih
          by_cases h : c = separator
          · subst h
            simp only [if_true]
            rw [← ih]
            simp [List.intercalate, List.intersperse]
          · simp only [h, if_false]
            rw [← ih]
            cases parts <;> simp [List.intercalate, List.intersperse]

/-- No part contains the separator. -/
theorem notMem_of_mem_splitOn {separator : Char} {cs part : List Char}
    (h : part ∈ splitOn separator cs) : separator ∉ part := by
  induction cs generalizing part with
  | nil => simp [splitOn] at h; simp [h]
  | cons c rest ih =>
      unfold splitOn at h
      cases hparts : splitOn separator rest with
      | nil => exact absurd hparts (splitOn_ne_nil separator rest)
      | cons first parts =>
          rw [hparts] at h ih
          by_cases hc : c = separator
          · simp only [hc, if_true, List.mem_cons] at h
            rcases h with rfl | h
            · simp
            · exact ih (List.mem_cons.mpr h)
          · simp only [hc, if_false, List.mem_cons] at h
            rcases h with rfl | h
            · have := ih (List.mem_cons_self (a := first) (l := parts))
              simp [this, Ne.symm hc]
            · exact ih (List.mem_cons_of_mem _ h)

end NodeFleet.Text
