/-!
# Tables keyed by text

A table is a list of entries in ascending order of their keys, each key once.
The order is the one by code points, which is also the order of the UTF-8 bytes.
It is the container for everything that is looked up by name and listed in the
order of names: placements, nodes, component health, launched agents.
-/

namespace NodeFleet

/-- Entries in ascending order of their keys. -/
abbrev Table (α : Type) := List (String × α)

namespace Table

variable {α β : Type}

/-- The value at `key`. -/
def find? (key : String) : Table α → Option α
  | [] => none
  | (k, v) :: rest => if k = key then some v else find? key rest

/-- Puts `value` at `key`: in the place of the key's entry, or where the order wants it. -/
def insert (key : String) (value : α) : Table α → Table α
  | [] => [(key, value)]
  | (k, v) :: rest =>
      if k = key then (key, value) :: rest
      else if key < k then (key, value) :: (k, v) :: rest
      else (k, v) :: insert key value rest

/-- Removes the entry at `key`. -/
def erase (key : String) (table : Table α) : Table α :=
  table.filter fun entry => entry.1 ≠ key

/-- Changes the value at `key`, if there is one. -/
def modify (key : String) (change : α → α) (table : Table α) : Table α :=
  table.map fun entry => if entry.1 = key then (entry.1, change entry.2) else entry

/-- Whether `key` has an entry. -/
def contains (key : String) (table : Table α) : Bool :=
  (table.find? key).isSome

/-- The keys, ascending. -/
def keys (table : Table α) : List String :=
  table.map Prod.fst

/-- The values in the order of their keys. -/
def values (table : Table α) : List α :=
  table.map Prod.snd

/-- The table of the last entry of each key. -/
def ofEntries (entries : List (String × α)) : Table α :=
  entries.foldl (fun table entry => insert entry.1 entry.2 table) []

/-! ## What the operations do to look-ups -/

theorem find?_insert (key other : String) (value : α) (table : Table α) :
    find? other (insert key value table) =
      if key = other then some value else find? other table := by
  induction table with
  | nil => simp [insert, find?]
  | cons entry rest ih =>
      obtain ⟨k, v⟩ := entry
      unfold insert
      by_cases hk : k = key
      · subst hk
        by_cases ho : k = other <;> simp [find?, ho]
      · by_cases hlt : key < k
        · simp only [hk, hlt, if_false, if_true, find?]
        · simp only [hk, hlt, if_false, find?, ih]
          by_cases ho : k = other
          · have : key ≠ other := fun h => hk (ho.trans h.symm)
            simp [ho, this]
          · simp [ho]

theorem find?_erase (key other : String) (table : Table α) :
    find? other (erase key table) = if key = other then none else find? other table := by
  induction table with
  | nil => simp [erase, find?]
  | cons entry rest ih =>
      obtain ⟨k, v⟩ := entry
      unfold erase at ih ⊢
      by_cases hk : k = key
      · subst hk
        simp only [ne_eq, not_true_eq_false, decide_false, Bool.false_eq_true, not_false_eq_true,
          List.filter_cons_of_neg, ih, find?]
        by_cases ho : k = other <;> simp [ho]
      · rw [List.filter_cons_of_pos (by simpa using hk)]
        simp only [find?, ih]
        by_cases ho : k = other
        · have : key ≠ other := fun h => hk (ho.trans h.symm)
          simp [ho, this]
        · simp [ho]

theorem find?_modify (key other : String) (change : α → α) (table : Table α) :
    find? other (modify key change table) =
      if key = other then (find? other table).map change else find? other table := by
  induction table with
  | nil => simp [modify, find?]
  | cons entry rest ih =>
      obtain ⟨k, v⟩ := entry
      unfold modify at ih ⊢
      simp only [List.map_cons]
      by_cases hk : k = key
      · subst hk
        by_cases ho : k = other <;> simp_all [find?]
      · simp only [if_neg hk, find?]
        by_cases ho : k = other
        · have : key ≠ other := fun h => hk (ho.trans h.symm)
          simp [ho, this]
        · simp [ho, ih]

end Table

end NodeFleet
