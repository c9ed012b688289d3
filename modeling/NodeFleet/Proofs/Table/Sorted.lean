import Mathlib.Data.String.Basic
import NodeFleet.Table

/-!
# Sorted tables

`Table.insert` and `Table.erase` promise entries in ascending order of their keys, each
key once.  Here that promise is `Table.Sorted`, both operations are shown to keep it, and
what it buys is drawn from it: in a sorted table a look-up finds exactly the entries, and
an operation adds or removes exactly one of them.

The last two facts are stated as permutations, `insert_perm` and `perm_cons_erase`, so
that every sum and every count over a table follows its changes.
-/

namespace NodeFleet.Table

variable {α : Type}

/-- The keys ascend strictly. -/
def Sorted (table : Table α) : Prop :=
  table.Pairwise fun a b => a.1 < b.1

theorem sorted_nil : Sorted ([] : Table α) :=
  List.Pairwise.nil

/-! ## The operations keep the order -/

theorem mem_insert {key : String} {value : α} {entry : String × α} {table : Table α}
    (h : entry ∈ insert key value table) : entry = (key, value) ∨ entry ∈ table := by
  induction table with
  | nil => simpa [insert] using h
  | cons first rest ih =>
      obtain ⟨k, v⟩ := first
      unfold insert at h
      split_ifs at h with hk hlt
      · rcases List.mem_cons.1 h with h | h
        · exact .inl h
        · exact .inr (List.mem_cons_of_mem _ h)
      · exact List.mem_cons.1 h
      · rcases List.mem_cons.1 h with h | h
        · exact .inr (h ▸ List.mem_cons_self)
        · exact (ih h).imp_right (List.mem_cons_of_mem _)

theorem Sorted.insert {table : Table α} (h : Sorted table) (key : String) (value : α) :
    Sorted (insert key value table) := by
  induction table with
  | nil => exact List.pairwise_singleton _ _
  | cons first rest ih =>
      obtain ⟨k, v⟩ := first
      obtain ⟨hfirst, hrest⟩ := List.pairwise_cons.1 h
      unfold Table.insert
      split_ifs with hk hlt
      · exact List.pairwise_cons.2 ⟨fun entry hentry => hk ▸ hfirst entry hentry, hrest⟩
      · refine List.pairwise_cons.2 ⟨fun entry hentry => ?_, h⟩
        rcases List.mem_cons.1 hentry with rfl | hentry
        · exact hlt
        · exact hlt.trans (hfirst entry hentry)
      · refine List.pairwise_cons.2 ⟨fun entry hentry => ?_, ih hrest⟩
        rcases mem_insert hentry with rfl | hentry
        · exact lt_of_le_of_ne (not_lt.1 hlt) hk
        · exact hfirst entry hentry

theorem Sorted.erase {table : Table α} (h : Sorted table) (key : String) :
    Sorted (erase key table) :=
  List.Pairwise.filter _ h

theorem insert_of_forall_lt {key : String} {table : Table α}
    (h : ∀ entry ∈ table, entry.1 < key) (value : α) :
    Table.insert key value table = table ++ [(key, value)] := by
  induction table with
  | nil => rfl
  | cons first rest ih =>
      obtain ⟨k, v⟩ := first
      obtain ⟨hfirst, hrest⟩ := List.forall_mem_cons.1 h
      unfold Table.insert
      rw [if_neg hfirst.ne, if_neg hfirst.asymm, ih hrest]
      rfl

/-- The entries of a sorted table are its own table. -/
theorem Sorted.ofEntries_eq {table : Table α} (h : Sorted table) : ofEntries table = table := by
  have hfold (front back : Table α) (h : Sorted (front ++ back)) :
      back.foldl (fun table entry => Table.insert entry.1 entry.2 table) front =
        front ++ back := by
    induction back generalizing front with
    | nil => rw [List.foldl_nil, List.append_nil]
    | cons entry back ih =>
        have hlast : ∀ other ∈ front, other.1 < entry.1 := fun other hother =>
          (List.pairwise_append.1 h).2.2 other hother entry List.mem_cons_self
        rw [List.foldl_cons, insert_of_forall_lt hlast, ih, List.append_assoc]
        · rfl
        · rwa [List.append_assoc]
  exact hfold [] table h

/-! ## Look-ups in a sorted table -/

theorem mem_of_find? {key : String} {value : α} {table : Table α}
    (h : table.find? key = some value) : (key, value) ∈ table := by
  induction table with
  | nil => simp [find?] at h
  | cons first rest ih =>
      obtain ⟨k, v⟩ := first
      unfold find? at h
      split_ifs at h with hk
      · obtain rfl : v = value := by simpa using h
        exact hk ▸ List.mem_cons_self
      · exact List.mem_cons_of_mem _ (ih h)

/-- A look-up finds exactly the entries. -/
theorem Sorted.find?_eq_some_iff {table : Table α} (h : Sorted table) {key : String}
    {value : α} : table.find? key = some value ↔ (key, value) ∈ table := by
  refine ⟨mem_of_find?, fun hmem => ?_⟩
  induction table with
  | nil => simp at hmem
  | cons first rest ih =>
      obtain ⟨k, v⟩ := first
      obtain ⟨hfirst, hrest⟩ := List.pairwise_cons.1 h
      rcases List.mem_cons.1 hmem with heq | hmem
      · obtain ⟨rfl, rfl⟩ : key = k ∧ value = v := by simpa using heq
        simp [find?]
      · have hne : k ≠ key := (hfirst _ hmem).ne
        rw [find?, if_neg hne]
        exact ih hrest hmem

/-! ## What an operation adds or removes -/

/-- Inserting under a new key adds one entry. -/
theorem insert_perm {key : String} {table : Table α} (h : table.find? key = none) (value : α) :
    (insert key value table).Perm ((key, value) :: table) := by
  induction table with
  | nil => exact .refl _
  | cons first rest ih =>
      obtain ⟨k, v⟩ := first
      unfold find? at h
      split_ifs at h with hk
      unfold insert
      rw [if_neg hk]
      split_ifs with hlt
      · exact .refl _
      · exact ((ih h).cons _).trans (.swap _ _ _)

theorem erase_of_forall_lt {key : String} {table : Table α}
    (h : ∀ entry ∈ table, key < entry.1) : Table.erase key table = table := by
  refine List.filter_eq_self.2 fun entry hentry => ?_
  simpa using (h entry hentry).ne'

/-- Erasing a key removes the entry that a look-up finds. -/
theorem Sorted.perm_cons_erase {table : Table α} (h : Sorted table) {key : String} {value : α}
    (hfind : table.find? key = some value) :
    table.Perm ((key, value) :: Table.erase key table) := by
  induction table with
  | nil => simp [find?] at hfind
  | cons first rest ih =>
      obtain ⟨k, v⟩ := first
      obtain ⟨hfirst, hrest⟩ := List.pairwise_cons.1 h
      unfold find? at hfind
      split_ifs at hfind with hk
      · obtain rfl : v = value := by simpa using hfind
        subst hk
        have herase : Table.erase k ((k, v) :: rest) = rest := by
          simpa [Table.erase] using erase_of_forall_lt hfirst
        rw [herase]
      · have herase : Table.erase key ((k, v) :: rest) = (k, v) :: Table.erase key rest := by
          simp [Table.erase, hk]
        rw [herase]
        exact ((ih hrest hfind).cons _).trans (.swap _ _ _)

end NodeFleet.Table
