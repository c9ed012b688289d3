import NodeFleet.Json.Decode
import NodeFleet.Proofs.Table.Sorted

/-!
# Records read from their entries

A record that is given an entry for each of its fields, in their order, reads the value made of
what the fields read.  `Record.Reads` says so field by field: the lemmas `Reads.field`,
`Reads.optional` and `Reads.withDefault` add one field each, as the record itself is put
together.  The keys need only be looked at once, at the end (`Reads.decode_eq`).
-/

namespace NodeFleet.Json

namespace Record

variable {α β : Type} {r : Record α} {entries : List (String × Json)} {a : α}

/-- Whether a record reads a value from entries that are given in the order of its fields. -/
structure Reads (r : Record α) (entries : List (String × Json)) (a : α) : Prop where
  keys_eq : r.fields.map FieldSpec.key = entries.map Prod.fst
  checks : ∀ entry ∈ entries, ∃ field ∈ r.fields, field.key = entry.1 ∧
    field.check entry.2 = .ok ()
  builds : ∀ found : String → Option Json, (∀ entry ∈ entries, found entry.1 = some entry.2) →
    r.build found = .ok a

theorem reads_const (a : α) : (const a).Reads [] a := ⟨rfl, nofun, fun _ _ => rfl⟩

/-- What is added with a field of any kind. -/
theorem Reads.append {make : β → α} {r : Record (β → α)} (h : r.Reads entries make) {key : String}
    {value : Json} {b : β} {later : Record α} {check : Json → Except Refusal Unit}
    {hasDefault : Bool} (hfields : later.fields = r.fields ++ [⟨key, check, hasDefault⟩])
    (hcheck : check value = .ok ())
    (hbuild : ∀ found : String → Option Json, r.build found = .ok make → found key = some value →
      later.build found = .ok (make b)) :
    later.Reads (entries ++ [(key, value)]) (make b) := by
  refine ⟨?_, fun entry hentry => ?_,
    fun found hfound => hbuild found (h.builds found fun entry hentry => ?_) ?_⟩
  · rw [hfields, List.map_append, List.map_append, h.keys_eq]
    rfl
  · rw [hfields]
    rcases List.mem_append.1 hentry with hold | hnew
    · obtain ⟨field, hfield, hkey, hchecked⟩ := h.checks entry hold
      exact ⟨field, List.mem_append_left _ hfield, hkey, hchecked⟩
    · obtain rfl := List.mem_singleton.1 hnew
      exact ⟨_, List.mem_append_right _ (List.mem_singleton_self _), rfl, hcheck⟩
  · exact hfound entry (List.mem_append_left _ hentry)
  · exact hfound (key, value) (List.mem_append_right _ (List.mem_singleton_self _))

theorem Reads.field {make : β → α} {r : Record (β → α)} (h : r.Reads entries make) (key : String)
    {decode : Decoder β} {value : Json} {b : β} (hdecode : decode value = .ok b) :
    (r.field key decode).Reads (entries ++ [(key, value)]) (make b) := by
  refine h.append rfl (by rw [hdecode]; rfl) fun found hmake hfound => ?_
  simp only [Record.field, hmake, hfound, hdecode]
  rfl

theorem Reads.optional {make : Option β → α} {r : Record (Option β → α)}
    (h : r.Reads entries make) (key : String) {decode : Decoder β} {value : Json} {b : Option β}
    (hdecode : Decoder.option decode value = .ok b) :
    (r.optional key decode).Reads (entries ++ [(key, value)]) (make b) := by
  refine h.append rfl (by rw [hdecode]; rfl) fun found hmake hfound => ?_
  simp only [Record.optional, hmake, hfound, hdecode]
  rfl

theorem Reads.withDefault {make : β → α} {r : Record (β → α)} (h : r.Reads entries make)
    (key : String) {decode : Decoder β} {default : β} {value : Json} {b : β}
    (hdecode : decode value = .ok b) :
    (r.withDefault key decode default).Reads (entries ++ [(key, value)]) (make b) := by
  refine h.append rfl (by rw [hdecode]; rfl) fun found hmake hfound => ?_
  simp only [Record.withDefault, hmake, hfound, hdecode]
  rfl

/-! ## Keys -/

theorem keys_const (a : α) : (const a).fields.map FieldSpec.key = [] := rfl

theorem keys_field (r : Record (β → α)) (key : String) (decode : Decoder β) :
    (r.field key decode).fields.map FieldSpec.key = r.fields.map FieldSpec.key ++ [key] :=
  List.map_append

theorem keys_optional (r : Record (Option β → α)) (key : String) (decode : Decoder β) :
    (r.optional key decode).fields.map FieldSpec.key = r.fields.map FieldSpec.key ++ [key] :=
  List.map_append

/-! ## Reading the entries -/

theorem checkEntries_eq_ok {fields : List FieldSpec} {seen : List String}
    (hchecks : ∀ entry ∈ entries, ∃ field, fields.find? (fun field => field.key = entry.1) =
      some field ∧ field.check entry.2 = .ok ())
    (hnodup : (entries.map Prod.fst).Nodup) (hseen : ∀ entry ∈ entries, entry.1 ∉ seen) :
    checkEntries fields seen entries = .ok () := by
  induction entries generalizing seen with
  | nil => rfl
  | cons entry rest ih =>
      obtain ⟨key, value⟩ := entry
      obtain ⟨⟨field, hfind, hcheck⟩, hchecks⟩ := List.forall_mem_cons.1 hchecks
      obtain ⟨hnew, hseen⟩ := List.forall_mem_cons.1 hseen
      obtain ⟨hfresh, hnodup⟩ := List.nodup_cons.1 hnodup
      have hrest : checkEntries fields (key :: seen) rest = .ok () := by
        refine ih hchecks hnodup fun entry hentry hmem => ?_
        rcases List.mem_cons.1 hmem with hsame | hold
        · exact hfresh (List.mem_map.2 ⟨entry, hentry, hsame⟩)
        · exact hseen entry hentry hold
      have hcontains : seen.contains key = false := by simpa using hnew
      simp only [checkEntries, hfind, hcontains, hcheck]
      exact hrest

/-- What is looked for by its key is found, if no other has that key. -/
theorem find?_key {γ : Type} {key : γ → String} {items : List γ} (hnodup : (items.map key).Nodup)
    {item : γ} (hmem : item ∈ items) :
    items.find? (fun other => key other = key item) = some item := by
  induction items with
  | nil => exact nomatch hmem
  | cons first rest ih =>
      obtain ⟨hfresh, hnodup⟩ := List.nodup_cons.1 hnodup
      rcases List.mem_cons.1 hmem with rfl | hrest
      · exact List.find?_cons_of_pos (by simp)
      · have hne : key first ≠ key item := fun hsame =>
          hfresh (List.mem_map.2 ⟨item, hrest, hsame.symm⟩)
        rw [List.find?_cons_of_neg (by simpa using hne)]
        exact ih hnodup hrest

theorem Reads.ofEntries_eq (h : r.Reads entries a) (hkeys : (r.fields.map FieldSpec.key).Nodup) :
    r.ofEntries entries = .ok a := by
  have hnodup : (entries.map Prod.fst).Nodup := h.keys_eq ▸ hkeys
  have hchecked : checkEntries r.fields [] entries = .ok () := by
    refine checkEntries_eq_ok (fun entry hentry => ?_) hnodup fun _ _ => List.not_mem_nil
    obtain ⟨field, hfield, hkey, hcheck⟩ := h.checks entry hentry
    exact ⟨field, hkey ▸ find?_key hkeys hfield, hcheck⟩
  have hbuilt : r.build (lookup entries) = .ok a := by
    refine h.builds _ fun entry hentry => ?_
    rw [lookup, find?_key hnodup hentry]
    rfl
  simp only [ofEntries, hchecked]
  exact hbuilt

theorem Reads.decode_eq (h : r.Reads entries a) (hkeys : (r.fields.map FieldSpec.key).Nodup) :
    r.decode (.object entries) = .ok a :=
  h.ofEntries_eq hkeys

end Record

/-! ## Tagged values -/

/-- A value that has its tag first reads as the form of that name reads the rest. -/
theorem decodeTagged_eq {α : Type} {forms : Forms α} {byNumber : Bool} {tag name : String}
    {form : Record α} {entries : List (String × Json)} {a : α}
    (hreads : form.Reads entries a) (hkeys : (tag :: form.fields.map FieldSpec.key).Nodup)
    (hform : forms.lookup name = some form)
    (hreadable : (Json.object ((tag, .string name) :: entries)).readable = true)
    (hdepth : (Json.object ((tag, .string name) :: entries)).depth < depthLimit) :
    decodeTagged tag byNumber forms (.object ((tag, .string name) :: entries)) = .ok a := by
  obtain ⟨hfresh, hkeys⟩ := List.nodup_cons.1 hkeys
  have hother : ∀ entry ∈ entries, entry.1 ≠ tag := by
    rintro entry hentry rfl
    exact hfresh (hreads.keys_eq ▸ List.mem_map_of_mem hentry)
  have htagged : ((tag, Json.string name) :: entries).filter (fun entry => entry.1 = tag) =
      [(tag, .string name)] := by
    rw [List.filter_cons_of_pos (by simp), List.filter_eq_nil_iff.2]
    intro entry hentry
    simpa using hother entry hentry
  have hrest : ((tag, Json.string name) :: entries).filter (fun entry => entry.1 ≠ tag) =
      entries := by
    rw [List.filter_cons_of_neg (by simp), List.filter_eq_self.2]
    intro entry hentry
    simpa using hother entry hentry
  have hfits : (!(Json.object ((tag, .string name) :: entries)).readable ||
      decide (depthLimit ≤ (Json.object ((tag, .string name) :: entries)).depth)) = false := by
    simp [hreadable, hdepth]
  simp only [decodeTagged, hfits, htagged, hrest, Forms.decode, Forms.find?, hform]
  exact hreads.ofEntries_eq hkeys

/-! ## Values that are not records -/

namespace Decoder

theorem string_eq (s : String) : string (.string s) = .ok s := rfl

theorem word_nat {n : Nat} (h : n < 2 ^ 64) : word (.nat n) = .ok n := if_pos h

theorem word32_nat {n : Nat} (h : n < 2 ^ 32) : word32 (.nat n) = .ok n := if_pos h

theorem option_eq {α : Type} {decode : Decoder α} {encode : α → Json} {value : Option α}
    (h : ∀ a ∈ value, decode (encode a) = .ok a) (hnull : ∀ a, encode a ≠ .null) :
    option decode (.option encode value) = .ok value := by
  cases value with
  | none => rfl
  | some a =>
      have hdecode : (decode (encode a)).map some = .ok (some a) := by
        rw [h a rfl]
        rfl
      show option decode (encode a) = .ok (some a)
      unfold option
      split
      · exact absurd ‹_› (hnull a)
      · exact hdecode

theorem named_eq {α : Type} {name : α → String} {all : List α} (hnodup : (all.map name).Nodup)
    {a : α} (hmem : a ∈ all) : named name all (.string (name a)) = .ok a := by
  show named.pick name all (name a) = .ok a
  rw [named.pick, Record.find?_key hnodup hmem]

theorem namedPart_eq {α : Type} {name : α → String} {all : List α} (hnodup : (all.map name).Nodup)
    {a : α} (hmem : a ∈ all) : namedPart name all (.string (name a)) = .ok a :=
  named_eq hnodup hmem

theorem table_eq {α : Type} {decode : Decoder α} {encode : α → Json} {table : Table α}
    (hsorted : table.Sorted) (h : ∀ entry ∈ table, decode (encode entry.2) = .ok entry.2) :
    Decoder.table decode (.table encode table) = .ok table := by
  let read (entry : String × Json) : Except Refusal (String × α) := do
    return (entry.1, ← decode entry.2)
  have hread : (table.map fun entry => (entry.1, encode entry.2)).mapM read = .ok table := by
    clear hsorted
    induction table with
    | nil => rfl
    | cons entry rest ih =>
        obtain ⟨hfirst, hrest⟩ := List.forall_mem_cons.1 h
        rw [List.map_cons, List.mapM_cons, ih hrest]
        simp only [read, hfirst]
        rfl
  show (do return Table.ofEntries (← (table.map _).mapM read) : Except Refusal (Table α)) = _
  rw [hread]
  exact congrArg Except.ok hsorted.ofEntries_eq

end Decoder

end NodeFleet.Json
