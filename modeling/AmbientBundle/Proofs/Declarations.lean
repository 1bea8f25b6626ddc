import Mathlib.Data.List.Basic
import AmbientBundle.Declarations

/-!
# Declarations as a map

No id occurs twice in declarations, so looking an id up and having an entry with
that id are the same thing (`find?_eq_some_iff`).  A list of entries without a
repeated id becomes declarations with exactly these entries
(`entries_ofList_of_nodup`), and `select` keeps the chosen modules, in the order in
which they were chosen, with the texts they had.
-/

namespace AmbientBundle

/-- The text of a new id goes to the end. -/
theorem insertEntry_of_not_mem {m : ModuleId} {body : Text} {es : List (ModuleId × Text)}
    (h : m ∉ es.map Prod.fst) : insertEntry m body es = es ++ [(m, body)] := by
  induction es with
  | nil => rfl
  | cons e rest ih =>
    obtain ⟨k, b⟩ := e
    simp only [List.map_cons, List.mem_cons, not_or] at h
    rw [insertEntry, if_neg (Ne.symm h.1), ih h.2, List.cons_append]

/-- Without a repeated key, every entry is found under its key. -/
theorem lookup_of_mem {α : Type} {m : Text} {body : α} {es : List (Text × α)}
    (hnodup : (es.map Prod.fst).Nodup) (h : (m, body) ∈ es) : es.lookup m = some body := by
  induction es with
  | nil => cases h
  | cons e rest ih =>
    obtain ⟨k, b⟩ := e
    rw [List.map_cons, List.nodup_cons] at hnodup
    rw [List.lookup_cons]
    rcases List.mem_cons.1 h with heq | hmem
    · cases heq
      simp
    · have hne : m ≠ k := by
        intro hk
        subst hk
        exact hnodup.1 (List.mem_map.2 ⟨(m, body), hmem, rfl⟩)
      have hb : (m == k) = false := by simp [hne]
      rw [hb]
      exact ih hnodup.2 hmem

namespace Declarations

/-! ## Looking up -/

/-- What is found under an id is the entry with that id. -/
theorem find?_eq_some_iff {d : Declarations} {m : ModuleId} {body : Text} :
    d.find? m = some body ↔ (m, body) ∈ d.entries :=
  ⟨mem_entries_of_lookup, lookup_of_mem d.nodup⟩

/-- Every id has a text. -/
theorem exists_find?_of_mem_ids {d : Declarations} {m : ModuleId} (h : m ∈ d.ids) :
    ∃ body, d.find? m = some body := by
  obtain ⟨⟨k, body⟩, hmem, rfl⟩ := List.mem_map.1 h
  exact ⟨body, find?_eq_some_iff.2 hmem⟩

/-- The declared modules are the ids. -/
@[simp] theorem contains_iff {d : Declarations} {m : ModuleId} :
    d.contains m = true ↔ m ∈ d.ids := by
  rw [contains, Option.isSome_iff_exists]
  constructor
  · rintro ⟨body, hbody⟩
    exact mem_ids_of_find? hbody
  · exact exists_find?_of_mem_ids

/-- Two declarations with the same entry under an id agree there. -/
theorem find?_eq_of_mem {d e : Declarations} {m : ModuleId} {body : Text}
    (hd : (m, body) ∈ d.entries) (he : (m, body) ∈ e.entries) : d.find? m = e.find? m := by
  rw [find?_eq_some_iff.2 hd, find?_eq_some_iff.2 he]

/-! ## Building from a list -/

/-- Setting the texts of new ids one after the other puts them at the end, in order. -/
theorem entries_foldl_insert {es : List (ModuleId × Text)} {d : Declarations}
    (h : ((d.entries ++ es).map Prod.fst).Nodup) :
    (es.foldl (fun d e => d.insert e.1 e.2) d).entries = d.entries ++ es := by
  induction es generalizing d with
  | nil => simp
  | cons e rest ih =>
    have hnew : e.1 ∉ d.entries.map Prod.fst := by
      rw [List.map_append, List.nodup_append] at h
      intro hmem
      exact h.2.2 _ hmem _ (by simp) rfl
    have hinsert : (d.insert e.1 e.2).entries = d.entries ++ [e] := insertEntry_of_not_mem hnew
    rw [List.foldl_cons, ih, hinsert, List.append_assoc, List.singleton_append]
    rw [hinsert, List.append_assoc, List.singleton_append]
    exact h

/-- A list without a repeated id becomes declarations with exactly its entries. -/
theorem entries_ofList_of_nodup {es : List (ModuleId × Text)} (h : (es.map Prod.fst).Nodup) :
    (ofList es).entries = es := by
  rw [ofList, entries_foldl_insert (by simpa [empty] using h)]
  rfl

/-- The ids of a list are declared, repeated or not. -/
theorem mem_ids_foldl_insert {es : List (ModuleId × Text)} {d : Declarations} {m : ModuleId} :
    m ∈ (es.foldl (fun d e => d.insert e.1 e.2) d).ids ↔ m ∈ d.ids ∨ m ∈ es.map Prod.fst := by
  induction es generalizing d with
  | nil => simp
  | cons e rest ih =>
    have hinsert : m ∈ (d.insert e.1 e.2).ids ↔ m = e.1 ∨ m ∈ d.ids := mem_map_fst_insertEntry
    rw [List.foldl_cons, ih, hinsert, List.map_cons, List.mem_cons]
    constructor
    · rintro ((h | h) | h)
      · exact Or.inr (Or.inl h)
      · exact Or.inl h
      · exact Or.inr (Or.inr h)
    · rintro (h | h | h)
      · exact Or.inl (Or.inr h)
      · exact Or.inl (Or.inl h)
      · exact Or.inr h

/-- The declared ids of a list are the ids in it. -/
theorem mem_ids_ofList {es : List (ModuleId × Text)} {m : ModuleId} :
    m ∈ (ofList es).ids ↔ m ∈ es.map Prod.fst := by
  rw [ofList, mem_ids_foldl_insert]
  simp [empty, ids]

/-! ## Selecting -/

/-- The entries of chosen modules that are all declared. -/
theorem map_fst_chosen {d : Declarations} {ms : List ModuleId} (h : ∀ m ∈ ms, m ∈ d.ids) :
    (ms.filterMap fun m => (d.find? m).map fun body => (m, body)).map Prod.fst = ms := by
  induction ms with
  | nil => rfl
  | cons m rest ih =>
    obtain ⟨body, hbody⟩ := exists_find?_of_mem_ids (h m (by simp))
    have hrest := ih fun k hk => h k (List.mem_cons_of_mem _ hk)
    rw [List.filterMap_cons, hbody]
    simp [hrest]

/-- Choosing declared modules, none twice, keeps just these and in this order. -/
theorem ids_select {d : Declarations} {ms : List ModuleId} (hnodup : ms.Nodup)
    (h : ∀ m ∈ ms, m ∈ d.ids) : (d.select ms).ids = ms := by
  have hfst := map_fst_chosen h
  rw [select, ids, entries_ofList_of_nodup (by rw [hfst]; exact hnodup), hfst]

/-- A chosen module keeps its text. -/
theorem find?_select {d : Declarations} {ms : List ModuleId} (hnodup : ms.Nodup)
    (h : ∀ m ∈ ms, m ∈ d.ids) {m : ModuleId} (hm : m ∈ ms) : (d.select ms).find? m = d.find? m := by
  obtain ⟨body, hbody⟩ := exists_find?_of_mem_ids (h m hm)
  have hentries := entries_ofList_of_nodup (by rw [map_fst_chosen h]; exact hnodup)
  refine find?_eq_of_mem ?_ (find?_eq_some_iff.1 hbody)
  rw [select, hentries, List.mem_filterMap]
  exact ⟨m, hm, by rw [hbody]; rfl⟩

/-- Choosing gives the same where the chosen modules have the same texts. -/
theorem select_congr {d e : Declarations} {ms : List ModuleId}
    (h : ∀ m ∈ ms, d.find? m = e.find? m) : d.select ms = e.select ms := by
  rw [select, select, List.filterMap_congr fun m hm => by rw [h m hm]]

/-- What was chosen was declared. -/
theorem entries_select_subset {d : Declarations} {ms : List ModuleId} (hnodup : ms.Nodup)
    (h : ∀ m ∈ ms, m ∈ d.ids) : (d.select ms).entries ⊆ d.entries := by
  rintro ⟨m, body⟩ hmem
  have hm : m ∈ ms := by
    rw [← ids_select hnodup h]
    exact List.mem_map.2 ⟨_, hmem, rfl⟩
  rw [← find?_eq_some_iff, ← find?_select hnodup h hm]
  exact find?_eq_some_iff.2 hmem

end Declarations
end AmbientBundle
