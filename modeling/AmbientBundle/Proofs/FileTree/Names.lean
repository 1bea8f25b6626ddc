import AmbientBundle.Proofs.Declarations
import AmbientBundle.Proofs.FileTree.Shape
import AmbientBundle.Proofs.Path

/-!
# Names in a file tree

A file system takes no empty name, no name with a slash, and no name twice in one
directory.  `Folder.WellFormed` says so of a whole tree.  In such a tree an entry of a
directory and what is found under its name are the same (`find?_of_mem`,
`mem_entries_of_find?`), and setting the bytes of a file keeps the tree well-formed
(`WellFormed.put_file`).
-/

namespace AmbientBundle

/-! ## Well-formed trees -/

/-- A name that a file system takes. -/
structure IsName (n : Text) : Prop where
  /-- It can stand between slashes. -/
  proper : Path.Proper n
  /-- It does not lead up. -/
  not_up : n ≠ upPart
  /-- It is not too long. -/
  short : Utf8.size n ≤ nameLimit

instance (n : Text) : Decidable (IsName n) :=
  decidable_of_iff ((Path.isPart n = true ∧ '/' ∉ n) ∧ n ≠ upPart ∧ Utf8.size n ≤ nameLimit)
    ⟨fun h => ⟨h.1, h.2.1, h.2.2⟩, fun h => ⟨h.proper, h.not_up, h.short⟩⟩

namespace Folder

/-- Every name is one that a file system takes, and no directory has a name twice. -/
def WellFormed : Folder → Prop
  | .nil => True
  | .file n _ _ rest => IsName n ∧ n ∉ rest.entries.map Prod.fst ∧ rest.WellFormed
  | .dir n inner rest =>
      IsName n ∧ n ∉ rest.entries.map Prod.fst ∧ inner.WellFormed ∧ rest.WellFormed

/-- Well-formedness can be checked. -/
instance decidableWellFormed : (f : Folder) → Decidable f.WellFormed
  | .nil => isTrue trivial
  | .file _ _ _ rest =>
      have := decidableWellFormed rest
      inferInstanceAs (Decidable (_ ∧ _ ∧ _))
  | .dir _ inner rest =>
      have := decidableWellFormed inner
      have := decidableWellFormed rest
      inferInstanceAs (Decidable (_ ∧ _ ∧ _ ∧ _))

theorem find?_eq_lookup (f : Folder) (n : Text) : f.find? n = f.entries.lookup n := by
  have hkey {m : Text} : (n == m) = decide (m = n) := by
    rw [Bool.eq_iff_iff, beq_iff_eq, decide_eq_true_iff, eq_comm]
  induction f with
  | nil => rfl
  | file m c mode rest ih =>
    rw [find?, entries, List.lookup_cons, hkey, ih]
    by_cases hm : m = n <;> simp [hm]
  | dir m inner rest _ ih =>
    rw [find?, entries, List.lookup_cons, hkey, ih]
    by_cases hm : m = n <;> simp [hm]

/-- What is found under a name is an entry with that name. -/
theorem mem_entries_of_find? {f : Folder} {n : Text} {e : Entry} (h : f.find? n = some e) :
    (n, e) ∈ f.entries := by
  rw [find?_eq_lookup, List.lookup_eq_some_iff] at h
  obtain ⟨front, back, heq, _⟩ := h
  rw [heq]
  exact List.mem_append_right front List.mem_cons_self

namespace WellFormed

theorem nodup {f : Folder} (hf : f.WellFormed) : (f.entries.map Prod.fst).Nodup := by
  induction f with
  | nil => exact List.nodup_nil
  | file m c mode rest ih => exact List.nodup_cons.2 ⟨hf.2.1, ih hf.2.2⟩
  | dir m inner rest _ ih => exact List.nodup_cons.2 ⟨hf.2.1, ih hf.2.2.2⟩

/-- An entry is found under its name. -/
theorem find?_of_mem {f : Folder} (hf : f.WellFormed) {n : Text} {e : Entry}
    (h : (n, e) ∈ f.entries) : f.find? n = some e := by
  rw [find?_eq_lookup]
  exact lookup_of_mem hf.nodup h

/-- The entries have names that a file system takes, and the directories among them are
well-formed. -/
theorem of_mem {f : Folder} (hf : f.WellFormed) {n : Text} {e : Entry}
    (h : (n, e) ∈ f.entries) : IsName n ∧ ∀ g, e = .dir g → g.WellFormed := by
  induction f with
  | nil => cases h
  | file m c mode rest ih =>
    rcases List.mem_cons.1 h with heq | hmem
    · cases heq
      exact ⟨hf.1, fun g hg => by cases hg⟩
    · exact ih hf.2.2 hmem
  | dir m inner rest _ ih =>
    rcases List.mem_cons.1 h with heq | hmem
    · cases heq
      refine ⟨hf.1, fun g hg => ?_⟩
      cases hg
      exact hf.2.2.1
    · exact ih hf.2.2.2 hmem

theorem isName {f : Folder} (hf : f.WellFormed) {n : Text} {e : Entry}
    (h : (n, e) ∈ f.entries) : IsName n :=
  (hf.of_mem h).1

theorem inner {f g : Folder} (hf : f.WellFormed) {n : Text} (h : (n, .dir g) ∈ f.entries) :
    g.WellFormed :=
  (hf.of_mem h).2 g rfl

/-- The names that lead somewhere are names. -/
theorem isName_of_get? {f : Folder} (hf : f.WellFormed) {ns : List Text} {e : Entry}
    (h : f.get? ns = some e) : ∀ n ∈ ns, IsName n := by
  induction ns generalizing f with
  | nil => exact fun n hn => absurd hn List.not_mem_nil
  | cons m rest ih =>
    cases rest with
    | nil =>
      rw [get?_singleton] at h
      exact List.forall_mem_singleton.2 (hf.isName (mem_entries_of_find? h))
    | cons k more =>
      obtain ⟨inner, hm, hrest⟩ := exists_dir_of_get?_cons h (Or.inl (List.cons_ne_nil k more))
      have hmem := mem_entries_of_find? hm
      exact List.forall_mem_cons.2 ⟨hf.isName hmem, ih (hf.inner hmem) hrest⟩

end WellFormed

/-! ## Setting entries -/

/-- Removing a name leaves the other entries. -/
theorem mem_entries_erase {f : Folder} {n m : Text} {e : Entry}
    (h : (m, e) ∈ (f.erase n).entries) : (m, e) ∈ f.entries ∧ m ≠ n := by
  induction f with
  | nil => cases h
  | file k c mode rest ih =>
    rw [erase] at h
    split at h
    · exact ⟨List.mem_cons_of_mem _ (ih h).1, (ih h).2⟩
    · next hk =>
      rcases List.mem_cons.1 h with heq | hmem
      · cases heq
        exact ⟨List.mem_cons_self, hk⟩
      · exact ⟨List.mem_cons_of_mem _ (ih hmem).1, (ih hmem).2⟩
  | dir k inner rest _ ih =>
    rw [erase] at h
    split at h
    · exact ⟨List.mem_cons_of_mem _ (ih h).1, (ih h).2⟩
    · next hk =>
      rcases List.mem_cons.1 h with heq | hmem
      · cases heq
        exact ⟨List.mem_cons_self, hk⟩
      · exact ⟨List.mem_cons_of_mem _ (ih hmem).1, (ih hmem).2⟩

theorem mem_names_erase {f : Folder} {n m : Text} (h : m ∈ (f.erase n).entries.map Prod.fst) :
    m ∈ f.entries.map Prod.fst ∧ m ≠ n := by
  obtain ⟨⟨k, e⟩, hmem, rfl⟩ := List.mem_map.1 h
  exact ⟨List.mem_map_of_mem (mem_entries_erase hmem).1, (mem_entries_erase hmem).2⟩

namespace WellFormed

theorem erase {f : Folder} (hf : f.WellFormed) (n : Text) : (f.erase n).WellFormed := by
  induction f with
  | nil => exact trivial
  | file k c mode rest ih =>
    obtain ⟨hk, hnew, hrest⟩ := hf
    rw [Folder.erase]
    split
    · exact ih hrest
    · exact ⟨hk, fun hmem => hnew (mem_names_erase hmem).1, ih hrest⟩
  | dir k inner rest _ ih =>
    obtain ⟨hk, hnew, hinner, hrest⟩ := hf
    rw [Folder.erase]
    split
    · exact ih hrest
    · exact ⟨hk, fun hmem => hnew (mem_names_erase hmem).1, hinner, ih hrest⟩

/-- An entry may be set under a name that a file system takes. -/
theorem insert {f : Folder} (hf : f.WellFormed) {n : Text} (hn : IsName n) {e : Entry}
    (he : ∀ g, e = .dir g → g.WellFormed) : (f.insert n e).WellFormed := by
  have hnew : n ∉ (f.erase n).entries.map Prod.fst := fun hmem => (mem_names_erase hmem).2 rfl
  cases e with
  | file c mode => exact ⟨hn, hnew, hf.erase n⟩
  | dir g => exact ⟨hn, hnew, he g rfl, hf.erase n⟩

/-- The bytes of a file may be set. -/
theorem put_file {f : Folder} (hf : f.WellFormed) {place : List Text} {old new : Bytes}
    {mode : FileMode} (h : f.get? place = some (.file old mode)) :
    (f.put place (.file new mode)).WellFormed := by
  induction place generalizing f with
  | nil => cases h
  | cons n rest ih =>
    cases rest with
    | nil =>
      rw [get?_singleton] at h
      exact hf.insert (hf.isName (mem_entries_of_find? h)) fun g hg => by cases hg
    | cons m more =>
      obtain ⟨inner, hn, hrest⟩ := exists_dir_of_get?_cons h (Or.inl (List.cons_ne_nil m more))
      have hmem := mem_entries_of_find? hn
      rw [put, hn]
      refine hf.insert (hf.isName hmem) fun g hg => ?_
      cases hg
      exact ih (hf.inner hmem) hrest

/-- The directories that names lead to are well-formed. -/
theorem of_get? {f g : Folder} (hf : f.WellFormed) {ns : List Text}
    (h : f.get? ns = some (.dir g)) : g.WellFormed := by
  induction ns generalizing f with
  | nil =>
    cases h
    exact hf
  | cons n rest ih =>
    obtain ⟨inner, hn, hrest⟩ := exists_dir_of_get?_cons h (Or.inr rfl)
    exact ih (hf.inner (mem_entries_of_find? hn)) hrest

/-- A directory that was read is well-formed. -/
theorem of_readDir {root f : Folder} (hroot : root.WellFormed) {cwd : Spot} {p : Path}
    (h : root.readDir cwd p = .ok f) : f.WellFormed := by
  obtain ⟨_, s, _, hentry⟩ := readDir_eq_ok_iff.1 h
  rw [entryAt] at hentry
  split at hentry
  · exact hroot.of_get? hentry
  · cases hentry
    exact trivial

end WellFormed
end Folder
end AmbientBundle
