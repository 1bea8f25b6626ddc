import AmbientBundle.FileTree.Access

/-!
# The shape of a file tree

Where a path leads depends on which names are directories and which are files, and
never on the bytes of a file.  `SameShape` relates two trees that differ in bytes
only, and `isFileText_congr` says that such trees have the same files.  Setting the
bytes of a file that is there keeps the shape (`sameShape_put`), which is why a
report to a log file never changes the meaning of a path.
-/

namespace AmbientBundle

/-- What an entry is: a directory, or a file of some mode. -/
def Entry.kind : Entry → Option FileMode
  | .dir _ => none
  | .file _ mode => some mode

namespace Folder

/-! ## Following names -/

@[simp] theorem get?_nil (f : Folder) : f.get? [] = some (.dir f) := rfl

/-- The first name of a list leads into a directory. -/
theorem get?_cons_of_dir {f inner : Folder} {n : Text} (h : f.find? n = some (.dir inner))
    (ns : List Text) : f.get? (n :: ns) = inner.get? ns := by
  rw [get?, h]

/-- A single name leads to its entry. -/
theorem get?_singleton (f : Folder) (n : Text) : f.get? [n] = f.find? n := by
  rw [get?]
  cases hn : f.find? n with
  | none => rfl
  | some e =>
    cases e with
    | file c mode => rfl
    | dir inner => rfl

/-- Names lead into a directory first, unless a single one leads to a file. -/
theorem exists_dir_of_get?_cons {f : Folder} {n : Text} {ns : List Text} {e : Entry}
    (h : f.get? (n :: ns) = some e) (hinto : ns ≠ [] ∨ e.isDir = true) :
    ∃ inner, f.find? n = some (.dir inner) ∧ inner.get? ns = some e := by
  rw [get?] at h
  cases hn : f.find? n with
  | none => rw [hn] at h; cases h
  | some d =>
    rw [hn] at h
    cases d with
    | dir inner => exact ⟨inner, rfl, h⟩
    | file c mode =>
      simp only at h
      split at h
      · next hnil =>
        cases h
        rcases hinto with hne | hdir
        · exact absurd hnil hne
        · cases hdir
      · cases h

/-- Names that lead further than to a place lead to a directory there. -/
theorem exists_dir_of_get?_append {f : Folder} {ns ms : List Text} {e : Entry}
    (h : f.get? (ns ++ ms) = some e) (hne : ms ≠ []) : ∃ inner, f.get? ns = some (.dir inner) := by
  induction ns generalizing f with
  | nil => exact ⟨f, rfl⟩
  | cons n rest ih =>
    obtain ⟨inner, hn, hrest⟩ :=
      exists_dir_of_get?_cons h (Or.inl (List.append_ne_nil_of_right_ne_nil rest hne))
    rw [get?_cons_of_dir hn]
    exact ih hrest

/-- Names that lead to a directory can be followed further. -/
theorem get?_append_of_dir {f inner : Folder} {ns : List Text}
    (h : f.get? ns = some (.dir inner)) (ms : List Text) :
    f.get? (ns ++ ms) = inner.get? ms := by
  induction ns generalizing f with
  | nil =>
    rw [get?_nil, Option.some.injEq, Entry.dir.injEq] at h
    rw [List.nil_append, h]
  | cons n rest ih =>
    obtain ⟨between, hn, hrest⟩ := exists_dir_of_get?_cons h (Or.inr rfl)
    rw [List.cons_append, get?_cons_of_dir hn]
    exact ih hrest

theorem hasFile_iff {f : Folder} {ns : List Text} :
    f.hasFile ns = true ↔ ∃ c mode, f.get? ns = some (.file c mode) := by
  rw [hasFile]
  split
  · next c mode h => exact ⟨fun _ => ⟨c, mode, h⟩, fun _ => rfl⟩
  · next h =>
    constructor
    · intro hfalse
      cases hfalse
    · rintro ⟨c, mode, hget⟩
      exact absurd hget (h c mode)

/-! ## Trees of one shape -/

/-- Two trees with the same directories and the same files, whatever the files hold. -/
def SameShape (f g : Folder) : Prop :=
  ∀ ns, (f.get? ns).map Entry.kind = (g.get? ns).map Entry.kind

namespace SameShape

theorem refl (f : Folder) : f.SameShape f := fun _ => rfl

theorem trans {f g k : Folder} (hfg : f.SameShape g) (hgk : g.SameShape k) : f.SameShape k :=
  fun ns => (hfg ns).trans (hgk ns)

/-- The entries at a spot are of one kind. -/
theorem entryAt {f g : Folder} (h : f.SameShape g) (s : Spot) :
    (f.entryAt s).map Entry.kind = (g.entryAt s).map Entry.kind := by
  unfold Folder.entryAt
  split
  · exact h s.place
  · rfl

end SameShape

/-- Entries of one kind are both missing, both files of one mode, or both directories. -/
theorem kind_cases {d e : Option Entry} (h : d.map Entry.kind = e.map Entry.kind) :
    (d = none ∧ e = none) ∨
      (∃ c c' mode, d = some (.file c mode) ∧ e = some (.file c' mode)) ∨
      ∃ f g, d = some (.dir f) ∧ e = some (.dir g) := by
  cases d with
  | none =>
    cases e with
    | none => exact Or.inl ⟨rfl, rfl⟩
    | some y => cases h
  | some x =>
    cases e with
    | none => cases h
    | some y =>
      cases x with
      | file c mode =>
        cases y with
        | file c' mode' =>
          simp only [Option.map_some, Entry.kind, Option.some.injEq] at h
          subst h
          exact Or.inr (Or.inl ⟨c, c', mode, rfl, rfl⟩)
        | dir g => simp [Entry.kind] at h
      | dir f =>
        cases y with
        | file c mode => simp [Entry.kind] at h
        | dir g => exact Or.inr (Or.inr ⟨f, g, rfl, rfl⟩)

/-- The files have the same names. -/
theorem SameShape.hasFile {f g : Folder} (h : f.SameShape g) (ns : List Text) :
    f.hasFile ns = g.hasFile ns := by
  unfold Folder.hasFile
  rcases kind_cases (h ns) with ⟨hf, hg⟩ | ⟨_, _, _, hf, hg⟩ | ⟨_, _, hf, hg⟩
  · rw [hf, hg]
  · rw [hf, hg]
  · rw [hf, hg]

/-- Parts lead to the same spot in trees of one shape. -/
theorem walk_congr {f g : Folder} (h : f.SameShape g) (s : Spot) (ps : List Text) :
    f.walk s ps = g.walk s ps := by
  induction ps generalizing s with
  | nil => rfl
  | cons p rest ih =>
    rw [walk, walk]
    -- The walk looks at the kind of an entry only, so the two sides branch alike.
    rcases kind_cases (h.entryAt s) with ⟨hf, hg⟩ | ⟨_, _, _, hf, hg⟩ | ⟨_, _, hf, hg⟩
    · rw [hf, hg]
    · rw [hf, hg]
    · simp only [hf, hg, ih]

/-- A text leads to a file in one of two trees of one shape exactly when it does in the
other. -/
theorem isFileText_congr {f g : Folder} (h : f.SameShape g) (cwd : Spot) (raw : Text) :
    f.isFileText cwd raw = g.isFileText cwd raw := by
  unfold isFileText statText
  by_cases hempty : raw = []
  · rw [if_pos hempty, if_pos hempty]
  · rw [if_neg hempty, if_neg hempty]
    by_cases hlong : pathLimit < Utf8.size raw
    · rw [if_pos hlong, if_pos hlong]
    · rw [if_neg hlong, if_neg hlong, walk_congr h]
      cases g.walk (start cwd (Path.parse raw)) (Text.splitOn '/' raw) with
      | error e => rfl
      | ok s =>
        rcases kind_cases (h.entryAt s) with ⟨hf, hg⟩ | ⟨_, _, _, hf, hg⟩ | ⟨_, _, hf, hg⟩
        · simp only [hf, hg]
        · simp only [hf, hg]
        · simp only [hf, hg]

/-- An entry is found where the path leads to it. -/
theorem stat_eq_ok_iff_walk {root : Folder} {cwd s : Spot} {p : Path} {e : Entry} :
    root.stat cwd p = .ok (s, e) ↔
      p.isTooLong = false ∧ root.walk (start cwd p) p.parts = .ok s ∧ root.entryAt s = some e := by
  rw [stat]
  constructor
  · intro h
    split at h
    · cases h
    · next hshort =>
      split at h
      · cases h
      · next t hwalk =>
        split at h
        · cases h
        · next d hentry =>
          cases h
          exact ⟨Bool.eq_false_iff.2 hshort, hwalk, hentry⟩
  · rintro ⟨hshort, hwalk, hentry⟩
    simp only [hshort, Bool.false_eq_true, if_false, hwalk, hentry]

/-- A directory is read where the path leads to it. -/
theorem readDir_eq_ok_iff {root inner : Folder} {cwd : Spot} {p : Path} :
    root.readDir cwd p = .ok inner ↔
      p.isTooLong = false ∧
        ∃ s, root.walk (start cwd p) p.parts = .ok s ∧ root.entryAt s = some (.dir inner) := by
  rw [readDir]
  constructor
  · intro h
    split at h
    · cases h
    · cases h
    · next s found hstat =>
      cases h
      obtain ⟨hshort, hwalk, hentry⟩ := stat_eq_ok_iff_walk.1 hstat
      exact ⟨hshort, s, hwalk, hentry⟩
  · rintro ⟨hshort, s, hwalk, hentry⟩
    rw [stat_eq_ok_iff_walk.2 ⟨hshort, hwalk, hentry⟩]

/-- What is read of a directory is of one shape in trees of one shape. -/
theorem readDir_congr {f g inner : Folder} (h : f.SameShape g) {cwd : Spot} {p : Path}
    (hdir : f.readDir cwd p = .ok inner) :
    ∃ inner', g.readDir cwd p = .ok inner' ∧ inner.SameShape inner' := by
  obtain ⟨hshort, s, hwalk, hentry⟩ := readDir_eq_ok_iff.1 hdir
  rw [walk_congr h] at hwalk
  have hkind := h.entryAt s
  rw [hentry] at hkind
  rcases kind_cases hkind with ⟨hnone, _⟩ | ⟨_, _, _, hfile, _⟩ | ⟨_, inner', hf, hg⟩
  · cases hnone
  · cases hfile
  · cases hf
    refine ⟨inner', readDir_eq_ok_iff.2 ⟨hshort, s, hwalk, hg⟩, fun ns => ?_⟩
    unfold Folder.entryAt at hentry hg
    split at hentry
    · next hlost =>
      rw [if_pos hlost] at hg
      rw [← get?_append_of_dir hentry ns, ← get?_append_of_dir hg ns]
      exact h _
    · next hlost =>
      rw [if_neg hlost] at hg
      cases hentry
      cases hg
      rfl

/-! ## Writing into a file -/

/-- Entries that differ in the bytes of files only. -/
inductive Alike : Entry → Entry → Prop where
  /-- Files of one mode. -/
  | file (old new : Bytes) (mode : FileMode) : Alike (.file old mode) (.file new mode)
  /-- Directories of one shape. -/
  | dir {f g : Folder} (h : f.SameShape g) : Alike (.dir f) (.dir g)

/-- Putting an entry in the place of one that differs in bytes only keeps the shape. -/
theorem sameShape_insert {f : Folder} {n : Text} {d e : Entry} (hd : f.find? n = some d)
    (h : Alike d e) : f.SameShape (f.insert n e) := by
  intro ns
  cases ns with
  | nil => rfl
  | cons k ks =>
    by_cases hk : k = n
    · subst hk
      simp only [get?, find?_insert_self, hd]
      cases h with
      | file old new mode => by_cases hks : ks = [] <;> simp [hks, Entry.kind]
      | dir hshape => exact hshape ks
    · simp only [get?, find?_insert_of_ne f e hk]

/-- Setting the bytes of a file keeps the shape. -/
theorem sameShape_put {f : Folder} {place : List Text} {old new : Bytes} {mode : FileMode}
    (h : f.get? place = some (.file old mode)) :
    f.SameShape (f.put place (.file new mode)) := by
  induction place generalizing f with
  | nil => cases h
  | cons n rest ih =>
    cases rest with
    | nil =>
      rw [get?_singleton] at h
      exact sameShape_insert h (.file old new mode)
    | cons m more =>
      obtain ⟨inner, hn, hrest⟩ := exists_dir_of_get?_cons h (Or.inl (List.cons_ne_nil m more))
      rw [put, hn]
      exact sameShape_insert hn (.dir (ih hrest))

end Folder
end AmbientBundle
