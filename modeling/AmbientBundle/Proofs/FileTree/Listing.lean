import AmbientBundle.FileTree.Listing
import AmbientBundle.Proofs.FileTree.Names
import AmbientBundle.Proofs.FileTree.Shape

/-!
# What a listing holds

`Entry.Holds` says which files an entry has below it, by names and bytes, and
`mem_collect` that a walk that ends well finds exactly the files that its entries hold.
In a well-formed tree holding a file and being led to it by names are the same
(`holds_dir_iff`), and the path that a file is listed under leads back to it
(`isFileText_listed`).
-/

namespace AmbientBundle

/-! ## The files below an entry -/

/-- A file that names lead to from an entry; the entry may be the file itself. -/
inductive Entry.Holds (c : Bytes) (mode : FileMode) : Entry → List Text → Prop where
  /-- The file itself. -/
  | file : Holds c mode (.file c mode) []
  /-- A file below an entry of a directory. -/
  | dir {f : Folder} {n : Text} {e : Entry} {ns : List Text} (hmem : (n, e) ∈ f.entries)
      (h : Holds c mode e ns) : Holds c mode (.dir f) (n :: ns)

/-- In a well-formed tree the files below a directory are those that names lead to. -/
theorem holds_dir_iff {f : Folder} (hf : f.WellFormed) {ns : List Text} {c : Bytes}
    {mode : FileMode} : Entry.Holds c mode (.dir f) ns ↔ f.get? ns = some (.file c mode) := by
  induction ns generalizing f with
  | nil =>
    constructor
    · intro h
      cases h
    · intro h
      cases h
  | cons n rest ih =>
    constructor
    · intro h
      cases h with
      | dir hmem h =>
        have hfind := hf.find?_of_mem hmem
        cases h with
        | file => rw [Folder.get?_singleton, hfind]
        | dir hmem' h' =>
          rw [Folder.get?_cons_of_dir hfind]
          exact (ih (hf.inner hmem)).1 (.dir hmem' h')
    · intro h
      rw [Folder.get?] at h
      cases hn : f.find? n with
      | none => rw [hn] at h; cases h
      | some e =>
        have hmem := Folder.mem_entries_of_find? hn
        rw [hn] at h
        cases e with
        | file c' mode' =>
          simp only at h
          split at h
          · next hrest =>
            subst hrest
            cases h
            exact .dir hmem .file
          · cases h
        | dir g => exact .dir hmem ((ih (hf.inner hmem)).2 h)

/-! ## The walk -/

namespace Listing

theorem mem_insertByName {d e : Text × Entry} {es : List (Text × Entry)} :
    d ∈ insertByName e es ↔ d = e ∨ d ∈ es := by
  induction es with
  | nil => exact List.mem_cons
  | cons k rest ih =>
    rw [insertByName]
    split
    · exact List.mem_cons
    · rw [List.mem_cons, ih, List.mem_cons]
      exact or_left_comm

theorem mem_sortByName {d : Text × Entry} {es : List (Text × Entry)} :
    d ∈ sortByName es ↔ d ∈ es := by
  induction es with
  | nil => exact Iff.rfl
  | cons e rest ih => rw [sortByName, mem_insertByName, ih, List.mem_cons]

/-- The entries that a directory is expanded to. -/
theorem mem_children {p q : Path} {f : Folder} {e : Entry} :
    (q, e) ∈ children p f ↔ ∃ n, (n, e) ∈ f.entries ∧ q = p.child n := by
  rw [children, List.mem_map]
  constructor
  · rintro ⟨⟨n, d⟩, hmem, heq⟩
    cases heq
    exact ⟨n, mem_sortByName.1 hmem, rfl⟩
  · rintro ⟨n, hmem, rfl⟩
    exact ⟨(n, e), mem_sortByName.2 hmem, rfl⟩

/-- A file below one of the entries still to be seen, with its path. -/
def Pending (es : List (Path × Entry)) (found : FoundFile) : Prop :=
  ∃ p e ns mode, (p, e) ∈ es ∧ Entry.Holds found.content mode e ns ∧ found.path = p.descend ns

/-- A file that comes next is found, and the others are below the other entries. -/
theorem pending_file {p : Path} {c : Bytes} {mode : FileMode} {rest : List (Path × Entry)}
    {found : FoundFile} :
    Pending ((p, .file c mode) :: rest) found ↔ found = ⟨p, c⟩ ∨ Pending rest found := by
  constructor
  · rintro ⟨q, e, ns, mode', hmem, hholds, hpath⟩
    rcases List.mem_cons.1 hmem with heq | hmem
    · cases heq
      cases hholds
      rw [Path.descend_nil] at hpath
      exact Or.inl (by rw [← hpath])
    · exact Or.inr ⟨q, e, ns, mode', hmem, hholds, hpath⟩
  · rintro (rfl | ⟨q, e, ns, mode', hmem, hholds, hpath⟩)
    · exact ⟨p, _, [], mode, List.mem_cons_self, .file, p.descend_nil.symm⟩
    · exact ⟨q, e, ns, mode', List.mem_cons_of_mem _ hmem, hholds, hpath⟩

/-- A directory may be expanded in its place. -/
theorem pending_dir {p : Path} {f : Folder} {rest : List (Path × Entry)} {found : FoundFile} :
    Pending ((p, .dir f) :: rest) found ↔ Pending (children p f ++ rest) found := by
  constructor
  · rintro ⟨q, e, ns, mode, hmem, hholds, hpath⟩
    rcases List.mem_cons.1 hmem with heq | hmem
    · cases heq
      cases hholds with
      | @dir _ n d ns' hentry hholds =>
        refine ⟨p.child n, d, ns', mode, ?_, hholds, by rw [hpath, Path.descend_cons]⟩
        exact List.mem_append_left _ (mem_children.2 ⟨n, hentry, rfl⟩)
    · exact ⟨q, e, ns, mode, List.mem_append_right _ hmem, hholds, hpath⟩
  · rintro ⟨q, e, ns, mode, hmem, hholds, hpath⟩
    rcases List.mem_append.1 hmem with hmem | hmem
    · obtain ⟨n, hentry, rfl⟩ := mem_children.1 hmem
      exact ⟨p, .dir f, n :: ns, mode, List.mem_cons_self, .dir hentry hholds,
        by rw [hpath, Path.descend_cons]⟩
    · exact ⟨q, e, ns, mode, List.mem_cons_of_mem _ hmem, hholds, hpath⟩

/-- A walk that ends well finds the files below its entries and no others, and none of them
under a path that is too long. -/
theorem mem_collect {es : List (Path × Entry)} {files : List FoundFile}
    (h : collect es = .ok files) :
    (∀ found, found ∈ files ↔ Pending es found) ∧
      ∀ found ∈ files, found.path.isTooLong = false := by
  fun_induction collect es generalizing files with
  | case1 =>
    cases h
    refine ⟨fun found => ⟨fun hmem => (List.not_mem_nil hmem).elim, ?_⟩,
      fun found hmem => (List.not_mem_nil hmem).elim⟩
    rintro ⟨q, e, ns, mode, hmem, _⟩
    cases hmem
  | case2 p c mode rest hlong => cases h
  | case3 p c mode rest hlong ih =>
    cases hrest : collect rest with
    | error e => rw [hrest] at h; cases h
    | ok more =>
      rw [hrest] at h
      cases h
      obtain ⟨hmem, hshort⟩ := ih hrest
      refine ⟨fun found => ?_, fun found hfound => ?_⟩
      · rw [List.mem_cons, pending_file, hmem]
      · rcases List.mem_cons.1 hfound with rfl | hfound
        · exact Bool.eq_false_iff.2 hlong
        · exact hshort found hfound
  | case4 p inner rest hlong => cases h
  | case5 p inner rest hlong ih =>
    obtain ⟨hmem, hshort⟩ := ih h
    refine ⟨fun found => ?_, hshort⟩
    rw [pending_dir, hmem]

/-- The files below a directory, as they are listed. -/
theorem mem_files {root inner : Folder} {cwd : Spot} {dir : Path} {files : List FoundFile}
    (hdir : root.readDir cwd dir = .ok inner) (hinner : inner.WellFormed)
    (h : Listing.files root cwd dir = .ok files) :
    (∀ found, found ∈ files ↔ ∃ ns mode, inner.get? ns = some (.file found.content mode) ∧
      found.path = dir.descend ns) ∧ ∀ found ∈ files, found.path.isTooLong = false := by
  rw [Listing.files, hdir] at h
  obtain ⟨hmem, hshort⟩ := mem_collect h
  refine ⟨fun found => ?_, hshort⟩
  rw [hmem]
  constructor
  · rintro ⟨q, e, ns, mode, hchild, hholds, hpath⟩
    obtain ⟨n, hentry, rfl⟩ := mem_children.1 hchild
    exact ⟨n :: ns, mode, (holds_dir_iff hinner).1 (.dir hentry hholds),
      by rw [hpath, Path.descend_cons]⟩
  · rintro ⟨ns, mode, hget, hpath⟩
    cases (holds_dir_iff hinner).2 hget with
    | @dir _ n e ns' hentry hholds =>
      exact ⟨dir.child n, e, ns', mode, mem_children.2 ⟨n, hentry, rfl⟩, hholds,
        by rw [hpath, Path.descend_cons]⟩

end Listing

/-! ## The way back to a file -/

namespace Folder

/-- Parts are followed one after the other. -/
theorem walk_append {root : Folder} {s t : Spot} {ps : List Text} (h : root.walk s ps = .ok t)
    (qs : List Text) : root.walk s (ps ++ qs) = root.walk t qs := by
  induction ps generalizing s with
  | nil =>
    cases h
    rfl
  | cons p rest ih =>
    rw [walk] at h
    rw [List.cons_append, walk]
    cases hs : root.entryAt s with
    | none => rw [hs] at h; cases h
    | some e =>
      rw [hs] at h
      cases e with
      | file c mode => cases h
      | dir f =>
        simp only at h ⊢
        split at h
        · next hp => rw [if_pos hp, ih h]
        · next hp =>
          rw [if_neg hp]
          split at h
          · next hup => rw [if_pos hup, ih h]
          · next hup =>
            rw [if_neg hup]
            cases henter : enter s p with
            | error e => rw [henter] at h; cases h
            | ok u =>
              rw [henter] at h
              exact ih h

/-- Empty parts lead nowhere. -/
theorem walk_empty_parts {root f : Folder} {s : Spot} (hs : root.entryAt s = some (.dir f))
    (k : Nat) (ps : List Text) : root.walk s (List.replicate k [] ++ ps) = root.walk s ps := by
  induction k with
  | zero => rfl
  | succ k ih =>
    rw [List.replicate_succ, List.cons_append, walk, hs]
    simp only [true_or, if_true, ih]

/-- A proper name is looked up in a directory that is there, and it may not be too long. -/
theorem walk_cons_proper {root : Folder} {n : Text} (hn : Path.Proper n ∧ n ≠ upPart)
    (place ns : List Text) :
    root.walk ⟨place, 0⟩ (n :: ns) =
      match root.get? place with
      | none => .error .noEntry
      | some (.file ..) => .error .notDirectory
      | some (.dir _) =>
          if nameLimit < Utf8.size n then .error .nameTooLong
          else root.walk ⟨place ++ [n], 0⟩ ns := by
  have hentry : root.entryAt ⟨place, 0⟩ = root.get? place := rfl
  have hpart : ¬ (n = [] ∨ n = herePart) := by
    have hisPart := hn.1.1
    simpa [Path.isPart] using hisPart
  rw [walk, hentry]
  cases root.get? place with
  | none => rfl
  | some e =>
    cases e with
    | file c mode => rfl
    | dir f =>
      simp only [if_neg hpart, if_neg hn.2, enter, if_neg (not_not_intro rfl)]
      by_cases hlong : nameLimit < Utf8.size n
      · simp only [if_pos hlong]
      · simp only [if_neg hlong]

/-- A name leads from a directory to what is under it. -/
theorem walk_cons_of_isName {root f : Folder} {place : List Text} {n : Text}
    (hdir : root.get? place = some (.dir f)) (hn : IsName n) (ns : List Text) :
    root.walk ⟨place, 0⟩ (n :: ns) = root.walk ⟨place ++ [n], 0⟩ ns := by
  rw [walk_cons_proper ⟨hn.proper, hn.not_up⟩, hdir]
  exact if_neg (Nat.not_lt.2 hn.short)

/-- Names that lead to an entry can be followed. -/
theorem walk_names {root f : Folder} {place ns : List Text} {e : Entry}
    (hdir : root.get? place = some (.dir f)) (hget : f.get? ns = some e)
    (hnames : ∀ n ∈ ns, IsName n) : root.walk ⟨place, 0⟩ ns = .ok ⟨place ++ ns, 0⟩ := by
  induction ns generalizing place f with
  | nil => rw [walk, List.append_nil]
  | cons n rest ih =>
    rw [walk_cons_of_isName hdir (hnames n List.mem_cons_self)]
    have hrest : ∀ m ∈ rest, IsName m := fun m hm => hnames m (List.mem_cons_of_mem _ hm)
    rw [get?] at hget
    cases hn : f.find? n with
    | none => rw [hn] at hget; cases hget
    | some d =>
      rw [hn] at hget
      have hplace : root.get? (place ++ [n]) = some d := by
        rw [get?_append_of_dir hdir, get?_singleton, hn]
      cases d with
      | file c mode =>
        simp only at hget
        split at hget
        · next hnil =>
          subst hnil
          rfl
        · cases hget
      | dir g =>
        rw [ih hplace hget hrest, List.append_assoc, List.singleton_append]

/-- A directory that has been removed is empty, so one that holds something is there. -/
theorem exists_place_of_entryAt {root inner : Folder} {s : Spot} {ns : List Text} {e : Entry}
    (hentry : root.entryAt s = some (.dir inner)) (hget : inner.get? ns = some e) (hne : ns ≠ []) :
    ∃ place, s = ⟨place, 0⟩ ∧ root.get? place = some (.dir inner) := by
  obtain ⟨place, lost⟩ := s
  by_cases hlost : lost = 0
  · subst hlost
    exact ⟨place, rfl, hentry⟩
  · rw [entryAt, if_neg hlost] at hentry
    cases hentry
    cases ns with
    | nil => exact absurd rfl hne
    | cons n rest => cases hget

/-- The path that an entry is listed under leads to it, and it counts as a file unless it is a
device. -/
theorem isFileText_eq {root inner : Folder} {cwd : Spot} {dir : Path} {ns : List Text}
    {c : Bytes} {mode : FileMode} (hdir : root.readDir cwd dir = .ok inner)
    (hparts : ∀ x ∈ dir.parts, Path.Proper x) (hinner : inner.WellFormed)
    (hget : inner.get? ns = some (.file c mode)) (hshort : (dir.descend ns).isTooLong = false) :
    root.isFileText cwd (dir.descend ns).toText = decide (mode ≠ .sink) := by
  have hnames := hinner.isName_of_get? hget
  have hne : ns ≠ [] := by
    intro hnil
    subst hnil
    cases hget
  have hproper : ∀ x ∈ (dir.descend ns).parts, Path.Proper x := by
    intro x hx
    rcases List.mem_append.1 hx with hx | hx
    · exact hparts x hx
    · exact (hnames x hx).proper
  have hparse : Path.parse (dir.descend ns).toText = dir.descend ns := Path.parse_toText hproper
  have hpne : (dir.descend ns).parts ≠ [] := List.append_ne_nil_of_right_ne_nil _ hne
  have htext : (dir.descend ns).toText ≠ [] := by
    intro hnil
    rw [hnil] at hparse
    exact hpne (congrArg Path.parts hparse).symm
  obtain ⟨_, s, hwalk, hentry⟩ := readDir_eq_ok_iff.1 hdir
  obtain ⟨place, rfl, hplace⟩ := exists_place_of_entryAt hentry hget hne
  have hfollow : root.walk (start cwd dir) (dir.parts ++ ns) = .ok ⟨place ++ ns, 0⟩ := by
    rw [walk_append hwalk, walk_names hplace hget hnames]
  have hpieces : root.walk (start cwd dir) (Text.splitOn '/' (dir.descend ns).toText) =
      .ok ⟨place ++ ns, 0⟩ := by
    rw [Path.splitOn_toText hpne hproper]
    by_cases habs : dir.isAbsolute = true
    · have hroot : root.entryAt (start cwd dir) = some (.dir root) := by
        rw [start, if_pos habs]
        rfl
      rw [walk_empty_parts hroot]
      exact hfollow
    · have hhere : dir.anchor = .here := by simpa [Path.isAbsolute] using habs
      rw [show (dir.descend ns).anchor = .here from hhere]
      exact hfollow
  have hfile : root.entryAt ⟨place ++ ns, 0⟩ = some (.file c mode) := by
    rw [entryAt, if_pos rfl, get?_append_of_dir hplace, hget]
  have hlimit : ¬ pathLimit < Utf8.size (dir.descend ns).toText := by
    simpa [Path.isTooLong] using hshort
  rw [isFileText, statText, if_neg htext, if_neg hlimit, hparse]
  rw [show start cwd (dir.descend ns) = start cwd dir from rfl, hpieces]
  simp only [hfile]

/-- The path that a file is listed under leads to the file. -/
theorem isFileText_listed {root inner : Folder} {cwd : Spot} {dir : Path} {ns : List Text}
    {c : Bytes} {mode : FileMode} (hdir : root.readDir cwd dir = .ok inner)
    (hparts : ∀ x ∈ dir.parts, Path.Proper x) (hinner : inner.WellFormed)
    (hget : inner.get? ns = some (.file c mode)) (hmode : mode ≠ .sink)
    (hshort : (dir.descend ns).isTooLong = false) :
    root.isFileText cwd (dir.descend ns).toText = true := by
  rw [isFileText_eq hdir hparts hinner hget hshort]
  exact decide_eq_true hmode

end Folder
end AmbientBundle
