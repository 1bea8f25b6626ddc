import AmbientBundle.Bundle.Aggregate
import AmbientBundle.Proofs.FileTree.Listing
import AmbientBundle.Proofs.ModuleName
import AmbientBundle.Proofs.Report

/-!
# Loaded declarations

Loading lists the files below a directory, reads them and names them.  Between these
steps there are reports, which may make a log file longer, and so the tree that is listed
need not be the tree at the start.  It is of the same shape, and this is all that names
depend on: `mem_ids_of_load` says that the ids of the loaded declarations are the keys of
the files that were there at the start.

The key of a declaration file leaves out its ending, whatever its extension is
(`InScratch.keyOf_declaration`), so that files with one key differ at most in their extensions
(`InScratch.eq_of_keyOf_eq`).  If the tree is one that a compiler writes with a single extension,
the key of a file is the id of its module (`Loaded.keyOf_eq`), and no two files have the same key
(`Loaded.keyOf_inj`).
-/

namespace AmbientBundle
namespace Bundle.Aggregator

/-! ## The steps -/

/-- Reading texts keeps the paths. -/
theorem readTexts_eq_ok {a : Aggregator} {files : List FoundFile} {s s' : Session}
    {texts : List (Path × Text)} (h : (a.readTexts files).outcome s = (.ok texts, s')) :
    texts.map Prod.fst = files.map FoundFile.path ∧ s' = s := by
  induction files generalizing texts s' with
  | nil =>
    cases h
    exact ⟨rfl, rfl⟩
  | cons f rest ih =>
    rw [readTexts] at h
    cases hdecode : Utf8.decode f.content with
    | none =>
      simp only [hdecode] at h
      obtain ⟨_, _, _, hdebug⟩ := Action.outcome_bind_eq_ok h
      obtain ⟨_, _, _, hthrow⟩ := Action.outcome_bind_eq_ok hdebug
      cases hthrow
    | some t =>
      simp only [hdecode] at h
      obtain ⟨more, t', hmore, hpure⟩ := Action.outcome_bind_eq_ok h
      obtain ⟨hpaths, rfl⟩ := ih hmore
      cases hpure
      exact ⟨by rw [List.map_cons, List.map_cons, hpaths], rfl⟩

/-- A path that was checked leaves the session as it is. -/
theorem checkPath_eq_ok {host : Host} {p : Path} {s s' : Session}
    (h : (Action.checkPath host p).outcome s = (.ok (), s')) : s' = s := by
  rw [Action.checkPath] at h
  split at h
  · cases h
  · cases h
    rfl

/-- The files are listed after a report. -/
theorem listFiles_eq_ok {a : Aggregator} {dir : Path} {s s' : Session} {files : List FoundFile}
    (h : (a.listFiles dir).outcome s = (.ok files, s')) :
    ∃ t, s.Reported t ∧ Listing.files t.tree (s.spot a.voice.host) dir = .ok files ∧
      t.Reported s' := by
  rw [listFiles] at h
  obtain ⟨_, t, hsay, hchecked⟩ := Action.outcome_bind_eq_ok h
  obtain ⟨_, hrep⟩ := (Action.Gives.say _ _ _).of_outcome hsay
  obtain ⟨_, u, hcheck, hlist⟩ := Action.outcome_bind_eq_ok hchecked
  have hu : u = t := checkPath_eq_ok hcheck
  rw [hu, Action.outcome_bind_ok (Action.outcome_get t), hrep.spot] at hlist
  refine ⟨t, hrep, ?_⟩
  cases hfiles : Listing.files t.tree (s.spot a.voice.host) dir with
  | error e =>
    simp only [hfiles] at hlist
    obtain ⟨_, _, _, hdebug⟩ := Action.outcome_bind_eq_ok hlist
    obtain ⟨_, _, _, hthrow⟩ := Action.outcome_bind_eq_ok hdebug
    cases hthrow
  | ok found =>
    simp only [hfiles] at hlist
    obtain ⟨_, v, hsay', hpure⟩ := Action.outcome_bind_eq_ok hlist
    obtain ⟨_, hrep'⟩ := (Action.Gives.say _ _ _).of_outcome hsay'
    cases hpure
    exact ⟨rfl, hrep'⟩

/-- The declarations are the texts of the listed files, named in the tree at the start. -/
theorem loadDeclarations_eq_ok {a : Aggregator} {dir : Path} {s s' : Session} {d : Declarations}
    (h : (a.loadDeclarations dir).outcome s = (.ok d, s')) :
    ∃ t files texts, s.Reported t ∧
      Listing.files t.tree (s.spot a.voice.host) dir = .ok files ∧
      texts.map Prod.fst = files.map FoundFile.path ∧
      d = named a.namer (s.tree.isFileText (s.spot a.voice.host)) texts := by
  rw [loadDeclarations] at h
  obtain ⟨files, u, hlist, hreading⟩ := Action.outcome_bind_eq_ok h
  obtain ⟨t, hst, hfiles, htu⟩ := listFiles_eq_ok hlist
  obtain ⟨texts, u', hread, hnaming⟩ := Action.outcome_bind_eq_ok hreading
  obtain ⟨hpaths, hu⟩ := readTexts_eq_ok hread
  rw [hu] at hnaming
  obtain ⟨_, v, hsay, hnamed⟩ := Action.outcome_bind_eq_ok hnaming
  obtain ⟨_, huv⟩ := (Action.Gives.say _ _ _).of_outcome hsay
  rw [Action.outcome_bind_ok (Action.outcome_get v)] at hnamed
  obtain ⟨_, _, _, hpure⟩ := Action.outcome_bind_eq_ok hnamed
  refine ⟨t, files, texts, hst, hfiles, hpaths, ?_⟩
  cases hpure
  rw [((hst.trans htu).trans huv).isFileText]

/-! ## The keys -/

/-- The id that a file below a directory is loaded under, given the names that lead to it. -/
def keyOf (a : Aggregator) (s : Session) (dir : Path) (ns : List Text) : ModuleId :=
  a.namer.name (s.tree.isFileText (s.spot a.voice.host)) {} (dir.descend ns).toText

section

variable {a : Aggregator} {dir : Path} {s s' : Session} {inner : Folder} {d : Declarations}

/-- The paths that are named are those of the files that were there at the start, and all of
them are short enough to be followed. -/
theorem exists_texts_of_load (htree : s.tree.WellFormed)
    (hdir : s.tree.readDir (s.spot a.voice.host) dir = .ok inner)
    (hload : (a.loadDeclarations dir).outcome s = (.ok d, s')) :
    ∃ texts, d = named a.namer (s.tree.isFileText (s.spot a.voice.host)) texts ∧
      (∀ p, p ∈ texts.map Prod.fst ↔ ∃ ns, inner.hasFile ns = true ∧ p = dir.descend ns) ∧
      ∀ p ∈ texts.map Prod.fst, p.isTooLong = false := by
  obtain ⟨t, files, texts, hst, hfiles, hpaths, hd⟩ := loadDeclarations_eq_ok hload
  obtain ⟨inner', hdir', hshape⟩ := Folder.readDir_congr hst.shape hdir
  obtain ⟨hmem, hshort⟩ :=
    Listing.mem_files hdir' ((hst.names htree).of_readDir hdir') hfiles
  have hfile (ns : List Text) : inner.hasFile ns = true ↔
      ∃ c mode, inner'.get? ns = some (.file c mode) := by
    rw [hshape.hasFile, Folder.hasFile_iff]
  refine ⟨texts, hd, ?_, ?_⟩
  · intro p
    rw [hpaths, List.mem_map]
    constructor
    · rintro ⟨found, hfound, rfl⟩
      obtain ⟨ns, mode, hget, hp⟩ := (hmem found).1 hfound
      exact ⟨ns, (hfile ns).2 ⟨_, mode, hget⟩, hp⟩
    · rintro ⟨ns, hns, rfl⟩
      obtain ⟨c, mode, hget⟩ := (hfile ns).1 hns
      exact ⟨⟨dir.descend ns, c⟩, (hmem _).2 ⟨ns, mode, hget, rfl⟩, rfl⟩
  · intro p hp
    rw [hpaths] at hp
    obtain ⟨found, hfound, rfl⟩ := List.mem_map.1 hp
    exact hshort found hfound

/-- The ids of the loaded declarations are the keys of the files. -/
theorem mem_ids_of_load (htree : s.tree.WellFormed)
    (hdir : s.tree.readDir (s.spot a.voice.host) dir = .ok inner)
    (hload : (a.loadDeclarations dir).outcome s = (.ok d, s')) (m : ModuleId) :
    m ∈ d.ids ↔ ∃ ns, inner.hasFile ns = true ∧ m = a.keyOf s dir ns := by
  obtain ⟨texts, rfl, hpath, _⟩ := exists_texts_of_load htree hdir hload
  rw [named, Declarations.mem_ids_ofList, List.map_map, List.mem_map]
  constructor
  · rintro ⟨e, he, rfl⟩
    obtain ⟨ns, hns, hp⟩ := (hpath e.1).1 (List.mem_map_of_mem he)
    exact ⟨ns, hns, by rw [keyOf, ← hp]; rfl⟩
  · rintro ⟨ns, hns, rfl⟩
    obtain ⟨e, he, hp⟩ := List.mem_map.1 ((hpath _).2 ⟨ns, hns, rfl⟩)
    exact ⟨e, he, by rw [keyOf, ← hp]; rfl⟩

/-- Where loading ends well, no file has a path that is too long. -/
theorem isTooLong_of_load (htree : s.tree.WellFormed)
    (hdir : s.tree.readDir (s.spot a.voice.host) dir = .ok inner)
    (hload : (a.loadDeclarations dir).outcome s = (.ok d, s')) {ns : List Text}
    (hns : inner.hasFile ns = true) : (dir.descend ns).isTooLong = false := by
  obtain ⟨_, _, hpath, hshort⟩ := exists_texts_of_load htree hdir hload
  exact hshort _ ((hpath _).2 ⟨ns, hns, rfl⟩)

end

end Bundle.Aggregator

/-! ## Declaration files -/

/-- A file of a tree that keeps its bytes, and that no backslash is on the way to. -/
structure Folder.PlainFile (f : Folder) (ns : List Text) : Prop where
  /-- It is there, and it is no device. -/
  regular : ∃ c mode, f.get? ns = some (.file c mode) ∧ mode ≠ .sink
  /-- No name has a backslash. -/
  no_backslash : ∀ x ∈ ns, '\\' ∉ x

theorem Folder.PlainFile.hasFile {f : Folder} {ns : List Text} (h : f.PlainFile ns) :
    f.hasFile ns = true := by
  obtain ⟨c, mode, hget, -⟩ := h.regular
  exact Folder.hasFile_iff.2 ⟨c, mode, hget⟩

namespace Bundle.Aggregator

/-- A tree in the directory that names are relative to. -/
structure InScratch (a : Aggregator) (raw : Text) (s : Session) (tree : Folder) : Prop where
  /-- Relative paths start from a place at the root. -/
  cwd : a.namer.cwd.isAbsolute = true
  /-- Names are relative to the directory. -/
  scratch : a.namer.scratch = Path.under a.namer.cwd (Path.parse raw)
  /-- The names in the file system are those of a file system. -/
  names : s.tree.WellFormed
  /-- The tree is in the directory. -/
  dir : s.tree.readDir (s.spot a.voice.host) (Path.parse raw) = .ok tree

namespace InScratch

variable {a : Aggregator} {raw : Text} {s : Session} {tree : Folder}

theorem wellFormed (h : InScratch a raw s tree) : tree.WellFormed := h.names.of_readDir h.dir

/-- A declaration file is loaded under the package and the names that lead to it, without its
ending. -/
theorem keyOf_declaration (h : InScratch a raw s tree) {front : List Text} {stem ext : Text}
    (hext : IsExtension ext)
    (hfile : tree.PlainFile (front ++ [stem ++ declarationEndingOf ext]))
    (hshort : ((Path.parse raw).descend
      (front ++ [stem ++ declarationEndingOf ext])).isTooLong = false) :
    a.keyOf s (Path.parse raw) (front ++ [stem ++ declarationEndingOf ext]) =
      moduleId (slashed a.namer.package) (front ++ [stem]) := by
  obtain ⟨c, mode, hget, hmode⟩ := hfile.regular
  have hparts : ∀ x ∈ (Path.parse raw).parts, Path.Proper x := fun x => Path.proper_of_mem_parse
  have hname := h.wellFormed.isName_of_get? hget
  have hpieces : ∀ x ∈ front ++ [stem ++ declarationEndingOf ext], IsPiece x := fun x hx =>
    ⟨(hname x hx).proper, (hname x hx).not_up, hfile.no_backslash x hx⟩
  exact Namer.name_declaration h.cwd h.scratch hext hparts hpieces
    (Folder.isFileText_listed h.dir hparts h.wellFormed hget hmode hshort)

/-- Files with one key differ at most in their extensions. -/
theorem eq_of_keyOf_eq (h : InScratch a raw s tree) {front front' : List Text}
    {stem stem' ext ext' : Text} (hext : IsExtension ext) (hext' : IsExtension ext')
    (hfile : tree.PlainFile (front ++ [stem ++ declarationEndingOf ext]))
    (hfile' : tree.PlainFile (front' ++ [stem' ++ declarationEndingOf ext']))
    (hshort : ((Path.parse raw).descend
      (front ++ [stem ++ declarationEndingOf ext])).isTooLong = false)
    (hshort' : ((Path.parse raw).descend
      (front' ++ [stem' ++ declarationEndingOf ext'])).isTooLong = false)
    (heq : a.keyOf s (Path.parse raw) (front ++ [stem ++ declarationEndingOf ext]) =
      a.keyOf s (Path.parse raw) (front' ++ [stem' ++ declarationEndingOf ext'])) :
    front = front' ∧ stem = stem' := by
  have hslash {front : List Text} {stem ext : Text}
      (hfile : tree.PlainFile (front ++ [stem ++ declarationEndingOf ext])) :
      ∀ x ∈ front ++ [stem], '/' ∉ x := by
    obtain ⟨c, mode, hget, -⟩ := hfile.regular
    have hname := h.wellFormed.isName_of_get? hget
    intro x hx
    rcases List.mem_append.1 hx with hx | hx
    · exact (hname x (List.mem_append_left _ hx)).proper.2
    · rw [List.mem_singleton.1 hx]
      have hlast := (hname (stem ++ declarationEndingOf ext) (by simp)).proper.2
      exact fun hmem => hlast (List.mem_append_left _ hmem)
  rw [h.keyOf_declaration hext hfile hshort, h.keyOf_declaration hext' hfile' hshort'] at heq
  obtain ⟨hfront, hstem⟩ := List.append_inj' (moduleId_inj (hslash hfile) (hslash hfile') heq) rfl
  exact ⟨hfront, List.singleton_inj.1 hstem⟩

end InScratch
end Bundle.Aggregator

/-! ## Emitted trees -/

/-- A file that a compiler writes, given the names that lead to it. -/
structure IsEmitted (ns : List Text) (mode : FileMode) : Prop where
  /-- It is no device. -/
  regular : mode ≠ .sink
  /-- It ends as declaration files do, after a stem that leads somewhere. -/
  ending : ∃ front stem, ns = front ++ [stem ++ declarationEnding] ∧
    stem ≠ [] ∧ stem ≠ herePart ∧ stem ≠ upPart
  /-- No name on the way to it has a backslash. -/
  no_backslash : ∀ n ∈ ns, '\\' ∉ n

/-- A tree that a compiler writes. -/
def Folder.Emitted (f : Folder) : Prop :=
  ∀ ns c mode, f.get? ns = some (.file c mode) → IsEmitted ns mode

/-- A file further down is still one that a compiler writes. -/
theorem IsEmitted.cons {n : Text} {ns : List Text} {mode : FileMode} (h : IsEmitted ns mode)
    (hn : '\\' ∉ n) : IsEmitted (n :: ns) mode where
  regular := h.regular
  ending := by
    obtain ⟨front, stem, rfl, hstem⟩ := h.ending
    exact ⟨n :: front, stem, rfl, hstem⟩
  no_backslash := by
    intro x hx
    rcases List.mem_cons.1 hx with rfl | hx
    · exact hn
    · exact h.no_backslash x hx

namespace Folder.Emitted

theorem nil : Folder.nil.Emitted := by
  intro ns c mode h
  cases ns with
  | nil => cases h
  | cons n rest => cases h

/-- A compiler may write one more file. -/
theorem file {n : Text} {content : Bytes} {mode : FileMode} {rest : Folder}
    (h : IsEmitted [n] mode) (hrest : rest.Emitted) :
    (Folder.file n content mode rest).Emitted := by
  intro ns c mode' hget
  cases ns with
  | nil => cases hget
  | cons k ks =>
    rw [Folder.get?, Folder.find?] at hget
    by_cases hk : n = k
    · subst hk
      rw [if_pos rfl] at hget
      simp only at hget
      split at hget
      · next hks =>
        subst hks
        cases hget
        exact h
      · cases hget
    · rw [if_neg hk] at hget
      exact hrest (k :: ks) c mode' (by rw [Folder.get?]; exact hget)

/-- A compiler may write one more directory. -/
theorem dir {n : Text} {inner rest : Folder} (hn : '\\' ∉ n) (hinner : inner.Emitted)
    (hrest : rest.Emitted) : (Folder.dir n inner rest).Emitted := by
  intro ns c mode hget
  cases ns with
  | nil => cases hget
  | cons k ks =>
    rw [Folder.get?, Folder.find?] at hget
    by_cases hk : n = k
    · subst hk
      rw [if_pos rfl] at hget
      exact (hinner ks c mode hget).cons hn
    · rw [if_neg hk] at hget
      exact hrest (k :: ks) c mode (by rw [Folder.get?]; exact hget)

end Folder.Emitted

section

variable {f : Folder} {ns : List Text}

/-- The names of a file are pieces. -/
theorem Folder.Emitted.isPiece (h : f.Emitted) (hf : f.WellFormed) (hfile : f.hasFile ns = true) :
    ∀ x ∈ ns, IsPiece x := by
  intro x hx
  obtain ⟨c, mode, hget⟩ := Folder.hasFile_iff.1 hfile
  have hname := hf.isName_of_get? hget x hx
  exact ⟨hname.proper, hname.not_up, (h ns c mode hget).no_backslash x hx⟩

/-- A file is a module with the ending of declaration files. -/
theorem Folder.Emitted.module (h : f.Emitted) (hf : f.WellFormed) (hfile : f.hasFile ns = true) :
    ∃ front stem, ns = front ++ [stem ++ declarationEnding] ∧
      ∀ x ∈ front ++ [stem], IsPiece x := by
  obtain ⟨c, mode, hget⟩ := Folder.hasFile_iff.1 hfile
  obtain ⟨front, stem, rfl, hnil, hhere, hup⟩ := (h ns c mode hget).ending
  have hpieces := h.isPiece hf hfile
  have hlast := hpieces (stem ++ declarationEnding) (by simp)
  refine ⟨front, stem, rfl, fun x hx => ?_⟩
  rcases List.mem_append.1 hx with hx | hx
  · exact hpieces x (List.mem_append_left _ hx)
  · rw [List.mem_singleton.1 hx]
    refine ⟨⟨?_, ?_⟩, hup, ?_⟩
    · simp [Path.isPart, hnil, hhere]
    · exact fun hmem => hlast.proper.2 (List.mem_append_left _ hmem)
    · exact fun hmem => hlast.no_backslash (List.mem_append_left _ hmem)

end

/-! ## Loaded trees -/

namespace Bundle.Aggregator

/-- Declarations that were loaded from a tree that a compiler wrote, in the directory that names
are relative to. -/
structure Loaded (a : Aggregator) (raw : Text) (s : Session) (tree : Folder) (d : Declarations) :
    Prop where
  /-- Relative paths start from a place at the root. -/
  cwd : a.namer.cwd.isAbsolute = true
  /-- Names are relative to the directory. -/
  scratch : a.namer.scratch = Path.under a.namer.cwd (Path.parse raw)
  /-- The package has a name that is a path. -/
  package : IsPackage a.namer.package
  /-- The names in the file system are those of a file system. -/
  names : s.tree.WellFormed
  /-- The tree is in the directory. -/
  dir : s.tree.readDir (s.spot a.voice.host) (Path.parse raw) = .ok tree
  /-- The tree is one that a compiler writes. -/
  emitted : tree.Emitted
  /-- The declarations were loaded from the directory. -/
  run : ((a.loadDeclarations (Path.parse raw)).outcome s).1 = .ok d

namespace Loaded

variable {a : Aggregator} {raw : Text} {s : Session} {tree : Folder} {d : Declarations}

theorem inScratch (h : Loaded a raw s tree d) : InScratch a raw s tree :=
  ⟨h.cwd, h.scratch, h.names, h.dir⟩

theorem wellFormed (h : Loaded a raw s tree d) : tree.WellFormed := h.inScratch.wellFormed

theorem outcome (h : Loaded a raw s tree d) :
    ∃ s', (a.loadDeclarations (Path.parse raw)).outcome s = (.ok d, s') :=
  ⟨_, Prod.ext h.run rfl⟩

/-- The ids are the keys of the files. -/
theorem mem_ids_iff (h : Loaded a raw s tree d) {m : ModuleId} :
    m ∈ d.ids ↔ ∃ ns, tree.hasFile ns = true ∧ m = a.keyOf s (Path.parse raw) ns := by
  obtain ⟨s', hload⟩ := h.outcome
  exact mem_ids_of_load h.names h.dir hload m

/-- A file is loaded under the id of its module. -/
theorem keyOf_eq (h : Loaded a raw s tree d) {front : List Text} {stem : Text}
    (hfile : tree.hasFile (front ++ [stem ++ declarationEnding]) = true) :
    a.keyOf s (Path.parse raw) (front ++ [stem ++ declarationEnding]) =
      moduleId a.namer.package (front ++ [stem]) := by
  obtain ⟨s', hload⟩ := h.outcome
  obtain ⟨c, mode, hget⟩ := Folder.hasFile_iff.1 hfile
  have hemitted := h.emitted _ c mode hget
  have hkey := h.inScratch.keyOf_declaration (by decide)
    ⟨⟨c, mode, hget, hemitted.regular⟩, hemitted.no_backslash⟩
    (isTooLong_of_load h.names h.dir hload hfile)
  rwa [slashed_of_no_backslash h.package.no_backslash] at hkey

/-- No two files are loaded under one key. -/
theorem keyOf_inj (h : Loaded a raw s tree d) {ns ms : List Text} (hns : tree.hasFile ns = true)
    (hms : tree.hasFile ms = true)
    (heq : a.keyOf s (Path.parse raw) ns = a.keyOf s (Path.parse raw) ms) : ns = ms := by
  obtain ⟨front, stem, rfl, hpieces⟩ := h.emitted.module h.wellFormed hns
  obtain ⟨front', stem', rfl, hpieces'⟩ := h.emitted.module h.wellFormed hms
  rw [h.keyOf_eq hns, h.keyOf_eq hms] at heq
  have hnames := moduleId_inj (fun x hx => (hpieces x hx).proper.2)
    (fun x hx => (hpieces' x hx).proper.2) heq
  obtain ⟨rfl, hlast⟩ := List.append_inj' hnames rfl
  rw [List.singleton_inj.1 hlast]

end Loaded
end Bundle.Aggregator
end AmbientBundle
