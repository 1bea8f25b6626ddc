import AmbientBundle.Proofs.Bundle.Listing

/-!
# Loaded texts

Declarations that are loaded from a directory are lossless if they have one entry for every listed
file, in the order of the listing, with the id and the text of that file (`Lossless`).

An id leaves out the whole ending of a file, and there are three endings that a compiler writes.  So
a module may be there twice, once with each of two endings, and then the file that is listed later
takes the entry of the other one.  Nothing else can be lost: `load_lossless_iff` says that loading
is lossless if and only if no two files differ in their endings only.
-/

namespace AmbientBundle

/-! ## Directories without a log file -/

/-- Whether no reports go to a file in a directory or below it. -/
def Session.QuietBelow (s : Session) (host : Host) (dir : Path) : Prop :=
  ∀ spot, s.tree.walk (Folder.start (s.spot host) dir) dir.parts = .ok spot →
    ∀ ns, ¬ s.Writes (spot.place ++ ns)

/-- Such a directory is not changed by reports. -/
theorem Session.Reported.readDir {s t : Session} (hst : s.Reported t) {host : Host} {dir : Path}
    {tree : Folder} (hquiet : s.QuietBelow host dir)
    (hdir : s.tree.readDir (s.spot host) dir = .ok tree) :
    t.tree.readDir (s.spot host) dir = .ok tree := by
  obtain ⟨hshort, spot, hwalk, hentry⟩ := Folder.readDir_eq_ok_iff.1 hdir
  refine Folder.readDir_eq_ok_iff.2 ⟨hshort, spot, ?_, ?_⟩
  · rw [← Folder.walk_congr hst.shape, hwalk]
  · rw [← hentry, Folder.entryAt, Folder.entryAt, hst.inside spot.place (hquiet spot hwalk)]

/-! ## Trees of declaration files -/

/-- The extensions that a compiler gives to declaration files. -/
def declarationExtensions : List Text := [['t', 's'], ['m', 't', 's'], ['c', 't', 's']]

theorem isExtension_of_mem {ext : Text} (h : ext ∈ declarationExtensions) : IsExtension ext := by
  have hall : ∀ e ∈ declarationExtensions, IsExtension e := by decide
  exact hall ext h

namespace Folder

/-- The text of a file, as it is read. -/
def textAt (f : Folder) (ns : List Text) : Option Text :=
  (f.fileAt ns).bind fun e => (Utf8.decode e.1).map Text.asRead

theorem textAt_of_get? {f : Folder} {ns : List Text} {c : Bytes} {mode : FileMode}
    (h : f.get? ns = some (.file c mode)) : f.textAt ns = (Utf8.decode c).map Text.asRead := by
  rw [textAt, fileAt, look, h]
  rfl

/-- A tree of declaration files, all of which have a text. -/
def OfDeclarations (f : Folder) : Prop :=
  ∀ ns, f.hasFile ns = true → f.PlainFile ns ∧ (f.textAt ns).isSome = true ∧
    ∃ front stem, stem ≠ [] ∧ ∃ ext ∈ declarationExtensions,
      ns = front ++ [stem ++ declarationEndingOf ext]

/-- A tree in which no two files differ in their endings only. -/
def OnePerModule (f : Folder) : Prop :=
  ∀ front stem, ∀ ext ∈ declarationExtensions, ∀ ext' ∈ declarationExtensions,
    f.hasFile (front ++ [stem ++ declarationEndingOf ext]) = true →
    f.hasFile (front ++ [stem ++ declarationEndingOf ext']) = true → ext = ext'

end Folder

namespace Bundle.Aggregator

/-! ## Reading -/

/-- A listed file that can be read. -/
def Reads (f : FoundFile) (e : Path × Text) : Prop :=
  e.1 = f.path ∧ (Utf8.decode f.content).map Text.asRead = some e.2

theorem outcome_readTexts (a : Aggregator) {files : List FoundFile} {texts : List (Path × Text)}
    (h : List.Forall₂ Reads files texts) (s : Session) :
    (a.readTexts files).outcome s = (.ok texts, s) := by
  induction h with
  | nil => rfl
  | @cons f e files texts hread hrest ih =>
    obtain ⟨hpath, htext⟩ := hread
    obtain ⟨t, hdecode, hasRead⟩ := Option.map_eq_some_iff.1 htext
    rw [readTexts, hdecode]
    simp only
    rw [Action.outcome_bind_ok ih, ← hpath, hasRead]
    rfl

/-- If the files are listed and can be read, the declarations are loaded. -/
theorem outcome_loadDeclarations {a : Aggregator} {dir : Path} {s s' : Session}
    {files : List FoundFile} {texts : List (Path × Text)}
    (hlist : (a.listFiles dir).outcome s = (.ok files, s')) (h : List.Forall₂ Reads files texts) :
    ∃ t, (a.loadDeclarations dir).outcome s =
      (.ok (named a.namer (s.tree.isFileText (s.spot a.voice.host)) texts), t) := by
  obtain ⟨u, hsu, -, hus'⟩ := listFiles_eq_ok hlist
  rw [loadDeclarations, Action.outcome_bind_ok hlist,
    Action.outcome_bind_ok (outcome_readTexts a h s')]
  obtain ⟨t, hsay, hs't⟩ := a.voice.outcome_say Level.verbose
    "Loading declaration files and mapping to modules..." s'
  rw [Voice.verbose, Action.outcome_bind_ok hsay, Action.outcome_bind_ok (Action.outcome_get t),
    ((hsu.trans hus').trans hs't).isFileText]
  obtain ⟨t', hsay', -⟩ := a.voice.outcome_say Level.verbose
    "Loaded declaration files and mapped to modules!" t
  exact ⟨t', Action.outcome_bind_ok hsay'⟩

/-- A file found below a directory, given the names that lead to it. -/
def FoundAt (dir : Path) (tree : Folder) (f : FoundFile) (ns : List Text) : Prop :=
  f.path = dir.descend ns ∧ ∃ mode, tree.get? ns = some (.file f.content mode)

/-- A quiet directory is listed as it was at the start, names and bytes, and no path below it is too
long. -/
theorem listed_of_quiet {a : Aggregator} {dir : Path} {s s' : Session} {tree : Folder}
    {files : List FoundFile} (hnames : s.tree.WellFormed)
    (hdir : s.tree.readDir (s.spot a.voice.host) dir = .ok tree)
    (hquiet : s.QuietBelow a.voice.host dir)
    (hlist : (a.listFiles dir).outcome s = (.ok files, s')) :
    tree.FitsBelow dir ∧ files.map FoundFile.path = tree.inPlace.map dir.descend ∧
      List.Forall₂ (FoundAt dir tree) files tree.inPlace := by
  obtain ⟨t, hst, hfiles, -⟩ := listFiles_eq_ok hlist
  have hdir' := hst.readDir hquiet hdir
  have htree := hnames.of_readDir hdir
  rcases Listing.files_cases htree hdir' with ⟨hfits, found, hfound, hpaths⟩ | ⟨-, e, herror, -⟩
  · rw [hfiles] at hfound
    cases hfound
    obtain ⟨hmem, -⟩ := Listing.mem_files hdir' htree hfiles
    have hsame : List.Forall₂ Eq (files.map FoundFile.path) (tree.inPlace.map dir.descend) := by
      rw [List.forall₂_eq_eq_eq]
      exact hpaths
    have hplaces := List.forall₂_map_right_iff.1 (List.forall₂_map_left_iff.1 hsame)
    refine ⟨hfits, hpaths, ((List.forall₂_and_left files tree.inPlace).2
      ⟨fun f hf => (hmem f).1 hf, hplaces⟩).imp ?_⟩
    rintro f ns ⟨⟨ms, mode, hget, hpath⟩, hplace⟩
    obtain rfl : ms = ns := by
      rw [hpath] at hplace
      exact List.append_cancel_left (congrArg Path.parts hplace)
    exact ⟨hplace, mode, hget⟩
  · rw [hfiles] at herror
    cases herror

/-- Files with a text can be read, each as its own text. -/
theorem exists_texts {dir : Path} {tree : Folder} {files : List FoundFile} {nss : List (List Text)}
    (h : List.Forall₂ (FoundAt dir tree) files nss)
    (htext : ∀ ns ∈ nss, (tree.textAt ns).isSome = true) :
    ∃ texts, List.Forall₂ Reads files texts ∧
      List.Forall₂ (fun e ns => e.1 = dir.descend ns ∧ tree.textAt ns = some e.2) texts nss := by
  induction h with
  | nil => exact ⟨[], .nil, .nil⟩
  | @cons f ns files nss hfound hrest ih =>
    obtain ⟨texts, hreads, hplaces⟩ := ih fun ms hms => htext ms (List.mem_cons_of_mem _ hms)
    obtain ⟨text, hsome⟩ := Option.isSome_iff_exists.1 (htext ns List.mem_cons_self)
    obtain ⟨hpath, mode, hget⟩ := hfound
    refine ⟨(f.path, text) :: texts, .cons ⟨rfl, ?_⟩ hreads, .cons ⟨hpath, hsome⟩ hplaces⟩
    rw [← Folder.textAt_of_get? hget, hsome]

/-! ## Losing nothing -/

section

variable {a : Aggregator} {s : Session} {dir : Path} {tree : Folder}

/-- An entry with the id and the text of a file. -/
def EntryOf (a : Aggregator) (s : Session) (dir : Path) (tree : Folder) (e : ModuleId × Text)
    (ns : List Text) : Prop :=
  e.1 = a.keyOf s dir ns ∧ tree.textAt ns = some e.2

/-- Declarations with one entry for every file, in the order of the listing. -/
def Lossless (a : Aggregator) (s : Session) (dir : Path) (tree : Folder) (d : Declarations) :
    Prop :=
  List.Forall₂ (EntryOf a s dir tree) d.entries tree.inPlace

theorem map_fst_of_entries {es : List (ModuleId × Text)} {nss : List (List Text)}
    (h : List.Forall₂ (EntryOf a s dir tree) es nss) :
    es.map Prod.fst = nss.map (a.keyOf s dir) := by
  induction h with
  | nil => rfl
  | cons hentry hrest ih => rw [List.map_cons, List.map_cons, hentry.1, ih]

/-- Nothing is lost if and only if all files have different ids. -/
theorem lossless_iff_nodup {es : List (ModuleId × Text)}
    (h : List.Forall₂ (EntryOf a s dir tree) es tree.inPlace) :
    Lossless a s dir tree (.ofList es) ↔ (tree.inPlace.map (a.keyOf s dir)).Nodup := by
  constructor
  · -- Declarations never have an id twice, so the files of a lossless loading do not share one.
    intro hlossless
    rw [← map_fst_of_entries hlossless]
    exact (Declarations.ofList es).nodup
  · intro hnodup
    rw [← map_fst_of_entries h] at hnodup
    rwa [Lossless, Declarations.entries_ofList_of_nodup hnodup]

/-- Files have different ids if and only if they differ in more than their endings. -/
theorem InScratch.nodup_keys_iff {raw : Text} (h : InScratch a raw s tree)
    (htree : tree.OfDeclarations) (hfits : tree.FitsBelow (Path.parse raw)) :
    (tree.inPlace.map (a.keyOf s (Path.parse raw))).Nodup ↔ tree.OnePerModule := by
  have hshort {ns : List Text} (hfile : tree.hasFile ns = true) :
      ((Path.parse raw).descend ns).isTooLong = false := by
    obtain ⟨c, mode, hget⟩ := Folder.hasFile_iff.1 hfile
    exact hfits ns (by rw [hget]; exact Option.some_ne_none _)
  rw [List.nodup_map_iff_inj_on (Folder.nodup_inPlace h.wellFormed)]
  constructor
  · intro hinj front stem ext hext ext' hext' hfile hfile'
    refine eq_of_declarationEndingOf_eq (hinj _ ((Folder.mem_inPlace h.wellFormed).2 hfile) _
      ((Folder.mem_inPlace h.wellFormed).2 hfile') ?_)
    rw [h.keyOf_declaration (isExtension_of_mem hext) (htree _ hfile).1 (hshort hfile),
      h.keyOf_declaration (isExtension_of_mem hext') (htree _ hfile').1 (hshort hfile')]
  · intro hone ns hns ms hms heq
    have hfile := (Folder.mem_inPlace h.wellFormed).1 hns
    have hfile' := (Folder.mem_inPlace h.wellFormed).1 hms
    obtain ⟨hplain, -, front, stem, -, ext, hext, rfl⟩ := htree ns hfile
    obtain ⟨hplain', -, front', stem', -, ext', hext', rfl⟩ := htree ms hfile'
    obtain ⟨rfl, rfl⟩ := h.eq_of_keyOf_eq (isExtension_of_mem hext) (isExtension_of_mem hext')
      hplain hplain' (hshort hfile) (hshort hfile') heq
    rw [hone front stem ext hext ext' hext' hfile hfile']

/-- Loading a directory of declaration files gives declarations, and they hold the text of every
listed file, in order and under its own id, if and only if no two files differ in their endings
only. -/
theorem load_lossless_iff {raw : Text} {s' : Session} {files : List FoundFile}
    (h : InScratch a raw s tree)
    (hquiet : s.QuietBelow a.voice.host (Path.parse raw)) (htree : tree.OfDeclarations)
    (hlist : (a.listFiles (Path.parse raw)).outcome s = (.ok files, s')) :
    files.map FoundFile.path = tree.inPlace.map (Path.parse raw).descend ∧
      ∃ d t, (a.loadDeclarations (Path.parse raw)).outcome s = (.ok d, t) ∧
        (Lossless a s (Path.parse raw) tree d ↔ tree.OnePerModule) := by
  obtain ⟨hfits, hpaths, hfound⟩ := listed_of_quiet h.names h.dir hquiet hlist
  obtain ⟨texts, hreads, hplaces⟩ := exists_texts hfound fun ns hns =>
    (htree ns ((Folder.mem_inPlace h.wellFormed).1 hns)).2.1
  obtain ⟨t, hload⟩ := outcome_loadDeclarations hlist hreads
  refine ⟨hpaths, _, t, hload, ?_⟩
  have hentries : List.Forall₂ (EntryOf a s (Path.parse raw) tree)
      (texts.map fun e =>
        (a.namer.name (s.tree.isFileText (s.spot a.voice.host)) {} e.1.toText, e.2))
      tree.inPlace :=
    List.forall₂_map_left_iff.2 (hplaces.imp fun e ns he => ⟨by rw [he.1]; rfl, he.2⟩)
  exact (lossless_iff_nodup hentries).trans (h.nodup_keys_iff htree hfits)

end

/-- An aggregator for the package `demo` that loads the directory `s`. -/
def loader : Aggregator where
  voice := atRoot.voice
  namer := Namer.make ⟨.root, []⟩ (Text.ofString "demo") ⟨.root, []⟩ (Path.parse ['s']) none
  options := {}

theorem inScratch_loader {tree : Folder} (hnames : (holding tree).tree.WellFormed) :
    InScratch loader ['s'] (holding tree) tree :=
  ⟨rfl, rfl, hnames, rfl⟩

theorem quietBelow_loader (tree : Folder) :
    (holding tree).QuietBelow loader.voice.host (Path.parse ['s']) :=
  fun _ _ _ => Session.not_writes rfl _

/-- Two files side by side. -/
def pair (n m : Text) : Folder :=
  .file n ['1'.toUInt8] .data (.file m ['2'.toUInt8] .data .nil)

theorem places_pair {n m : Text} {ns : List Text} (hpair : (pair n m).WellFormed)
    (h : (pair n m).hasFile ns = true) : ns = [n] ∨ ns = [m] := by
  obtain ⟨c, mode, hget⟩ := Folder.hasFile_iff.1 h
  cases (holds_dir_iff hpair).2 hget with
  | dir hmem h =>
    rcases List.mem_cons.1 hmem with heq | hmem
    · cases heq
      cases h
      exact .inl rfl
    · cases List.mem_singleton.1 hmem
      cases h
      exact .inr rfl

/-- Two files that differ in their endings only. -/
def twins : Folder := pair (Text.ofString "a.d.mts") (Text.ofString "a.d.ts")

/-- Two files that differ in their stems and endings. -/
def neighbours : Folder := pair (Text.ofString "a.d.mts") (Text.ofString "b.d.ts")

theorem ofDeclarations_twins : twins.OfDeclarations := by
  intro ns hfile
  rcases places_pair (by decide) hfile with rfl | rfl
  · exact ⟨⟨⟨_, _, rfl, by decide⟩, by decide⟩, by decide, [], ['a'], by decide, ['m', 't', 's'],
      by decide, rfl⟩
  · exact ⟨⟨⟨_, _, rfl, by decide⟩, by decide⟩, by decide, [], ['a'], by decide, ['t', 's'],
      by decide, rfl⟩

theorem ofDeclarations_neighbours : neighbours.OfDeclarations := by
  intro ns hfile
  rcases places_pair (by decide) hfile with rfl | rfl
  · exact ⟨⟨⟨_, _, rfl, by decide⟩, by decide⟩, by decide, [], ['a'], by decide, ['m', 't', 's'],
      by decide, rfl⟩
  · exact ⟨⟨⟨_, _, rfl, by decide⟩, by decide⟩, by decide, [], ['b'], by decide, ['t', 's'],
      by decide, rfl⟩

theorem onePerModule_neighbours : neighbours.OnePerModule := by
  intro front stem ext hext ext' hext' hfile hfile'
  have hstem {e n : Text} (he : e ∈ declarationExtensions)
      (heq : front ++ [stem ++ declarationEndingOf e] = [n]) :
      dropDeclarationMark (dropExtension n) = stem := by
    have hlast : stem ++ declarationEndingOf e = n := by simpa using congrArg List.getLast? heq
    rw [← hlast, declarationEndingOf, ← List.append_assoc,
      dropExtension_append (isExtension_of_mem he), dropDeclarationMark_append]
  rcases places_pair (by decide) hfile with heq | heq
  · rcases places_pair (by decide) hfile' with heq' | heq'
    · exact eq_of_declarationEndingOf_eq (heq.trans heq'.symm)
    · exact absurd ((hstem hext heq).trans (hstem hext' heq').symm) (by decide)
  · rcases places_pair (by decide) hfile' with heq' | heq'
    · exact absurd ((hstem hext heq).trans (hstem hext' heq').symm) (by decide)
    · exact eq_of_declarationEndingOf_eq (heq.trans heq'.symm)

/-- Files with different stems are all kept. -/
theorem load_lossless_iff_neighbours :
    neighbours.OnePerModule ∧ ∃ files s' d t,
      (loader.listFiles (Path.parse ['s'])).outcome (holding neighbours) = (.ok files, s') ∧
      files.length = 2 ∧
      (loader.loadDeclarations (Path.parse ['s'])).outcome (holding neighbours) = (.ok d, t) ∧
      Lossless loader (holding neighbours) (Path.parse ['s']) neighbours d := by
  have hlist : ((loader.listFiles (Path.parse ['s'])).outcome (holding neighbours)).1 =
      .ok [⟨⟨.here, [['s'], Text.ofString "a.d.mts"]⟩, ['1'.toUInt8]⟩,
        ⟨⟨.here, [['s'], Text.ofString "b.d.ts"]⟩, ['2'.toUInt8]⟩] := by
    with_unfolding_all rfl
  obtain ⟨-, d, t, hload, hlossless⟩ := load_lossless_iff (inScratch_loader (by decide))
    (quietBelow_loader neighbours) ofDeclarations_neighbours (Prod.ext hlist rfl)
  exact ⟨onePerModule_neighbours, _, _, d, t, Prod.ext hlist rfl, rfl, hload,
    hlossless.2 onePerModule_neighbours⟩

/-- Twins have one id, and the text of the one that is listed first is lost. -/
theorem twins_lose_text :
    InScratch loader ['s'] (holding twins) twins ∧
    (holding twins).QuietBelow loader.voice.host (Path.parse ['s']) ∧ twins.OfDeclarations ∧
    ∃ files s' d t,
      (loader.listFiles (Path.parse ['s'])).outcome (holding twins) = (.ok files, s') ∧
      (files.map fun f => f.path.toText) = ["s/a.d.mts", "s/a.d.ts"].map Text.ofString ∧
      (loader.loadDeclarations (Path.parse ['s'])).outcome (holding twins) = (.ok d, t) ∧
      d.entries = [(Text.ofString "demo/a", ['2'])] := by
  have hlist : ((loader.listFiles (Path.parse ['s'])).outcome (holding twins)).1 =
      .ok [⟨⟨.here, [['s'], Text.ofString "a.d.mts"]⟩, ['1'.toUInt8]⟩,
        ⟨⟨.here, [['s'], Text.ofString "a.d.ts"]⟩, ['2'.toUInt8]⟩] := by
    with_unfolding_all rfl
  have hreads : List.Forall₂ Reads [⟨⟨.here, [['s'], Text.ofString "a.d.mts"]⟩, ['1'.toUInt8]⟩,
      ⟨⟨.here, [['s'], Text.ofString "a.d.ts"]⟩, ['2'.toUInt8]⟩]
      [(⟨.here, [['s'], Text.ofString "a.d.mts"]⟩, ['1']),
        (⟨.here, [['s'], Text.ofString "a.d.ts"]⟩, ['2'])] :=
    .cons ⟨rfl, by decide⟩ (.cons ⟨rfl, by decide⟩ .nil)
  obtain ⟨t, hload⟩ := outcome_loadDeclarations (Prod.ext hlist rfl) hreads
  exact ⟨inScratch_loader (by decide), quietBelow_loader twins, ofDeclarations_twins, _, _, _, t,
    Prod.ext hlist rfl, by decide, hload, by decide⟩

end Bundle.Aggregator
end AmbientBundle
