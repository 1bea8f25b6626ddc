import AmbientBundle.Proofs.FileTree.Order
import AmbientBundle.Proofs.Loading
import AmbientBundle.Proofs.Reachability

/-!
# Listed files

A directory is listed in place: its files come in the order of the names that lead to them, each of
them once, in whatever order the file system enumerates its entries (`listFiles_inPlace`).  Before
the listing there is a report, which may make a log file longer; since the listing depends on the
shape of the tree only, this makes no difference to it.

Only a path with too many bytes keeps a directory from being listed.  The number of bytes depends on
the way that is taken to the directory, so that it may be listed on one way and not on another one
(`longWay_not_listed`).
-/

namespace AmbientBundle
namespace Bundle.Aggregator

/-- What is recorded where a directory cannot be listed. -/
def listingFailure (v : Voice) (e : OsFault) : List Record :=
  [⟨Level.verbose, v.part, "Loading list of generated typing files..."⟩,
    ⟨Level.error, v.part, "Failed to load list of generated typing files..."⟩,
    ⟨Level.debug, v.part, "Error: " ++ e.message⟩]

/-- The files are listed in the tree as it is after a report, and nothing but reports follow. -/
theorem outcome_listFiles (a : Aggregator) {dir : Path}
    (hclean : dir.fault? a.voice.host.halves = none) (s : Session) :
    ∃ t s', s.Reported t ∧ t.Reported s' ∧ (a.listFiles dir).outcome s =
        ((Listing.files t.tree (s.spot a.voice.host) dir).mapError Fault.os, s') ∧
      ∀ e, Listing.files t.tree (s.spot a.voice.host) dir = .error e →
        s'.journal.records = s.journal.records ++ listingFailure a.voice e := by
  have hcheck (u : Session) : (Action.checkPath a.voice.host dir).outcome u = (.ok (), u) := by
    rw [Action.checkPath, hclean]
    rfl
  rw [listFiles]
  obtain ⟨t, hsay, hst⟩ := a.voice.outcome_say Level.verbose
    "Loading list of generated typing files..." s
  refine ⟨t, ?_⟩
  rw [Voice.verbose, Action.outcome_bind_ok hsay, Action.outcome_bind_ok (hcheck t),
    Action.outcome_bind_ok (Action.outcome_get t), hst.spot]
  cases Listing.files t.tree (s.spot a.voice.host) dir with
  | error e =>
    obtain ⟨u, herror, htu⟩ := a.voice.outcome_say Level.error
      "Failed to load list of generated typing files..." t
    obtain ⟨s', hdebug, hus'⟩ := a.voice.outcome_say Level.debug ("Error: " ++ e.message) u
    refine ⟨s', hst, htu.trans hus', ?_, ?_⟩
    · simp only [Voice.error, Voice.debug]
      rw [Action.outcome_bind_ok herror, Action.outcome_bind_ok hdebug]
      rfl
    · rintro e' he'
      cases he'
      rw [Voice.records_say hdebug, Voice.records_say herror, Voice.records_say hsay]
      simp only [List.append_assoc, List.cons_append, List.nil_append, listingFailure]
  | ok files =>
    obtain ⟨s', hverbose, hts'⟩ := a.voice.outcome_say Level.verbose
      "Successfully loaded list of generated typing files!" t
    refine ⟨s', hst, hts', ?_, fun e he => ?_⟩
    · simp only [Voice.verbose]
      rw [Action.outcome_bind_ok hverbose]
      rfl
    · cases he

/-- A directory is listed in place, if no path below it is too long. -/
theorem listFiles_cases (a : Aggregator) {dir : Path}
    (hclean : dir.fault? a.voice.host.halves = none) {s : Session} {tree : Folder}
    (hnames : s.tree.WellFormed)
    (hdir : s.tree.readDir (s.spot a.voice.host) dir = .ok tree) :
    (tree.FitsBelow dir ∧ ∃ files s', (a.listFiles dir).outcome s = (.ok files, s') ∧
      files.map FoundFile.path = tree.inPlace.map dir.descend) ∨
    ¬ tree.FitsBelow dir ∧
      ∃ e s', (a.listFiles dir).outcome s = (.error (.os e), s') ∧ e.errno = .nameTooLong ∧
        s'.journal.records = s.journal.records ++ listingFailure a.voice e := by
  obtain ⟨t, s', hst, -, hrun, hrecords⟩ := outcome_listFiles a hclean s
  -- The report may have made a log file longer, which changes neither names nor order.
  obtain ⟨tree', hdir', hshape⟩ := Folder.readDir_congr hst.shape hdir
  have htree := hnames.of_readDir hdir
  have htree' := (hst.names hnames).of_readDir hdir'
  rw [hshape.fitsBelow_iff, Folder.inPlace_congr htree htree' hshape]
  rcases Listing.files_cases htree' hdir' with ⟨hfits, files, hfiles, hpaths⟩ |
    ⟨hlong, e, hfiles, hwhy⟩
  · rw [hfiles] at hrun
    exact .inl ⟨hfits, files, s', hrun, hpaths⟩
  · rw [hfiles] at hrun
    exact .inr ⟨hlong, e, s', hrun, hwhy, hrecords e hfiles⟩

/-- A directory is listed in place among its sorted siblings: every file below it once, in strictly
increasing order, and no directory.  This does not depend on the order in which directories are
enumerated.  The one exception is a tree that has a path with too many bytes; it is not listed, and
this is the reason that is recorded and given. -/
theorem listFiles_inPlace (a : Aggregator) {dir : Path}
    (hclean : dir.fault? a.voice.host.halves = none) {s : Session} {tree : Folder}
    (hnames : s.tree.WellFormed)
    (hdir : s.tree.readDir (s.spot a.voice.host) dir = .ok tree) :
    (tree.FitsBelow dir →
      ∃ files s', (a.listFiles dir).outcome s = (.ok files, s') ∧
        files.map FoundFile.path = tree.inPlace.map dir.descend ∧
        tree.inPlace.Pairwise Listing.Precedes ∧
        (∀ ns, ns ∈ tree.inPlace ↔ tree.hasFile ns = true) ∧
        ∀ t other, t.tree.WellFormed → t.tree.readDir (t.spot a.voice.host) dir = .ok other →
          tree.SameShape other → ∃ files' t', (a.listFiles dir).outcome t = (.ok files', t') ∧
            files'.map FoundFile.path = files.map FoundFile.path) ∧
    (¬ tree.FitsBelow dir →
      ∃ e s', (a.listFiles dir).outcome s = (.error (.os e), s') ∧ e.errno = .nameTooLong ∧
        s'.journal.records = s.journal.records ++ listingFailure a.voice e) := by
  have htree := hnames.of_readDir hdir
  constructor
  · intro hfits
    rcases listFiles_cases a hclean hnames hdir with ⟨-, files, s', hrun, hpaths⟩ | ⟨hlong, -⟩
    · refine ⟨files, s', hrun, hpaths, Folder.pairwise_inPlace htree,
        fun ns => Folder.mem_inPlace htree, fun t other hnames' hdir' hshape => ?_⟩
      rcases listFiles_cases a hclean hnames' hdir' with ⟨-, files', t', hrun', hpaths'⟩ |
        ⟨hlong, -⟩
      · refine ⟨files', t', hrun', ?_⟩
        rw [hpaths', hpaths, Folder.inPlace_congr htree (hnames'.of_readDir hdir') hshape]
      · exact absurd ((hshape.fitsBelow_iff dir).1 hfits) hlong
    · exact absurd hfits hlong
  · intro hlong
    rcases listFiles_cases a hclean hnames hdir with ⟨hfits, -⟩ | ⟨-, herror⟩
    · exact absurd hfits hlong
    · exact herror

/-- A session in which something is in the directory `s`. -/
def holding (f : Folder) : Session := { tree := .dir ['s'] f .nil }

/-- Names of which one begins another, and an empty directory. -/
def siblings : Folder :=
  .file (Text.ofString "a.b") [] .data
    (.dir (Text.ofString "a-b") (.file ['x'] [] .data .nil)
      (.dir ['e'] .nil
        (.dir ['a'] (.file ['z'] [] .data (.dir ['b'] (.file ['y'] [] .data .nil) .nil)) .nil)))

/-- The same names as they may be enumerated elsewhere. -/
def siblingsElsewhere : Folder :=
  .dir ['a'] (.dir ['b'] (.file ['y'] [] .data .nil) (.file ['z'] [] .data .nil))
    (.dir (Text.ofString "a-b") (.file ['x'] [] .data .nil)
      (.file (Text.ofString "a.b") [] .data (.dir ['e'] .nil .nil)))

theorem sameShape_siblings : siblings.SameShape siblingsElsewhere := by
  have hinner : (Folder.file ['z'] [] .data (.dir ['b'] (.file ['y'] [] .data .nil) .nil)).SameShape
      (.dir ['b'] (.file ['y'] [] .data .nil) (.file ['z'] [] .data .nil)) := by
    rintro (_ | ⟨n, ns⟩)
    · rfl
    · by_cases hz : ['z'] = n
      · subst hz
        rfl
      · simp only [Folder.get?, Folder.find?, if_neg hz]
  rintro (_ | ⟨n, ns⟩)
  · rfl
  · simp only [siblings, siblingsElsewhere, Folder.get?, Folder.find?]
    by_cases ha : ['a'] = n
    · subst ha
      exact hinner ns
    · by_cases hb : Text.ofString "a.b" = n
      · subst hb
        rfl
      · simp only [if_neg ha, if_neg hb]

/-- The names come in order in both directories.  As texts, `s/a-b/x` would come first. -/
theorem listFiles_inPlace_siblings :
    siblings.FitsBelow ⟨.here, [['s']]⟩ ∧
    ∃ files s' files' t',
      (atRoot.listFiles ⟨.here, [['s']]⟩).outcome (holding siblings) = (.ok files, s') ∧
      (files.map fun f => f.path.toText) =
        ["s/a/b/y", "s/a/z", "s/a-b/x", "s/a.b"].map Text.ofString ∧
      (atRoot.listFiles ⟨.here, [['s']]⟩).outcome (holding siblingsElsewhere) =
        (.ok files', t') ∧
      files'.map FoundFile.path = files.map FoundFile.path := by
  have hnames : (holding siblings).tree.WellFormed := by decide
  have hdir : (holding siblings).tree.readDir ((holding siblings).spot atRoot.voice.host)
      ⟨.here, [['s']]⟩ = .ok siblings := by decide
  have hfiles : Listing.files (holding siblings).tree
      ((holding siblings).spot atRoot.voice.host) ⟨.here, [['s']]⟩ =
      .ok [⟨⟨.here, [['s'], ['a'], ['b'], ['y']]⟩, []⟩, ⟨⟨.here, [['s'], ['a'], ['z']]⟩, []⟩,
        ⟨⟨.here, [['s'], Text.ofString "a-b", ['x']]⟩, []⟩,
        ⟨⟨.here, [['s'], Text.ofString "a.b"]⟩, []⟩] := by
    with_unfolding_all rfl
  rcases Listing.files_cases (hnames.of_readDir hdir) hdir with
    ⟨hfits, found, hfound, hpaths⟩ | ⟨-, e, herror, -⟩
  · rw [hfiles] at hfound
    cases hfound
    obtain ⟨files, s', hrun, hlisted, -, -, hother⟩ :=
      (listFiles_inPlace atRoot (by decide) hnames hdir).1 hfits
    obtain ⟨files', t', hrun', hsame⟩ := hother (holding siblingsElsewhere) siblingsElsewhere
      (by decide) (by decide) sameShape_siblings
    refine ⟨hfits, files, s', files', t', hrun, ?_, hrun', hsame⟩
    have htexts := congrArg (List.map Path.toText) (hlisted.trans hpaths.symm)
    rw [List.map_map] at htexts
    exact htexts
  · rw [hfiles] at herror
    cases herror

/-- A way to the directory `s` that goes in and out of it many times. -/
def longWay : Path := ⟨.here, ['s'] :: (List.replicate 818 [upPart, ['s']]).flatten⟩

/-- A directory with one file. -/
def oneFile : Folder := .file (Text.ofString "a.d.ts") [] .data .nil

/-- On the long way the path of the directory has few enough bytes, and that of its one file has too
many.  So the directory is there, and yet it is not listed. -/
theorem longWay_not_listed :
    (holding oneFile).tree.WellFormed ∧
    (holding oneFile).tree.readDir ((holding oneFile).spot atRoot.voice.host) longWay =
      .ok oneFile ∧
    ∃ e s', (atRoot.listFiles longWay).outcome (holding oneFile) = (.error (.os e), s') ∧
      e.errno = .nameTooLong := by
  have hnames : (holding oneFile).tree.WellFormed := by decide
  have hdir : (holding oneFile).tree.readDir ((holding oneFile).spot atRoot.voice.host) longWay =
      .ok oneFile := by decide +kernel
  refine ⟨hnames, hdir, ?_⟩
  rcases listFiles_cases atRoot (by decide +kernel) hnames hdir with ⟨hfits, -⟩ |
    ⟨-, e, s', hrun, hwhy, -⟩
  · have hshort := hfits [Text.ofString "a.d.ts"] (by decide)
    exact absurd hshort (by decide +kernel)
  · exact ⟨e, s', hrun, hwhy⟩

end Bundle.Aggregator
end AmbientBundle
