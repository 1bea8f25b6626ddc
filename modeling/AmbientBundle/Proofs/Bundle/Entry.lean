import AmbientBundle.Proofs.Loading
import AmbientBundle.Proofs.Reachability

/-!
# The entry module

The main module is named after the entry file of the package.  Its path starts in the package
directory, may take detours, and need not lead to anything.  A loaded module is named after a
declaration file in the scratch directory, which has another ending than the entry file has.

`mainModule_eq_keyOf` says that the two names are the same where they should be: if the entry file
is in the place in the package that the declaration file has in the scratch directory.  Both are
then the package and the names that lead to that place, and dots in these names are kept.
-/

namespace AmbientBundle

namespace Namer

variable {n : Namer} {root : Path}

/-- The way from the package directory to a place in it. -/
theorem relativeText_root (habs : n.cwd.isAbsolute = true) (hroot : n.root = Path.under n.cwd root)
    {p : Path} {ns : List Text} (hplace : (Path.under n.root p).parts = n.root.parts ++ ns) :
    n.relativeText .root (n.root.join p) = Path.partsText ns := by
  have hrootAbs : n.root.isAbsolute = true := by
    rw [hroot]
    exact Path.isAbsolute_join habs root
  have hbase : (Path.under n.cwd n.root).parts = n.root.parts := by
    rw [hroot, Path.under_under (Path.isAbsolute_join habs root)]
  have hthere : Path.under n.cwd (n.root.join p) = Path.under n.root p := by
    rw [Path.under, Path.join_of_isAbsolute (Path.isAbsolute_join hrootAbs p), Path.under]
  rw [relativeText, baseParts, hbase, hthere, hplace, Path.relativeParts_self_append]

end Namer

namespace Bundle

variable {n : Namer} {root : Path} {entry : Text} {front : List Text} {stem ext : Text}

/-- An entry file is named after the package and the names that lead to it. -/
theorem mainOf_eq (habs : n.cwd.isAbsolute = true) (hroot : n.root = Path.under n.cwd root)
    (hplace : (Path.under n.root (Path.parse entry)).parts =
      n.root.parts ++ (front ++ [stem ++ '.' :: ext]))
    (hslash : ∀ x ∈ front ++ [stem ++ '.' :: ext], '\\' ∉ x) (hext : IsExtension ext)
    (hne : stem ≠ []) (hline : '\n' ∉ stem) (hmark : ¬ ['.', 'd'] <:+ stem) :
    mainOf n entry = moduleId (slashed n.package) (front ++ [stem]) := by
  have hnames : front ++ [stem ++ '.' :: ext] ≠ [] :=
    List.append_ne_nil_of_right_ne_nil _ (List.cons_ne_nil _ _)
  have hfull : slashed (n.package ++ '/' ::
      n.relativeText .root (n.root.join (Path.parse entry))) =
      moduleId (slashed n.package) (front ++ [stem]) ++ '.' :: ext := by
    rw [Namer.relativeText_root habs hroot hplace, Path.partsText_of_ne_nil hnames,
      slashed_prefixed hnames hslash, moduleId_append]
  have hlast : moduleId (slashed n.package) (front ++ [stem]) =
      Text.joinWith '/' (Text.splitOn '/' (slashed n.package) ++ front) ++ '/' :: stem := by
    rw [moduleId, ← List.append_assoc, Text.joinWith_append ?_ (List.cons_ne_nil _ _)]
    · rfl
    · exact List.append_ne_nil_of_left_ne_nil (Text.splitOn_ne_nil _ _) _
  simp only [mainOf, Namer.nameOf, Bool.false_eq_true, if_false, Bool.not_false, Bool.and_true,
    if_true, hfull]
  rw [dropExtension_append hext, hlast, dropDeclarationMark_of_not_suffix hne hline hmark]

/-- An entry in the package is not the package itself. -/
theorem entry_ne_nil (habs : n.cwd.isAbsolute = true) (hroot : n.root = Path.under n.cwd root)
    {ns : List Text} (hne : ns ≠ [])
    (hplace : (Path.under n.root (Path.parse entry)).parts = n.root.parts ++ ns) : entry ≠ [] := by
  rintro rfl
  have hroot' : Path.under n.root (Path.parse []) = n.root := by
    have hjoin : n.root.join (Path.parse []) = n.root := n.root.descend_nil
    rw [Path.under, hjoin, hroot, Path.normal_under habs]
  rw [hroot', List.self_eq_append_right] at hplace
  exact hne hplace

namespace Aggregator

/-- The main module of a package is the module that was loaded from the declaration file in the
place of the entry file, and its id is the package and the names that lead to that place.  The ids
of declaration files in different places are different. -/
theorem mainModule_eq_keyOf {a : Aggregator} {raw : Text} {s : Session} {tree : Folder}
    (h : InScratch a raw s tree) (hroot : a.namer.root = Path.under a.namer.cwd root)
    (hpackage : '\\' ∉ a.namer.package)
    (hfile : tree.PlainFile (front ++ [stem ++ declarationEnding])) (hne : stem ≠ [])
    (hline : '\n' ∉ stem) (hmark : ¬ ['.', 'd'] <:+ stem) (hext : IsExtension ext)
    (hback : '\\' ∉ ext) (hentry : a.options.entry = .text entry)
    (hplace : (Path.under a.namer.root (Path.parse entry)).parts =
      a.namer.root.parts ++ (front ++ [stem ++ '.' :: ext])) :
    a.mainModule.outcome s =
      (.ok (a.namer.package ++ '/' :: Text.joinWith '/' (front ++ [stem])), s) ∧
    ∀ d s', (a.loadDeclarations (Path.parse raw)).outcome s = (.ok d, s') →
      a.keyOf s (Path.parse raw) (front ++ [stem ++ declarationEnding]) =
        a.namer.package ++ '/' :: Text.joinWith '/' (front ++ [stem]) ∧
      a.keyOf s (Path.parse raw) (front ++ [stem ++ declarationEnding]) ∈ d.ids ∧
      ∀ front₁ stem₁ front₂ stem₂,
        tree.PlainFile (front₁ ++ [stem₁ ++ declarationEnding]) →
        tree.PlainFile (front₂ ++ [stem₂ ++ declarationEnding]) →
        a.keyOf s (Path.parse raw) (front₁ ++ [stem₁ ++ declarationEnding]) =
          a.keyOf s (Path.parse raw) (front₂ ++ [stem₂ ++ declarationEnding]) →
        front₁ = front₂ ∧ stem₁ = stem₂ := by
  have hid : moduleId (slashed a.namer.package) (front ++ [stem]) =
      a.namer.package ++ '/' :: Text.joinWith '/' (front ++ [stem]) := by
    rw [slashed_of_no_backslash hpackage,
      moduleId_eq (List.append_ne_nil_of_right_ne_nil _ (List.cons_ne_nil _ _))]
  have hslash : ∀ x ∈ front ++ [stem ++ '.' :: ext], '\\' ∉ x := by
    intro x hx
    rcases List.mem_append.1 hx with hx | hx
    · exact hfile.no_backslash x (List.mem_append_left _ hx)
    · rw [List.mem_singleton.1 hx, List.mem_append, List.mem_cons]
      have hstem := hfile.no_backslash (stem ++ declarationEnding) (by simp)
      rintro (hmem | hdot | hmem)
      · exact hstem (List.mem_append_left _ hmem)
      · exact absurd hdot (by decide)
      · exact hback hmem
  refine ⟨?_, fun d s' hload => ?_⟩
  · have hgiven : (Value.text entry).holds = true := by
      have hsome := entry_ne_nil h.cwd hroot
        (List.append_ne_nil_of_right_ne_nil front (List.cons_ne_nil _ _)) hplace
      simpa [Value.holds] using hsome
    rw [← hid, ← mainOf_eq h.cwd hroot hplace hslash hext hne hline hmark, mainModule, hentry,
      hgiven]
    rfl
  · have hshort {ns : List Text} (hns : tree.PlainFile ns) :
        ((Path.parse raw).descend ns).isTooLong = false :=
      isTooLong_of_load h.names h.dir hload hns.hasFile
    refine ⟨?_, ?_, fun front₁ stem₁ front₂ stem₂ hfile₁ hfile₂ heq => ?_⟩
    · rw [← hid]
      exact h.keyOf_declaration (by decide) hfile (hshort hfile)
    · exact (mem_ids_of_load h.names h.dir hload _).2 ⟨_, hfile.hasFile, rfl⟩
    · exact h.eq_of_keyOf_eq (by decide) (by decide) hfile₁ hfile₂ (hshort hfile₁) (hshort hfile₂)
        heq

/-- An aggregator for a package in the directory `pkg`, with an entry that takes detours and has
dots in its names. -/
def dotted : Aggregator where
  voice := atRoot.voice
  namer := Namer.make ⟨.root, []⟩ (Text.ofString "@x/p.js") (Path.parse (Text.ofString "pkg"))
    (Path.parse (Text.ofString "out")) none
  options := { entry := .text (Text.ofString "./lib/../v1.2/a.b.tsx") }

/-- Two declaration files, one of them in the place of the entry. -/
def dottedTree : Folder :=
  .file (Text.ofString "a.b.d.ts") [] .data
    (.dir (Text.ofString "v1.2") (.file (Text.ofString "a.b.d.ts") [] .data .nil) .nil)

/-- A session in which they are in the directory `out`. -/
def dottedSession : Session := { tree := .dir (Text.ofString "out") dottedTree .nil }

/-- The declarations of the two files. -/
def dottedDeclarations : Declarations where
  entries := [(Text.ofString "@x/p.js/a.b", []), (Text.ofString "@x/p.js/v1.2/a.b", [])]

/-- The main module is the one in the directory. -/
theorem mainModule_eq_keyOf_dotted :
    InScratch dotted (Text.ofString "out") dottedSession dottedTree ∧
    dottedTree.PlainFile [Text.ofString "v1.2", Text.ofString "a.b.d.ts"] ∧
    dotted.mainModule.outcome dottedSession =
      (.ok (Text.ofString "@x/p.js/v1.2/a.b"), dottedSession) ∧
    ((dotted.loadDeclarations (Path.parse (Text.ofString "out"))).outcome dottedSession).1 =
      .ok dottedDeclarations ∧
    dotted.keyOf dottedSession (Path.parse (Text.ofString "out"))
      [Text.ofString "v1.2", Text.ofString "a.b.d.ts"] = Text.ofString "@x/p.js/v1.2/a.b" := by
  have hscratch : InScratch dotted (Text.ofString "out") dottedSession dottedTree :=
    ⟨rfl, rfl, by decide, rfl⟩
  have hroot : dotted.namer.root =
      Path.under dotted.namer.cwd (Path.parse (Text.ofString "pkg")) := rfl
  have hfile : dottedTree.PlainFile
      ([Text.ofString "v1.2"] ++ [Text.ofString "a.b" ++ declarationEnding]) :=
    ⟨⟨_, _, rfl, by decide⟩, by decide⟩
  have hplace : (Path.under dotted.namer.root
      (Path.parse (Text.ofString "./lib/../v1.2/a.b.tsx"))).parts =
      dotted.namer.root.parts ++
        ([Text.ofString "v1.2"] ++ [Text.ofString "a.b" ++ '.' :: Text.ofString "tsx"]) := by
    decide
  have hload : ((dotted.loadDeclarations (Path.parse (Text.ofString "out"))).outcome
      dottedSession).1 = .ok dottedDeclarations := by with_unfolding_all rfl
  obtain ⟨hmain, hloaded⟩ := mainModule_eq_keyOf hscratch hroot (by decide) hfile (by decide)
    (by decide) (by decide) (by decide) (by decide) rfl hplace
  exact ⟨hscratch, hfile, hmain, hload, (hloaded _ _ (Prod.ext hload rfl)).1⟩

end Aggregator
end Bundle
end AmbientBundle
