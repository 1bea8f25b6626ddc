import AmbientBundle.Proofs.Import.Target
import AmbientBundle.Proofs.Loading

/-!
# Keys and targets

A module has its id from two sides.  As a file it is named by the way that leads to it
from the scratch directory; as the target of a specifier it is named by the way that leads
to it from the working directory, through the id of the owner.  Neither way is a part of
the other, but both are normal forms of the same names below the package: `keyOf_eq` and
`locate_moduleId` bring both sides to a `moduleId`, and `target_eq_keyOf` says that they
meet.
-/

namespace AmbientBundle

/-! ## Texts of files -/

/-- The names of the file whose path is written like another path with an ending. -/
def Path.withEnding (p : Path) (ending : Text) : List Text :=
  (Path.parse (p.toText ++ ending)).parts

/-- The text after a directory for the module that stands for it. -/
def indexFile : Text := Import.indexSuffix ++ declarationEnding

section

variable {ps front : List Text} {last : Text}

theorem proper_append_ending (h : Path.Proper last) : Path.Proper (last ++ declarationEnding) := by
  obtain ⟨hpart, hslash⟩ := h
  refine ⟨?_, ?_⟩
  · cases last with
    | nil => rfl
    | cons c t => simp [Path.isPart, herePart, declarationEnding]
  · intro hmem
    rcases List.mem_append.1 hmem with hmem | hmem
    · exact hslash hmem
    · exact absurd hmem (by decide)

/-- The ending of declaration files goes to the last name. -/
theorem withEnding_declaration (h : ∀ x ∈ front ++ [last], Path.Proper x) :
    Path.withEnding ⟨.here, front ++ [last]⟩ declarationEnding =
      front ++ [last ++ declarationEnding] := by
  have htext : Path.toText ⟨.here, front ++ [last]⟩ = Text.joinWith '/' (front ++ [last]) :=
    Path.partsText_of_ne_nil (List.append_ne_nil_of_right_ne_nil _ (List.cons_ne_nil _ _))
  rw [Path.withEnding, htext, ← Text.joinWith_concat_append, Path.parse_joinWith]
  · exact List.append_ne_nil_of_right_ne_nil _ (List.cons_ne_nil _ _)
  · intro x hx
    rcases List.mem_append.1 hx with hx | hx
    · exact h x (List.mem_append_left _ hx)
    · rw [List.mem_singleton.1 hx]
      exact proper_append_ending (h last (by simp))

/-- The module that stands for a directory is a file in that directory. -/
theorem withEnding_index (h : ∀ x ∈ ps, Path.Proper x) :
    Path.withEnding ⟨.here, ps⟩ indexFile =
      ps ++ [['i', 'n', 'd', 'e', 'x'] ++ declarationEnding] := by
  by_cases hne : ps = []
  · subst hne
    decide
  · have htext : Path.toText ⟨.here, ps⟩ ++ indexFile =
        Text.joinWith '/' (ps ++ [['i', 'n', 'd', 'e', 'x'] ++ declarationEnding]) := by
      change Path.partsText ps ++ _ = _
      rw [Text.joinWith_append hne (List.cons_ne_nil _ _), Path.partsText_of_ne_nil hne]
      rfl
    rw [Path.withEnding, htext, Path.parse_joinWith]
    · exact List.append_ne_nil_of_left_ne_nil hne _
    · intro x hx
      rcases List.mem_append.1 hx with hx | hx
      · exact h x hx
      · rw [List.mem_singleton.1 hx]
        exact ⟨by decide, by decide⟩

end

/-! ## The side of the specifier -/

namespace Import

/-- Where a specifier leads from the directory of a file, given the names of the file. -/
def besideFile (ns : List Text) (w : Text) : Path :=
  ((⟨.here, ns.dropLast⟩ : Path).join (Path.parse w)).normal

theorem besideFile_concat {front : List Text} {last w : Text} (hw : isRelative w = true) :
    besideFile (front ++ [last]) w =
      ⟨.here, Path.normalParts false (front ++ (Path.parse w).parts)⟩ := by
  rw [besideFile, List.dropLast_concat, Path.join_of_here (anchor_parse_of_relative hw)]
  rfl

/-- A specifier of a module leads where it leads from the file of the module. -/
theorem locate_moduleId {r : Resolver} {package w : Text} {front : List Text} {stem : Text}
    (habs : r.ground.isAbsolute = true) (hpkg : IsPackage package)
    (hpieces : ∀ x ∈ front ++ [stem], IsPiece x) (hw : isRelative w = true) (hback : '\\' ∉ w)
    (hin : upPart ∉ Path.normalParts false (front ++ (Path.parse w).parts)) :
    r.locate w (moduleId package (front ++ [stem])) =
      moduleId package (Path.normalParts false (front ++ (Path.parse w).parts)) := by
  have hparse : Path.parse (moduleId package (front ++ [stem])) =
      ⟨.here, Text.splitOn '/' package ++ (front ++ [stem])⟩ := parse_moduleId hpkg hpieces
  have hstem : stem ≠ upPart := (hpieces stem (by simp)).not_up
  -- The `..` after the owner takes back its last name and nothing of the package.
  have hsteps : Path.normalParts false (steps (moduleId package (front ++ [stem])) w) =
      Text.splitOn '/' package ++ Path.normalParts false (front ++ (Path.parse w).parts) := by
    rw [steps, hparse, ← List.append_assoc, Path.normalParts_step_back hstem,
      List.append_assoc, Path.normalParts_append hin, Path.normalParts_of_no_up hpkg.no_up]
  have hup : upPart ∉ Path.normalParts false (steps (moduleId package (front ++ [stem])) w) := by
    rw [hsteps, List.mem_append]
    exact not_or_intro hpkg.no_up hin
  have howner : (Path.parse (moduleId package (front ++ [stem]))).anchor = .here := by rw [hparse]
  have htext : (besideOwner (moduleId package (front ++ [stem])) w).toText =
      moduleId package (Path.normalParts false (front ++ (Path.parse w).parts)) := by
    rw [besideOwner_eq (anchor_parse_of_relative hw) howner, hsteps]
    exact Path.partsText_of_ne_nil
      (List.append_ne_nil_of_left_ne_nil (Text.splitOn_ne_nil _ _) _)
  rw [Resolver.locate_eq_of_inside habs (anchor_parse_of_relative hw) howner hup, htext,
    slashed_moduleId hpkg]
  intro x hx hmem
  rcases List.mem_append.1 (Path.mem_of_mem_normalParts hx) with hx | hx
  · exact (hpieces x (List.mem_append_left _ hx)).no_backslash hmem
  · exact hback (Path.mem_of_mem_parse hx hmem)

end Import

/-! ## Both sides -/

namespace Bundle.Aggregator

open Import

namespace Loaded

variable {a : Aggregator} {raw : Text} {s : Session} {tree : Folder} {d : Declarations}

/-- A file that is written like a path with the ending is loaded under the id of that path. -/
theorem keyOf_withEnding (h : Loaded a raw s tree d) {ps : List Text}
    (hps : ∀ x ∈ ps, Path.Proper x)
    (hfile : tree.hasFile (Path.withEnding ⟨.here, ps⟩ declarationEnding) = true) :
    a.keyOf s (Path.parse raw) (Path.withEnding ⟨.here, ps⟩ declarationEnding) =
      moduleId a.namer.package ps := by
  rcases List.eq_nil_or_concat ps with rfl | ⟨front, last, rfl⟩
  · -- The file would be the ending with a dot in front, and its stem leads nowhere.
    obtain ⟨front, stem, heq, hpieces⟩ := h.emitted.module h.wellFormed hfile
    have hdot : Path.withEnding ⟨.here, []⟩ declarationEnding =
        [] ++ [herePart ++ declarationEnding] := by decide
    rw [hdot] at heq
    have hlast := List.singleton_inj.1 (List.append_inj' heq rfl).2
    have hhere : stem = herePart := (List.append_cancel_right hlast).symm
    exact absurd (hhere ▸ (hpieces stem (by simp)).proper.1) (by decide)
  · rw [List.concat_eq_append] at hps hfile ⊢
    rw [withEnding_declaration hps] at hfile ⊢
    exact h.keyOf_eq hfile

/-- The id of a module is loaded exactly if its file is there. -/
theorem moduleId_mem_ids (h : Loaded a raw s tree d) {ps : List Text}
    (hps : ∀ x ∈ ps, Path.Proper x) :
    moduleId a.namer.package ps ∈ d.ids ↔
      tree.hasFile (Path.withEnding ⟨.here, ps⟩ declarationEnding) = true := by
  rw [h.mem_ids_iff]
  constructor
  · rintro ⟨ns, hfile, heq⟩
    obtain ⟨front, stem, rfl, hpieces⟩ := h.emitted.module h.wellFormed hfile
    rw [h.keyOf_eq hfile] at heq
    have hnames : ps = front ++ [stem] :=
      moduleId_inj (fun x hx => (hps x hx).2) (fun x hx => (hpieces x hx).proper.2) heq
    subst hnames
    rw [withEnding_declaration hps]
    exact hfile
  · intro hfile
    exact ⟨_, hfile, (h.keyOf_withEnding hps hfile).symm⟩

/-- The module that stands for a directory has the id of the directory and a name. -/
theorem keyOf_index (h : Loaded a raw s tree d) {ps : List Text}
    (hps : ∀ x ∈ ps, Path.Proper x)
    (hfile : tree.hasFile (Path.withEnding ⟨.here, ps⟩ indexFile) = true) :
    a.keyOf s (Path.parse raw) (Path.withEnding ⟨.here, ps⟩ indexFile) =
      moduleId a.namer.package ps ++ indexSuffix := by
  rw [withEnding_index hps] at hfile ⊢
  rw [h.keyOf_eq hfile, moduleId, moduleId, ← List.append_assoc, Text.joinWith_append]
  · rfl
  · exact List.append_ne_nil_of_left_ne_nil (Text.splitOn_ne_nil _ _) _
  · exact List.cons_ne_nil _ _

end Loaded

/-- A relative specifier of a file becomes the key of the file it leads to, or else of the module
that stands for the directory it leads to; and a key belongs to one file only. -/
theorem target_eq_keyOf {a : Aggregator} {raw : Text} {s : Session} {tree : Folder}
    {d : Declarations} (h : Loaded a raw s tree d) {owner : List Text} {w : Text}
    (howner : tree.hasFile owner = true) (hw : isRelative w = true) (hback : '\\' ∉ w)
    (hin : (besideFile owner w).parts.head? ≠ some upPart) :
    (tree.hasFile ((besideFile owner w).withEnding declarationEnding) = true →
      (resolver a.namer d).target w (a.keyOf s (Path.parse raw) owner) =
        a.keyOf s (Path.parse raw) ((besideFile owner w).withEnding declarationEnding) ∧
      (resolver a.namer d).target w (a.keyOf s (Path.parse raw) owner) ∈ d.ids) ∧
    (tree.hasFile ((besideFile owner w).withEnding declarationEnding) = false →
      tree.hasFile ((besideFile owner w).withEnding indexFile) = true →
      (resolver a.namer d).target w (a.keyOf s (Path.parse raw) owner) =
        a.keyOf s (Path.parse raw) ((besideFile owner w).withEnding indexFile) ∧
      (resolver a.namer d).target w (a.keyOf s (Path.parse raw) owner) ∈ d.ids) ∧
    ∀ ns ms, tree.hasFile ns = true → tree.hasFile ms = true →
      a.keyOf s (Path.parse raw) ns = a.keyOf s (Path.parse raw) ms → ns = ms := by
  obtain ⟨front, stem, rfl, hpieces⟩ := h.emitted.module h.wellFormed howner
  have hground : (resolver a.namer d).ground.isAbsolute = true := Path.isAbsolute_join h.cwd _
  rw [besideFile_concat hw] at hin ⊢
  have hup : upPart ∉ Path.normalParts false (front ++ (Path.parse w).parts) :=
    fun hmem => hin (Path.head?_normalParts_of_up_mem hmem)
  have hproper : ∀ x ∈ Path.normalParts false (front ++ (Path.parse w).parts), Path.Proper x := by
    intro x hx
    rcases List.mem_append.1 (Path.mem_of_mem_normalParts hx) with hx | hx
    · exact (hpieces x (List.mem_append_left _ hx)).proper
    · exact Path.proper_of_mem_parse hx
  have hlocate := locate_moduleId hground h.package hpieces hw hback hup
  rw [← h.keyOf_eq howner] at hlocate
  generalize Path.normalParts false (front ++ (Path.parse w).parts) = ps at hproper hlocate ⊢
  have htarget : (resolver a.namer d).target w
      (a.keyOf s (Path.parse raw) (front ++ [stem ++ declarationEnding])) =
      if moduleId a.namer.package ps ∈ d.ids then moduleId a.namer.package ps
      else moduleId a.namer.package ps ++ indexSuffix := by
    rw [Resolver.target, hlocate]
    simp only [resolver, List.contains_iff_mem]
  have hknown := h.moduleId_mem_ids hproper
  rw [htarget]
  refine ⟨fun hfile => ?_, fun hno hindex => ?_, fun ns ms hns hms => h.keyOf_inj hns hms⟩
  · have hmem := hknown.2 hfile
    rw [if_pos hmem]
    exact ⟨(h.keyOf_withEnding hproper hfile).symm, hmem⟩
  · have hnot : moduleId a.namer.package ps ∉ d.ids := by
      rw [hknown, hno]
      exact Bool.false_ne_true
    have hkey := h.keyOf_index hproper hindex
    rw [if_neg hnot]
    exact ⟨hkey.symm, h.mem_ids_iff.2 ⟨_, hindex, hkey.symm⟩⟩

/-- Four files that a compiler wrote, of which two could be meant by `../b` in the second
directory. -/
def emittedTree : Folder :=
  .file (Text.ofString "b.d.ts") [] .data
    (.dir (Text.ofString "b") (.file (Text.ofString "index.d.ts") [] .data .nil)
      (.dir (Text.ofString "lib")
        (.file (Text.ofString "index.d.ts") [] .data
          (.file (Text.ofString "use.d.ts") [] .data .nil)) .nil))

/-- A session in which these files are in the directory `out`. -/
def emittedSession : Session := { tree := .dir (Text.ofString "out") emittedTree .nil }

/-- An aggregator for a package with a scope. -/
def inScope : Aggregator where
  voice := ⟨{ cwd := ⟨.root, []⟩, home := ⟨.root, []⟩, tool := ⟨.root, []⟩,
              temporary := ⟨.root, []⟩ }, toolName⟩
  namer := Namer.make ⟨.root, []⟩ (Text.ofString "@x/p") ⟨.root, []⟩
    (Path.parse (Text.ofString "out")) none
  options := {}

/-- The declarations of the four files. -/
def emittedDeclarations : Declarations where
  entries :=
    [(Text.ofString "@x/p/b/index", []), (Text.ofString "@x/p/b", []),
      (Text.ofString "@x/p/lib/index", []), (Text.ofString "@x/p/lib/use", [])]

theorem loaded_emittedTree :
    Loaded inScope (Text.ofString "out") emittedSession emittedTree emittedDeclarations where
  cwd := rfl
  scratch := rfl
  package := by decide
  names := by decide
  dir := by decide
  emitted := by
    have hb : IsEmitted [Text.ofString "b.d.ts"] .data :=
      ⟨by decide, ⟨[], ['b'], by decide⟩, by decide⟩
    have hindex : IsEmitted [Text.ofString "index.d.ts"] .data :=
      ⟨by decide, ⟨[], Text.ofString "index", by decide⟩, by decide⟩
    have huse : IsEmitted [Text.ofString "use.d.ts"] .data :=
      ⟨by decide, ⟨[], Text.ofString "use", by decide⟩, by decide⟩
    refine .file hb (.dir (by decide) (.file hindex .nil) ?_)
    exact .dir (by decide) (.file hindex (.file huse .nil)) .nil
  run := by with_unfolding_all rfl

/-- From `lib/use`, `../b` leads to the file and not to the directory of that name, and `./`
leads to the module that stands for the directory. -/
theorem target_eq_keyOf_emittedTree :
    Loaded inScope (Text.ofString "out") emittedSession emittedTree emittedDeclarations ∧
    (resolver inScope.namer emittedDeclarations).target (Text.ofString "../b")
        (inScope.keyOf emittedSession (Path.parse (Text.ofString "out"))
          [Text.ofString "lib", Text.ofString "use.d.ts"]) =
      inScope.keyOf emittedSession (Path.parse (Text.ofString "out")) [Text.ofString "b.d.ts"] ∧
    (resolver inScope.namer emittedDeclarations).target (Text.ofString "./")
        (inScope.keyOf emittedSession (Path.parse (Text.ofString "out"))
          [Text.ofString "lib", Text.ofString "use.d.ts"]) =
      inScope.keyOf emittedSession (Path.parse (Text.ofString "out"))
        [Text.ofString "lib", Text.ofString "index.d.ts"] := by
  have howner : emittedTree.hasFile [Text.ofString "lib", Text.ofString "use.d.ts"] = true := by
    decide
  refine ⟨loaded_emittedTree, ?_, ?_⟩
  · exact ((target_eq_keyOf loaded_emittedTree howner (by decide) (by decide) (by decide)).1
      (by decide)).1
  · exact ((target_eq_keyOf loaded_emittedTree howner (by decide) (by decide) (by decide)).2.1
      (by decide) (by decide)).1

end Bundle.Aggregator
end AmbientBundle
