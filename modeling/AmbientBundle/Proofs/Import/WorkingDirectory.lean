import AmbientBundle.Proofs.Import.Target
import AmbientBundle.Proofs.ModuleName
import AmbientBundle.Proofs.Text

/-!
# Resolving in any working directory

A specifier is resolved on a detour: its place beside the owner is written down from the working
directory, put in normal form there, and the working directory is cut off again.  Nothing of it is
left as long as no `..` takes a part of the working directory back.  `Inward` says when that is so,
and then the target is the normal form of `owner/../specifier` (`Resolver.target_of_inward`).

What a resolver does to a source depends on the targets of the specifiers that it redirects and on
nothing else (`Resolver.resolve_congr`).  So resolvers that know the same modules resolve a source
to the same text, wherever each of them works.
-/

namespace AmbientBundle
namespace Import

/-- An owner and a specifier, neither of them at the root or with a backslash, where the specifier
does not lead out of the directory that the owner's id starts from. -/
structure Inward (owner w : Text) : Prop where
  /-- The owner does not start at the root. -/
  owner_start : owner.head? ≠ some '/'
  /-- The owner has no backslash. -/
  owner_no_backslash : '\\' ∉ owner
  /-- The specifier does not start at the root. -/
  start : w.head? ≠ some '/'
  /-- The specifier has no backslash. -/
  no_backslash : '\\' ∉ w
  /-- The normal form does not start with two dots. -/
  inside : ¬ upPart <+: (besideOwner owner w).toText

instance (owner w : Text) : Decidable (Inward owner w) :=
  decidable_of_iff (owner.head? ≠ some '/' ∧ '\\' ∉ owner ∧ w.head? ≠ some '/' ∧ '\\' ∉ w ∧
      ¬ upPart <+: (besideOwner owner w).toText)
    ⟨fun ⟨howner, howner', hstart, hback, hin⟩ => ⟨howner, howner', hstart, hback, hin⟩,
      fun h => ⟨h.owner_start, h.owner_no_backslash, h.start, h.no_backslash, h.inside⟩⟩

namespace Inward

variable {owner w : Text}

theorem besideOwner_eq (h : Inward owner w) :
    besideOwner owner w = ⟨.here, Path.normalParts false (steps owner w)⟩ :=
  Import.besideOwner_eq (Path.anchor_parse_of_start h.start)
    (Path.anchor_parse_of_start h.owner_start)

/-- The normal form passes through no `..`. -/
theorem no_up (h : Inward owner w) : upPart ∉ Path.normalParts false (steps owner w) := by
  intro hup
  have hinside := h.inside
  rw [h.besideOwner_eq] at hinside
  exact hinside (Path.up_prefix_partsText hup)

/-- Without an owner there is nothing that the first `..` could take back. -/
theorem owner_ne_nil (h : Inward owner w) : owner ≠ [] := by
  intro hnil
  subst hnil
  have hup : upPart ∈ (Path.parse w).parts.foldl (Path.pushPart false) [upPart] :=
    Path.up_mem_foldl_pushPart (List.mem_singleton_self upPart)
  exact h.no_up (List.mem_reverse.2 hup)

/-- The place beside the owner is what `owner/../specifier` is read as. -/
theorem besideOwner_eq_parse (h : Inward owner w) :
    besideOwner owner w = (Path.parse (owner ++ '/' :: (upPart ++ '/' :: w))).normal := by
  have hanchor : (Path.parse (owner ++ '/' :: (upPart ++ '/' :: w))).anchor = .here := by
    refine Path.anchor_parse_of_start ?_
    cases howner : owner with
    | nil => exact absurd howner h.owner_ne_nil
    | cons c rest =>
      have hstart := h.owner_start
      rw [howner] at hstart
      exact hstart
  have hparts : (Path.parse (owner ++ '/' :: (upPart ++ '/' :: w))).parts = steps owner w := by
    rw [Path.parse, Text.splitOn_append, Text.splitOn_append, List.filter_append,
      List.filter_append, steps, List.append_assoc]
    rfl
  rw [h.besideOwner_eq, Path.normal, hparts, Path.isAbsolute, hanchor]
  rfl

theorem slashed_toText (h : Inward owner w) :
    slashed (besideOwner owner w).toText = (besideOwner owner w).toText := by
  refine slashed_of_no_backslash fun hmem => ?_
  rw [h.besideOwner_eq] at hmem
  rcases Path.mem_partsText hmem with heq | heq | ⟨x, hx, hmem⟩
  · exact absurd heq (by decide)
  · exact absurd heq (by decide)
  · rcases mem_steps (Path.mem_of_mem_normalParts hx) with rfl | hx | hx
    · exact absurd hmem (by decide)
    · exact h.owner_no_backslash (Path.mem_of_mem_parse hx hmem)
    · exact h.no_backslash (Path.mem_of_mem_parse hx hmem)

end Inward

namespace Resolver

variable {r r' : Resolver} {f : Form} {owner w line source : Text}

/-! ## Targets -/

/-- In whatever working directory, the target is the normal form of the place beside the owner, or
the module that stands for it. -/
theorem target_of_inward (hdir : r.namer.workingDir.isAbsolute = true) (h : Inward owner w) :
    r.target w owner =
      if (besideOwner owner w).toText ∈ r.known then (besideOwner owner w).toText
      else (besideOwner owner w).toText ++ indexSuffix := by
  have habs : r.ground.isAbsolute = true := by
    rw [ground, Path.join_of_isAbsolute hdir]
    exact hdir
  have hlocate : r.locate w owner = (besideOwner owner w).toText := by
    rw [locate_eq_of_inside habs (Path.anchor_parse_of_start h.start)
      (Path.anchor_parse_of_start h.owner_start) h.no_up, h.slashed_toText]
  rw [target, hlocate]
  simp only [List.contains_iff_mem]

/-! ## Sources -/

/-- A form is redirected alike where its redirect has the same target. -/
theorem redirectForm_congr
    (h : ∀ x ∈ r.formRedirects f owner line,
      r'.target x.specifier owner = r.target x.specifier owner) :
    r'.redirectForm f owner line = r.redirectForm f owner line := by
  unfold redirectForm
  unfold formRedirects at h
  split at h
  · next s hs => rw [h _ List.mem_cons_self]
  · rfl

/-- A line is resolved alike where its redirects have the same targets. -/
theorem resolveLine_congr
    (h : ∀ x ∈ r.lineRedirects owner line,
      r'.target x.specifier owner = r.target x.specifier owner) :
    r'.resolveLine owner line = r.resolveLine owner line := by
  -- The dynamic site is looked for in the line that the static redirect leaves.
  have hstatic : r'.redirectForm .static owner line = r.redirectForm .static owner line :=
    redirectForm_congr fun x hx => h x (List.mem_append_left _ hx)
  rw [resolveLine, resolveLine, hstatic]
  exact redirectForm_congr fun x hx => h x (List.mem_append_right _ hx)

/-- A source is resolved alike where its redirects have the same targets. -/
theorem resolve_congr
    (h : ∀ x ∈ r.redirects source owner,
      r'.target x.specifier owner = r.target x.specifier owner) :
    r'.resolve source owner = r.resolve source owner := by
  rw [resolve, resolve]
  refine congrArg Text.joinLines (List.map_congr_left fun line hline => ?_)
  exact resolveLine_congr fun x hx => h x (List.mem_flatMap.2 ⟨line, hline, hx⟩)

/-- A specifier becomes the normal form of `owner/../specifier` if that is a known module, and else
the module that stands for that directory.  So two resolvers that know the same modules resolve
every specifier and every source alike, whatever their working directories are. -/
theorem resolve_in_any_directory (r r' : Resolver) (owner : Text)
    (hdir : r.namer.workingDir.isAbsolute = true) (hdir' : r'.namer.workingDir.isAbsolute = true)
    (hknown : ∀ m, m ∈ r'.known ↔ m ∈ r.known) :
    (∀ w, Inward owner w →
      besideOwner owner w = (Path.parse (owner ++ '/' :: (upPart ++ '/' :: w))).normal ∧
      r.target w owner =
        (if (besideOwner owner w).toText ∈ r.known then (besideOwner owner w).toText
          else (besideOwner owner w).toText ++ indexSuffix) ∧
      r'.target w owner = r.target w owner) ∧
    ∀ source, (∀ x ∈ r.redirects source owner, Inward owner x.specifier) →
      r'.resolve source owner = r.resolve source owner := by
  have hsame (w : Text) (hw : Inward owner w) : r'.target w owner = r.target w owner := by
    rw [target_of_inward hdir hw, target_of_inward hdir' hw]
    simp only [hknown]
  refine ⟨fun w hw => ⟨hw.besideOwner_eq_parse, target_of_inward hdir hw, hsame w hw⟩, ?_⟩
  intro source hsource
  exact resolve_congr fun x hx => hsame x.specifier (hsource x hx)

/-- A resolver that works in a given directory. -/
def workingIn (dir : String) : Resolver where
  namer :=
    { package := Text.ofString "demo", root := ⟨.root, []⟩, scratch := ⟨.root, []⟩,
      working := some (Path.parse (Text.ofString dir)), cwd := ⟨.root, []⟩ }
  known := [Text.ofString "demo/a", Text.ofString "demo/b"]

/-- Three specifiers with parts that lead nowhere and parts that are taken back. -/
def windingImports : Text :=
  Text.ofString "import A from './/..///a';\nexport * from '../../demo/./b/'; import('.');"

/-- At the root and in a directory whose parts are those of the ids, the same text comes out. -/
theorem resolve_in_any_directory_winding :
    (Inward (Text.ofString "demo/sub/c") (Text.ofString "../../demo/./b/") ∧
      (workingIn "/").target (Text.ofString "../../demo/./b/") (Text.ofString "demo/sub/c") =
        Text.ofString "demo/b") ∧
    (∀ x ∈ (workingIn "/").redirects windingImports (Text.ofString "demo/sub/c"),
      Inward (Text.ofString "demo/sub/c") x.specifier) ∧
    (workingIn "/").resolve windingImports (Text.ofString "demo/sub/c") =
      Text.ofString "import A from 'demo/a';\nexport * from 'demo/b'; import('demo/sub/index');" ∧
    (workingIn "//demo/../demo/sub").resolve windingImports (Text.ofString "demo/sub/c") =
      (workingIn "/").resolve windingImports (Text.ofString "demo/sub/c") := by
  have hin : Inward (Text.ofString "demo/sub/c") (Text.ofString "../../demo/./b/") := by decide
  have hsource : ∀ x ∈ (workingIn "/").redirects windingImports (Text.ofString "demo/sub/c"),
      Inward (Text.ofString "demo/sub/c") x.specifier := by decide
  obtain ⟨htarget, hresolve⟩ := resolve_in_any_directory (workingIn "/")
    (workingIn "//demo/../demo/sub") (Text.ofString "demo/sub/c") (by decide) (by decide)
    (fun m => Iff.rfl)
  refine ⟨⟨hin, ?_⟩, hsource, by decide, hresolve _ hsource⟩
  rw [(htarget _ hin).2.1]
  decide

end Resolver
end Import
end AmbientBundle
