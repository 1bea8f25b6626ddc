import Mathlib.Data.List.Basic
import AmbientBundle.Proofs.Import.Target
import AmbientBundle.Proofs.Text

/-!
# Resolved sources

Resolving redirects one static site of each line and then one dynamic site.
`redirectForm_cases` says once what redirecting one form of a line can do, and the two
groups that follow draw on it alone.

* References: each reference of the resolved source is the reference of the source in
  the same position, followed to its target if it is relative (`references_resolve`).
* Relative specifiers that are left: a site that is not the leftmost one of its form in
  its line is never redirected.  So a resolved source names no module by a relative
  specifier exactly if each relative specifier of the source stands leftmost
  (`resolve_selfContained_iff`).
-/

namespace AmbientBundle
namespace Import

/-- What a reference of an owner becomes. -/
def Resolver.follow (r : Resolver) (owner w : Text) : Text :=
  if isRelative w then r.target w owner else w

namespace Resolver

variable {r : Resolver} {f g : Form} {owner line source : Text}

/-- The leftmost specifiers of the lines are references. -/
theorem mem_references {w : Text} (hline : line ∈ source.splitLines)
    (hw : specifier? f line = some w) : w ∈ references source .allImports :=
  mem_references_iff.2 ⟨line, hline, f, hw⟩

section

variable (habs : r.ground.isAbsolute = true) (howner : Plain owner)
include habs howner

/-! ## One line -/

/-- Redirecting a form either exchanges its leftmost specifier for a target or, where that
specifier is not relative, changes nothing. -/
theorem redirectForm_cases
    (hplain : ∀ w, specifier? f line = some w → isRelative w = true → Plain w) :
    (∃ s, leftmost f line = some s ∧ isRelative s.specifier = true ∧
      s.Exchange (r.target s.specifier owner) ∧
      r.redirectForm f owner line = s.withSpecifier (r.target s.specifier owner)) ∨
    ((∀ s, leftmost f line = some s → isRelative s.specifier = false) ∧
      r.redirectForm f owner line = line) := by
  cases hleft : leftmost f line with
  | none =>
    refine Or.inr ⟨?_, by simp only [redirectForm, relativeSite?, hleft]⟩
    intro s hs
    cases hs
  | some s =>
    cases hrel : isRelative s.specifier with
    | false =>
      refine Or.inr ⟨?_, ?_⟩
      · intro s' hs'
        cases hs'
        exact hrel
      · simp only [redirectForm, relativeSite?, hleft, hrel, Bool.false_eq_true, if_false]
    | true =>
      have hsite := isSite_of_leftmost hleft
      have hold : Plain s.specifier := hplain s.specifier (by rw [specifier?, hleft]; rfl) hrel
      refine Or.inl ⟨s, rfl, hrel, ?_, ?_⟩
      · exact ⟨hsite.quoted, hold, hsite.filled, plain_target habs hrel howner hold,
          target_ne_nil habs hrel⟩
      · simp only [redirectForm, relativeSite?, hleft, hrel, if_true]

/-- The form that is redirected has its leftmost specifier followed. -/
theorem specifier?_redirectForm_self
    (hplain : ∀ w, specifier? f line = some w → isRelative w = true → Plain w) :
    specifier? f (r.redirectForm f owner line) = (specifier? f line).map (r.follow owner) := by
  rcases redirectForm_cases habs howner hplain with ⟨s, hleft, hrel, hx, heq⟩ | ⟨hno, heq⟩
  · have hline : s.line = line := leftmost_line hleft
    rw [← hline] at hleft
    rw [heq, specifier?_withSpecifier_self hx hleft, ← hline, specifier?, hleft]
    simp only [Option.map_some, follow, hrel, if_true]
  · rw [heq, specifier?]
    cases hleft : leftmost f line with
    | none => rfl
    | some s =>
      simp only [Option.map_some, follow, hno s hleft, Bool.false_eq_true, if_false]

/-- Redirecting one form changes nothing about the other. -/
theorem sameSites_redirectForm
    (hplain : ∀ w, specifier? f line = some w → isRelative w = true → Plain w) (hne : g ≠ f) :
    SameSites g line (r.redirectForm f owner line) := by
  rcases redirectForm_cases habs howner hplain with ⟨s, hleft, _, hx, heq⟩ | ⟨_, heq⟩
  · have hsame := hx.sameSites (isSite_of_leftmost hleft) hne
    rwa [leftmost_line hleft, ← heq] at hsame
  · rw [heq]
    exact .refl g line

/-- The other form keeps its leftmost specifier. -/
theorem specifier?_redirectForm_of_ne
    (hplain : ∀ w, specifier? f line = some w → isRelative w = true → Plain w) (hne : g ≠ f) :
    specifier? g (r.redirectForm f owner line) = specifier? g line :=
  (sameSites_redirectForm habs howner hplain hne).specifier?_eq

/-- Redirecting one form leaves the specifiers of the line plain. -/
theorem plain_redirectForm
    (hplain : ∀ f w, specifier? f line = some w → isRelative w = true → Plain w) (hne : g ≠ f) :
    ∀ w, specifier? g (r.redirectForm f owner line) = some w → isRelative w = true → Plain w := by
  rw [specifier?_redirectForm_of_ne habs howner (hplain f) hne]
  exact hplain g

/-- Each form of a resolved line has its leftmost specifier followed. -/
theorem specifier?_resolveLine
    (hplain : ∀ f w, specifier? f line = some w → isRelative w = true → Plain w) (f : Form) :
    specifier? f (r.resolveLine owner line) = (specifier? f line).map (r.follow owner) := by
  have hdynamic := plain_redirectForm habs howner hplain (f := .static) (g := .dynamic) (by decide)
  cases f with
  | static =>
    rw [resolveLine, specifier?_redirectForm_of_ne habs howner hdynamic (by decide),
      specifier?_redirectForm_self habs howner (hplain .static)]
  | dynamic =>
    rw [resolveLine, specifier?_redirectForm_self habs howner hdynamic,
      specifier?_redirectForm_of_ne habs howner (hplain .static) (by decide)]

/-! ## Lines and sources -/

/-- A character of a redirected line was in the line or is plain. -/
theorem mem_redirectForm {c : Char}
    (hplain : ∀ w, specifier? f line = some w → isRelative w = true → Plain w)
    (hc : c ∈ r.redirectForm f owner line) : c ∈ line ∨ Text.isBlank c = false := by
  rcases redirectForm_cases habs howner hplain with ⟨s, hleft, _, hx, heq⟩ | ⟨_, heq⟩
  · rw [heq, Site.withSpecifier, List.mem_append, List.mem_append] at hc
    rw [← leftmost_line hleft, Site.line, List.mem_append, List.mem_append]
    rcases hc with (hc | hc) | hc
    · exact Or.inl (Or.inl (Or.inl hc))
    · exact Or.inr (hx.new c hc).2.1
    · exact Or.inl (Or.inr hc)
  · rw [heq] at hc
    exact Or.inl hc

/-- A resolved line has no blanks of its own. -/
theorem mem_resolveLine {c : Char}
    (hplain : ∀ f w, specifier? f line = some w → isRelative w = true → Plain w)
    (hc : c ∈ r.resolveLine owner line) : c ∈ line ∨ Text.isBlank c = false := by
  have hdynamic := plain_redirectForm habs howner hplain (f := .static) (g := .dynamic) (by decide)
  rcases mem_redirectForm habs howner hdynamic hc with hc | hc
  · exact mem_redirectForm habs howner (hplain .static) hc
  · exact Or.inr hc

/-- The lines of a resolved source are the resolved lines. -/
theorem splitLines_resolve
    (hplain : ∀ w ∈ references source .allImports, isRelative w = true → Plain w) :
    (r.resolve source owner).splitLines = source.splitLines.map (r.resolveLine owner) := by
  refine Text.splitLines_joinLines ?_ ?_
  · rw [ne_eq, List.map_eq_nil_iff]
    exact Text.splitLines_ne_nil source
  · intro l hl
    obtain ⟨line, hline, rfl⟩ := List.mem_map.1 hl
    have hends := Text.ending_not_mem_of_mem_splitLines hline
    have hmem {c : Char} (hc : c ∈ r.resolveLine owner line) : c ∈ line ∨ Text.isBlank c = false :=
      mem_resolveLine habs howner (fun f w hw => hplain w (mem_references hline hw)) hc
    constructor
    · intro hc
      rcases hmem hc with hc | hc
      · exact hends.1 hc
      · exact absurd hc (by decide)
    · intro hc
      rcases hmem hc with hc | hc
      · exact hends.2 hc
      · exact absurd hc (by decide)

end

/-- Resolving loses no reference, adds none and keeps their order; each relative one becomes
its target. -/
theorem references_resolve (r : Resolver) (source owner : Text)
    (habs : r.ground.isAbsolute = true) (howner : Plain owner)
    (hplain : ∀ w ∈ references source .allImports, isRelative w = true → Plain w) :
    references (r.resolve source owner) .allImports =
      (references source .allImports).map (r.follow owner) := by
  have hform (f : Form) : (r.resolve source owner).splitLines.filterMap (specifier? f) =
      (source.splitLines.filterMap (specifier? f)).map (r.follow owner) := by
    rw [splitLines_resolve habs howner hplain, List.filterMap_map, List.map_filterMap,
      List.filterMap_eq_flatMap_toList, List.filterMap_eq_flatMap_toList]
    refine List.flatMap_congr fun line hline => ?_
    have hline' := specifier?_resolveLine habs howner
      (fun f w hw => hplain w (mem_references hline hw)) f
    rw [Function.comp_apply, hline']
  rw [references, references, List.map_append, hform .static, hform .dynamic]
  · exact ShakePolicy.noConfusion
  · exact ShakePolicy.noConfusion

/-- A resolver for the modules `demo/a`, `demo/b` and `demo/c`. -/
def demo : Resolver where
  namer :=
    { package := Text.ofString "demo", root := ⟨.root, []⟩, scratch := ⟨.root, []⟩,
      cwd := ⟨.root, [Text.ofString "work"]⟩ }
  known := [Text.ofString "demo/a", Text.ofString "demo/b", Text.ofString "demo/c"]

/-- Three imports on two lines, two of them relative and one of these to a directory. -/
def threeImports : Text :=
  Text.ofString "import z from 'zod';\r\nexport * from './d'; type B = import('../b').B;"

/-- The three imports are read in the same order after they were resolved. -/
theorem references_resolve_threeImports :
    demo.ground.isAbsolute = true ∧ Plain (Text.ofString "demo/sub/c") ∧
      (∀ w ∈ references threeImports .allImports, isRelative w = true → Plain w) ∧
      references (demo.resolve threeImports (Text.ofString "demo/sub/c")) .allImports =
        [Text.ofString "zod", Text.ofString "demo/sub/d/index", Text.ofString "demo/b"] := by
  have habs : demo.ground.isAbsolute = true := by decide
  have howner : Plain (Text.ofString "demo/sub/c") := by decide
  have hplain : ∀ w ∈ references threeImports .allImports, isRelative w = true → Plain w := by
    decide
  refine ⟨habs, howner, hplain, ?_⟩
  rw [references_resolve demo threeImports _ habs howner hplain]
  decide

end Resolver

/-! ## Relative specifiers that are left -/

/-- No specifier of the form is relative in the line. -/
def NoRelative (f : Form) (line : Text) : Prop :=
  ∀ s, f.IsSite s → s.line = line → isRelative s.specifier = false

/-- A relative specifier of the form is the leftmost one of the line. -/
def RelativeFirst (f : Form) (line : Text) : Prop :=
  ∀ s, f.IsSite s → s.line = line → isRelative s.specifier = true → leftmost f line = some s

/-- A source that names no module by a relative specifier, wherever in a line. -/
def SelfContained (source : Text) : Prop :=
  ∀ line ∈ source.splitLines, ∀ f, NoRelative f line

instance (f : Form) (line : Text) : Decidable (NoRelative f line) :=
  decidable_of_iff (∀ s ∈ sites f line, isRelative s.specifier = false) <| by
    simp only [NoRelative, mem_sites, and_imp]

instance (f : Form) (line : Text) : Decidable (RelativeFirst f line) :=
  decidable_of_iff (∀ s ∈ sites f line, isRelative s.specifier = true → leftmost f line = some s) <|
    by simp only [RelativeFirst, mem_sites, and_imp]

instance (p : Form → Prop) [DecidablePred p] : Decidable (∀ f, p f) :=
  decidable_of_iff (p .static ∧ p .dynamic) <| by
    constructor
    · rintro ⟨hstatic, hdynamic⟩ f
      cases f with
      | static => exact hstatic
      | dynamic => exact hdynamic
    · exact fun h => ⟨h .static, h .dynamic⟩

instance (source : Text) : Decidable (SelfContained source) :=
  inferInstanceAs (Decidable (∀ line ∈ source.splitLines, ∀ f, NoRelative f line))

section

variable {f g : Form} {s : Site} {x : Text}

/-- A line has no relative specifier if its sites are found in a line that has none. -/
theorem SitesKept.noRelative {line line' : Text} (h : SitesKept f line line')
    (hno : NoRelative f line') : NoRelative f line := by
  intro u hu hline
  obtain ⟨u', hu', hline', hspec, _⟩ := h u hu hline
  rw [← hspec]
  exact hno u' hu' hline'

theorem SitesKept.relativeFirst {line line' : Text} (h : SitesKept f line line')
    (hfirst : RelativeFirst f line') : RelativeFirst f line := by
  intro u hu hline hrel
  obtain ⟨u', hu', hline', hspec, hleft⟩ := h u hu hline
  rw [← hspec] at hrel
  exact hleft.1 (hfirst u' hu' hline' hrel)

/-- Once the leftmost specifier is not relative any more, those that are left are the relative
specifiers that were not leftmost. -/
theorem noRelative_withSpecifier_self (hx : s.Exchange x) (hleft : leftmost f s.line = some s)
    (hrel : isRelative x = false) : NoRelative f (s.withSpecifier x) ↔ RelativeFirst f s.line := by
  constructor
  · intro h u hu hline hurel
    obtain ⟨u', hmoved, hu', hline'⟩ := hx.moved hu hline
    rcases hmoved.specifier_eq with ⟨rfl, _⟩ | ⟨_, hspec⟩
    · exact hleft
    · have hno := h u' hu' hline'
      rw [hspec, hurel] at hno
      cases hno
  · intro h u' hu' hline'
    obtain ⟨u, hmoved, hu, hline⟩ := hx.moved_back hu' hline'
    rcases hmoved.specifier_eq with ⟨_, rfl⟩ | ⟨hne, hspec⟩
    · exact hrel
    · rw [hspec]
      by_contra hurel
      rw [Bool.not_eq_false] at hurel
      have hu_left := h u hu hline hurel
      rw [hleft] at hu_left
      exact hne (Option.some.inj hu_left).symm

end

namespace Resolver

variable {r : Resolver} {f g : Form} {owner line : Text}

section

variable (habs : r.ground.isAbsolute = true) (howner : Plain owner)
include habs howner

/-- Redirecting a form takes care of its leftmost specifier and of no other. -/
theorem noRelative_redirectForm_self
    (hplain : ∀ w, specifier? f line = some w → isRelative w = true → Plain w)
    (hin : ∀ w, specifier? f line = some w → isRelative w = true → StaysInside owner w) :
    NoRelative f (r.redirectForm f owner line) ↔ RelativeFirst f line := by
  rcases redirectForm_cases habs howner hplain with ⟨s, hleft, hrel, hx, heq⟩ | ⟨hno, heq⟩
  · have hstay : StaysInside owner s.specifier :=
      hin s.specifier (by rw [specifier?, hleft]; rfl) hrel
    have hline : s.line = line := leftmost_line hleft
    rw [← hline] at hleft
    rw [heq, noRelative_withSpecifier_self hx hleft (isRelative_target habs hrel hstay), hline]
  · rw [heq]
    constructor
    · intro h u hu hline hurel
      rw [h u hu hline] at hurel
      cases hurel
    · intro h u hu hline
      by_contra hurel
      rw [Bool.not_eq_false] at hurel
      have hunrel := hno u (h u hu hline hurel)
      rw [hurel] at hunrel
      cases hunrel

/-- A resolved line has no relative specifier of a form if those of the line were leftmost. -/
theorem noRelative_resolveLine
    (hplain : ∀ f w, specifier? f line = some w → isRelative w = true → Plain w)
    (hin : ∀ f w, specifier? f line = some w → isRelative w = true → StaysInside owner w)
    (f : Form) : NoRelative f (r.resolveLine owner line) ↔ RelativeFirst f line := by
  have hne : Form.dynamic ≠ .static := by decide
  have hdynamic := plain_redirectForm habs howner hplain hne
  have hinside : ∀ w, specifier? .dynamic (r.redirectForm .static owner line) = some w →
      isRelative w = true → StaysInside owner w := by
    rw [specifier?_redirectForm_of_ne habs howner (hplain .static) hne]
    exact hin .dynamic
  cases f with
  | static =>
    have hsame : SameSites .static (r.redirectForm .static owner line) (r.resolveLine owner line) :=
      sameSites_redirectForm habs howner hdynamic hne.symm
    rw [← noRelative_redirectForm_self habs howner (hplain .static) (hin .static)]
    exact ⟨hsame.forth.noRelative, hsame.back.noRelative⟩
  | dynamic =>
    have hsame := sameSites_redirectForm habs howner (hplain .static) hne
    rw [resolveLine, noRelative_redirectForm_self habs howner hdynamic hinside]
    exact ⟨hsame.forth.relativeFirst, hsame.back.relativeFirst⟩

end

/-- A resolved source is self-contained exactly if each relative specifier of the source is the
leftmost one of its form in its line. -/
theorem resolve_selfContained_iff (r : Resolver) (source owner : Text)
    (habs : r.ground.isAbsolute = true) (howner : Plain owner)
    (hspec : ∀ w ∈ references source .allImports, isRelative w = true →
      Plain w ∧ StaysInside owner w) :
    SelfContained (r.resolve source owner) ↔
      ∀ line ∈ source.splitLines, ∀ f, RelativeFirst f line := by
  have hlines : (r.resolve source owner).splitLines = source.splitLines.map (r.resolveLine owner) :=
    splitLines_resolve habs howner fun w hw hrel => (hspec w hw hrel).1
  have hresolved (line : Text) (hline : line ∈ source.splitLines) (f : Form) :
      NoRelative f (r.resolveLine owner line) ↔ RelativeFirst f line :=
    noRelative_resolveLine habs howner
      (fun f w hw hrel => (hspec w (mem_references hline hw) hrel).1)
      (fun f w hw hrel => (hspec w (mem_references hline hw) hrel).2) f
  rw [SelfContained, hlines]
  constructor
  · intro h line hline f
    exact (hresolved line hline f).1 (h _ (List.mem_map_of_mem hline) f)
  · intro h l hl f
    obtain ⟨line, hline, rfl⟩ := List.mem_map.1 hl
    exact (hresolved line hline f).2 (h line hline f)

/-- The three imports stand leftmost, two of them in one line, so none of them is left. -/
theorem resolve_selfContained_iff_threeImports :
    demo.ground.isAbsolute = true ∧ Plain (Text.ofString "demo/sub/c") ∧
      (∀ w ∈ references threeImports .allImports, isRelative w = true →
        Plain w ∧ StaysInside (Text.ofString "demo/sub/c") w) ∧
      SelfContained (demo.resolve threeImports (Text.ofString "demo/sub/c")) := by
  have habs : demo.ground.isAbsolute = true := by decide
  have howner : Plain (Text.ofString "demo/sub/c") := by decide
  have hspec : ∀ w ∈ references threeImports .allImports, isRelative w = true →
      Plain w ∧ StaysInside (Text.ofString "demo/sub/c") w := by decide
  refine ⟨habs, howner, hspec, ?_⟩
  rw [resolve_selfContained_iff demo threeImports _ habs howner hspec]
  decide

/-- A signature that names two modules of its package. -/
def twoImports : Text := Text.ofString "type T = import('./a').A | import('./b').B;"

/-- Neither import of the signature leads out of the package, and the second one is left. -/
theorem second_import_left :
    (∀ line ∈ twoImports.splitLines, ∀ f, ∀ s ∈ sites f line, isRelative s.specifier = true →
      StaysInside (Text.ofString "demo/c") s.specifier) ∧
      demo.resolve twoImports (Text.ofString "demo/c") =
        Text.ofString "type T = import('demo/a').A | import('./b').B;" ∧
      ¬ SelfContained (demo.resolve twoImports (Text.ofString "demo/c")) := by
  decide

end Resolver
end Import
end AmbientBundle
