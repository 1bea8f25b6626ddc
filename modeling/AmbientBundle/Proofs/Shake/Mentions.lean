import AmbientBundle.Proofs.Import.Site
import AmbientBundle.Proofs.Reachability

/-!
# Modules that are named anywhere in a line

A source *names* a module wherever one of its lines has a site with that specifier.  It *refers* to
the module only if the site is the leftmost one of its form in the line, so a line that names two
modules in the same form refers to the first of them alone.

A walk follows references.  What it records is closed under references, and all of it can be reached
by going from module to named module.  The converse may fail: a module that is named behind another
one is left out unless it is reached on another way (`second_module_dropped`).  Everything that is
named by a kept module is kept exactly if naming leads no further than referring does
(`reach_keepsNamed_iff`).
-/

namespace AmbientBundle

namespace Import

/-- A source that has a site with a given specifier, wherever in a line. -/
def Names (source x : Text) : Prop :=
  ∃ line ∈ source.splitLines, ∃ f : Form, ∃ s, f.IsSite s ∧ s.line = line ∧ s.specifier = x

/-- What a source refers to is named in it. -/
theorem names_of_mem_references {source x : Text} (h : x ∈ references source .allImports) :
    Names source x := by
  obtain ⟨line, hline, f, hw⟩ := mem_references_iff.1 h
  obtain ⟨s, hleft, hspec⟩ := Option.map_eq_some_iff.1 hw
  exact ⟨line, hline, f, s, isSite_of_leftmost hleft, leftmost_line hleft, hspec⟩

end Import

namespace Shake

/-- A declared module whose text names another declared module. -/
def Mentions (d : Declarations) (m x : ModuleId) : Prop :=
  ∃ body, d.find? m = some body ∧ Import.Names body x ∧ x ∈ d.ids

/-- Modules that hold every declared module that one of them names. -/
def KeepsNamed (d : Declarations) (ms : List ModuleId) : Prop :=
  ∀ m ∈ ms, ∀ x, Mentions d m x → x ∈ ms

theorem Refers.mentions {d : Declarations} {m x : ModuleId} (h : Refers d .allImports m x) :
    Mentions d m x := by
  obtain ⟨body, hbody, href, hx⟩ := h
  exact ⟨body, hbody, Import.names_of_mem_references href, hx⟩

/-- What is reached through references is reached through names. -/
theorem Reaches.mentioned {d : Declarations} {m x : ModuleId} (h : Reaches d .allImports m x) :
    Relation.ReflTransGen (Mentions d) m x :=
  Relation.ReflTransGen.mono (fun _ _ hstep => Refers.mentions hstep) m x h

/-- Modules that are all named from an entry on, the entry among them, hold what they name exactly
if they hold what is named from the entry on. -/
theorem keepsNamed_iff {d : Declarations} {entry : ModuleId} {ms : List ModuleId}
    (hentry : entry ∈ ms) (hsound : ∀ m ∈ ms, Relation.ReflTransGen (Mentions d) entry m) :
    KeepsNamed d ms ↔ ∀ x, Relation.ReflTransGen (Mentions d) entry x → x ∈ ms := by
  constructor
  · intro hkeeps x hx
    induction hx with
    | refl => exact hentry
    | tail _ hstep ih => exact hkeeps _ ih _ hstep
  · intro hall m hm x hx
    exact hall x ((hsound m hm).tail hx)

namespace Explored

variable {d : Declarations} {entry : ModuleId} {ms : List ModuleId}

/-- What a kept module names first in a line is kept. -/
theorem mem_of_leftmost (h : Explored d .allImports entry ms []) {m : ModuleId} (hm : m ∈ ms)
    {body line : Text} (hbody : d.find? m = some body) (hline : line ∈ body.splitLines)
    {f : Import.Form} {s : Import.Site} (hleft : Import.leftmost f line = some s)
    (hx : s.specifier ∈ d.ids) : s.specifier ∈ ms := by
  have href : s.specifier ∈ Import.references body .allImports :=
    Import.mem_references_iff.2 ⟨line, hline, f, Option.map_eq_some_iff.2 ⟨s, hleft, rfl⟩⟩
  exact h.mem_iff.2 ((h.mem_iff.1 hm).tail ⟨body, hbody, href, hx⟩)

/-- Where no line of a kept module opens a form twice, everything named stands first. -/
theorem keepsNamed (h : Explored d .allImports entry ms [])
    (hone : ∀ m ∈ ms, ∀ body, d.find? m = some body → ∀ line ∈ body.splitLines,
      ∀ f : Import.Form, f.openings line ≤ 1) : KeepsNamed d ms := by
  rintro m hm x ⟨body, hbody, ⟨line, hline, f, s, hs, hsline, rfl⟩, hx⟩
  have hleft : Import.leftmost f line = some s :=
    hs.leftmost_of_openings (hone m hm body hbody line hline f) hsline
  exact h.mem_of_leftmost hm hbody hline hleft hx

end Explored
end Shake

namespace Bundle.Aggregator

open Shake (Explored Mentions KeepsNamed reachable)

/-- With all imports followed, what a kept module names first in a line is kept, and every kept
module is named from the entry on.  Everything that a kept module names, in whatever place of a
line, is kept exactly if everything that is named from the entry on is kept; and it is kept if no
line of a kept module opens a form twice. -/
theorem reach_keepsNamed_iff (v : Voice) (d : Declarations) {entry : ModuleId}
    (hentry : entry ∈ d.ids) :
    ∃ ms, reachable d entry .allImports = some ms ∧
      (reach v d entry .allImports).Gives (.ok ms) ∧
      (∀ m ∈ ms, ∀ body, d.find? m = some body → ∀ line ∈ body.splitLines, ∀ f s,
        Import.leftmost f line = some s → s.specifier ∈ d.ids → s.specifier ∈ ms) ∧
      (∀ m ∈ ms, Relation.ReflTransGen (Mentions d) entry m) ∧
      (KeepsNamed d ms ↔ ∀ x, Relation.ReflTransGen (Mentions d) entry x → x ∈ ms) ∧
      ((∀ m ∈ ms, ∀ body, d.find? m = some body → ∀ line ∈ body.splitLines, ∀ f : Import.Form,
        f.openings line ≤ 1) → KeepsNamed d ms) := by
  have hpolicy : ShakePolicy.allImports ≠ .off := by decide
  obtain ⟨ms, hms, hfull⟩ := Shake.exists_reachable hpolicy hentry
  have hsound : ∀ m ∈ ms, Relation.ReflTransGen (Mentions d) entry m :=
    fun m hm => (hfull.mem_iff.1 hm).mentioned
  refine ⟨ms, hms, gives_reach_of_some v hms, ?_, hsound,
    Shake.keepsNamed_iff (hfull.mem_iff.2 .refl) hsound, hfull.keepsNamed⟩
  intro m hm body hbody line hline f s hleft hx
  exact hfull.mem_of_leftmost hm hbody hline hleft hx

/-- A module that names two others in one line and the second of them again in the next line. -/
def twoLines : Declarations :=
  { entries :=
      [(['c'], Text.ofString "type T = import('a').A | import('b').B;\nexport * from 'b';"),
        (['a'], Text.ofString "export declare class A {}"),
        (['b'], Text.ofString "export declare class B {}")] }

/-- The second line makes up for the first, and nothing that is named is lost. -/
theorem reach_keepsNamed_iff_twoLines :
    ['c'] ∈ twoLines.ids ∧
      reachable twoLines ['c'] .allImports = some [['c'], ['b'], ['a']] ∧
      KeepsNamed twoLines [['c'], ['b'], ['a']] ∧
      ∀ x, Relation.ReflTransGen (Mentions twoLines) ['c'] x → x ∈ [['c'], ['b'], ['a']] := by
  have hentry : ['c'] ∈ twoLines.ids := by decide
  have hwalk : reachable twoLines ['c'] .allImports = some [['c'], ['b'], ['a']] := by
    rw [Shake.reachable_of_mem (by decide) hentry, Option.some.injEq]
    calc Shake.visit twoLines .allImports [] [['c']]
        = Shake.visit twoLines .allImports [['c']] [['b'], ['a']] :=
          Shake.visit_of_new (by decide) rfl (by decide)
      _ = Shake.visit twoLines .allImports [['c'], ['b']] [['a']] :=
          Shake.visit_of_new (by decide) rfl (by decide)
      _ = Shake.visit twoLines .allImports [['c'], ['b'], ['a']] [] :=
          Shake.visit_of_new (by decide) rfl (by decide)
      _ = [['c'], ['b'], ['a']] := by rw [Shake.visit]
  have hall : twoLines.ids ⊆ [['c'], ['b'], ['a']] := by decide
  have hkeeps : KeepsNamed twoLines [['c'], ['b'], ['a']] := by
    rintro m _ x ⟨_, _, _, hx⟩
    exact hall hx
  obtain ⟨ms, hms, _, _, _, hiff, _⟩ := reach_keepsNamed_iff atRoot.voice twoLines hentry
  rw [hwalk, Option.some.injEq] at hms
  subst hms
  exact ⟨hentry, hwalk, hkeeps, hiff.1 hkeeps⟩

/-- A module that names two others in one line. -/
def oneLine : Declarations :=
  { entries :=
      [(['c'], Text.ofString "type T = import('a').A | import('b').B;"),
        (['a'], Text.ofString "export declare class A {}"),
        (['b'], Text.ofString "export declare class B {}")] }

/-- The second module that the line names is declared and left out. -/
theorem second_module_dropped :
    reachable oneLine ['c'] .allImports = some [['c'], ['a']] ∧ Mentions oneLine ['c'] ['b'] ∧
      ¬ KeepsNamed oneLine [['c'], ['a']] := by
  have hwalk : reachable oneLine ['c'] .allImports = some [['c'], ['a']] := by
    rw [Shake.reachable_of_mem (by decide) (by decide), Option.some.injEq]
    calc Shake.visit oneLine .allImports [] [['c']]
        = Shake.visit oneLine .allImports [['c']] [['a']] :=
          Shake.visit_of_new (by decide) rfl (by decide)
      _ = Shake.visit oneLine .allImports [['c'], ['a']] [] :=
          Shake.visit_of_new (by decide) rfl (by decide)
      _ = [['c'], ['a']] := by rw [Shake.visit]
  let line : Text := Text.ofString "type T = import('a').A | import('b').B;"
  have hsite : ⟨Text.ofString "type T = import('a').A | import('", ['b'], Text.ofString "').B;"⟩ ∈
      Import.sites .dynamic line := by decide
  obtain ⟨hs, hline⟩ := Import.mem_sites.1 hsite
  have hmentions : Mentions oneLine ['c'] ['b'] :=
    ⟨line, by decide, ⟨line, by decide, .dynamic, _, hs, hline, rfl⟩, by decide⟩
  refine ⟨hwalk, hmentions, fun hkeeps => ?_⟩
  have hkept : ['b'] ∈ [['c'], ['a']] := hkeeps ['c'] (by decide) ['b'] hmentions
  exact absurd hkept (by decide)

end Bundle.Aggregator
end AmbientBundle
