import AmbientBundle.Proofs.Import.Grammar
import AmbientBundle.Proofs.Reachability

/-!
# Re-exports among imports

Following re-exports and following imports read a line in two ways.  A re-export is searched for
behind the first `export ` of the line, an import from the front of the line.  What is found
behind an `export ` is a static site of the line (`exists_site_of_leftmostExport`), though not
always the leftmost one, as in `from 'a'; export * from 'b'`.

Every static site starts where `from ` and a quote stand.  In a line with no more than one such
place there is no more than one static site, so both ways find the same one
(`specifier?_of_leftmostExport`).  Then the references that count as re-exports are some of those
that count as imports, and an entry reaches no more through them.
-/

namespace AmbientBundle
namespace Import

/-! ## Sites behind an export -/

/-- What a line re-exports stands in a static site of the line. -/
theorem exists_site_of_leftmostExport {line x : Text} (h : leftmostExport line = some x) :
    ∃ s, Form.static.IsSite s ∧ s.line = line ∧ s.specifier = x := by
  obtain ⟨rest, ⟨front, rfl, -⟩, gap, hstands, -⟩ := exports_iff.2 h
  obtain ⟨q, q', back, hq, hq', rfl⟩ := hstands.cut
  refine ⟨⟨front ++ exportWord ++ gap ++ [' '] ++ Form.static.opening ++ [q], x, q' :: back⟩,
    ⟨⟨_, q, rfl, hq⟩, hstands.filled, hstands.bare, q', back, rfl, hq'⟩, ?_, rfl⟩
  simp [Site.line, fromWord]

/-! ## Lines with one opening -/

/-- Where `from ` stands before no more than one quote, a re-export is the leftmost static specifier
of the line. -/
theorem specifier?_of_leftmostExport {line x : Text} (hone : Form.static.openings line ≤ 1)
    (h : leftmostExport line = some x) : specifier? .static line = some x := by
  obtain ⟨s, hs, hline, hspec⟩ := exists_site_of_leftmostExport h
  rw [specifier?, hs.leftmost_of_openings hone hline, Option.map_some, hspec]

-- With a second opening the two ways part.
example : leftmostExport (Text.ofString "from 'a'; export * from 'b'") = some ['b'] ∧
    specifier? .static (Text.ofString "from 'a'; export * from 'b'") = some ['a'] := by
  decide

/-! ## References -/

/-- A choice that agrees with another one wherever it chooses leaves a part of what the other
leaves. -/
theorem filterMap_sublist {α β : Type} {f g : α → Option β} {l : List α}
    (h : ∀ a ∈ l, ∀ b, f a = some b → g a = some b) : (l.filterMap f).Sublist (l.filterMap g) := by
  induction l with
  | nil => exact List.Sublist.slnil
  | cons a rest ih =>
    have hrest := ih fun a' ha' => h a' (List.mem_cons_of_mem _ ha')
    cases hf : f a with
    | none =>
      rw [List.filterMap_cons_none hf]
      cases hg : g a with
      | none => rwa [List.filterMap_cons_none hg]
      | some b =>
        rw [List.filterMap_cons_some hg]
        exact hrest.cons b
    | some b =>
      rw [List.filterMap_cons_some hf, List.filterMap_cons_some (h a List.mem_cons_self b hf)]
      exact hrest.cons_cons b

/-- The re-exports of a source are some of its imports, in the same order. -/
theorem references_exportOnly_sublist {body : Text}
    (hone : ∀ line ∈ body.splitLines, Form.static.openings line ≤ 1) :
    (references body .exportOnly).Sublist (references body .allImports) := by
  have hstatic : (body.splitLines.filterMap leftmostExport).Sublist
      (body.splitLines.filterMap (specifier? .static)) :=
    filterMap_sublist fun line hline x hx => specifier?_of_leftmostExport (hone line hline) hx
  exact hstatic.trans (List.sublist_append_left _ _)

end Import

namespace Shake

/-- An entry reaches no more where every module refers to no more. -/
theorem Reaches.mono {d : Declarations} {policy policy' : ShakePolicy} {entry m : ModuleId}
    (h : ∀ k body, d.find? k = some body →
      Import.references body policy ⊆ Import.references body policy')
    (hm : Reaches d policy entry m) : Reaches d policy' entry m := by
  refine Relation.ReflTransGen.mono (fun k r hstep => ?_) entry m hm
  obtain ⟨body, hbody, href, hids⟩ := hstep
  exact ⟨body, hbody, h k body hbody href, hids⟩

end Shake

namespace Bundle.Aggregator

open Shake (Explored reachable)

/-- Where `from ` stands before a quote no more than once in a line, the re-exports of each module
are some of its imports, in the same order, and what an entry reaches through re-exports it reaches
through imports. -/
theorem reach_exportOnly_subset (v : Voice) (d : Declarations) {entry : ModuleId}
    (hentry : entry ∈ d.ids)
    (hone : ∀ e ∈ d.entries, ∀ line ∈ e.2.splitLines, Import.Form.static.openings line ≤ 1) :
    (∀ e ∈ d.entries,
      (Import.references e.2 .exportOnly).Sublist (Import.references e.2 .allImports)) ∧
    ∃ narrow wide,
      reachable d entry .exportOnly = some narrow ∧
      reachable d entry .allImports = some wide ∧
      (reach v d entry .exportOnly).Gives (.ok narrow) ∧
      (reach v d entry .allImports).Gives (.ok wide) ∧ narrow ⊆ wide := by
  have hrefs : ∀ e ∈ d.entries,
      (Import.references e.2 .exportOnly).Sublist (Import.references e.2 .allImports) :=
    fun e he => Import.references_exportOnly_sublist (hone e he)
  have hexportOnly : ShakePolicy.exportOnly ≠ .off := by decide
  have hallImports : ShakePolicy.allImports ≠ .off := by decide
  obtain ⟨narrow, hnarrow, hexports⟩ := Shake.exists_reachable hexportOnly hentry
  obtain ⟨wide, hwide, himports⟩ := Shake.exists_reachable hallImports hentry
  refine ⟨hrefs, narrow, wide, hnarrow, hwide, gives_reach_of_some v hnarrow,
    gives_reach_of_some v hwide, fun m hm => ?_⟩
  refine himports.mem_iff.2 (Shake.Reaches.mono ?_ (hexports.mem_iff.1 hm))
  intro k body hbody
  exact (hrefs (k, body) (Declarations.find?_eq_some_iff.1 hbody)).subset

/-- Three modules.  The first one re-exports the second in a line that names it behind other words,
and imports the third, which re-exports the first. -/
def outlet : Declarations :=
  { entries :=
      [(['a'],
          Text.ofString "import C from \"c\"; // from c\nexport { B as from } from 'b'; from x;"),
        (['b'], Text.ofString "export declare class B {}"),
        (['c'], Text.ofString "export * from 'a';")] }

/-- The first module reaches the second through re-exports, and all three through imports. -/
theorem reach_exportOnly_subset_outlet :
    ['a'] ∈ outlet.ids ∧
      (∀ e ∈ outlet.entries, ∀ line ∈ e.2.splitLines, Import.Form.static.openings line ≤ 1) ∧
      reachable outlet ['a'] .exportOnly = some [['a'], ['b']] ∧
      reachable outlet ['a'] .allImports = some [['a'], ['c'], ['b']] ∧
      [['a'], ['b']] ⊆ [['a'], ['c'], ['b']] := by
  have hentry : ['a'] ∈ outlet.ids := by decide
  have hone : ∀ e ∈ outlet.entries, ∀ line ∈ e.2.splitLines,
      Import.Form.static.openings line ≤ 1 := by decide
  have hnarrow : reachable outlet ['a'] .exportOnly = some [['a'], ['b']] := by
    rw [Shake.reachable_of_mem (by decide) hentry, Option.some.injEq]
    calc Shake.visit outlet .exportOnly [] [['a']]
        = Shake.visit outlet .exportOnly [['a']] [['b']] :=
          Shake.visit_of_new (by decide) rfl (by decide)
      _ = Shake.visit outlet .exportOnly [['a'], ['b']] [] :=
          Shake.visit_of_new (by decide) rfl (by decide)
      _ = [['a'], ['b']] := by rw [Shake.visit]
  have hwide : reachable outlet ['a'] .allImports = some [['a'], ['c'], ['b']] := by
    rw [Shake.reachable_of_mem (by decide) hentry, Option.some.injEq]
    calc Shake.visit outlet .allImports [] [['a']]
        = Shake.visit outlet .allImports [['a']] [['c'], ['b']] :=
          Shake.visit_of_new (by decide) rfl (by decide)
      _ = Shake.visit outlet .allImports [['a'], ['c']] [['b']] :=
          Shake.visit_of_new (by decide) rfl (by decide)
      _ = Shake.visit outlet .allImports [['a'], ['c'], ['b']] [] :=
          Shake.visit_of_new (by decide) rfl (by decide)
      _ = [['a'], ['c'], ['b']] := by rw [Shake.visit]
  obtain ⟨_, narrow, wide, hexports, himports, _, _, hsub⟩ :=
    reach_exportOnly_subset atRoot.voice outlet hentry hone
  rw [hnarrow, Option.some.injEq] at hexports
  rw [hwide, Option.some.injEq] at himports
  subst hexports himports
  exact ⟨hentry, hone, hnarrow, hwide, hsub⟩

end Bundle.Aggregator
end AmbientBundle
