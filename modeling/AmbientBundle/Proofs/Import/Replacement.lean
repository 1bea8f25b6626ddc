import AmbientBundle.Proofs.Import.Resolved

/-!
# What resolving replaces

`Replaced` relates a line to the line after one form of it has been redirected, with no
mention of how sites are searched for: the specifier of the first site is replaced if it is
relative, and otherwise the line stays as it is.  All that is in front of the specifier and all
that follows it, the quotes included, is the same on both sides.  A line has exactly one other
side (`replaced_iff`).

A processed line comes from its line by a static replacement and then a dynamic one, and the
resolved source is its processed lines put together, as many as the source has
(`resolve_replaces`).  Where no first specifier is relative, resolving only unifies the line
endings.
-/

namespace AmbientBundle
namespace Import

/-! ## First sites -/

/-- The first site of a form in a line. -/
structure Form.IsFirst (f : Form) (line : Text) (s : Site) : Prop where
  /-- It is a site of the form. -/
  site : f.IsSite s
  /-- It stands in the line. -/
  line_eq : s.line = line
  /-- No other site of the form has less in front of it. -/
  least : ∀ u, f.IsSite u → u.line = line → s.before.length ≤ u.before.length

theorem leftmost_eq_some_iff_isFirst {f : Form} {line : Text} {s : Site} :
    leftmost f line = some s ↔ f.IsFirst line s := by
  rw [leftmost_eq_some_iff]
  exact ⟨fun h => ⟨h.1, h.2.1, h.2.2⟩, fun h => ⟨h.site, h.line_eq, h.least⟩⟩

/-- A line has one first site of a form at most. -/
theorem Form.IsFirst.unique {f : Form} {line : Text} {s u : Site} (hs : f.IsFirst line s)
    (hu : f.IsFirst line u) : s = u :=
  Option.some.inj
    ((leftmost_eq_some_iff_isFirst.2 hs).symm.trans (leftmost_eq_some_iff_isFirst.2 hu))

namespace Resolver

/-! ## One line -/

/-- A line before and after the first specifier of a form is replaced, if it is relative. -/
inductive Replaced (r : Resolver) (owner : Text) (f : Form) : Text → Text → Prop where
  /-- A relative specifier becomes its target. -/
  | specifier (s : Site) (first : f.IsFirst s.line s) (relative : isRelative s.specifier = true) :
      Replaced r owner f s.line (s.before ++ r.target s.specifier owner ++ s.after)
  /-- Any other line stays as it is. -/
  | nothing (line : Text) (foreign : ∀ s, f.IsFirst line s → isRelative s.specifier = false) :
      Replaced r owner f line line

/-- A line before and after both forms of it are redirected. -/
def Processed (r : Resolver) (owner line line' : Text) : Prop :=
  ∃ between, Replaced r owner .static line between ∧ Replaced r owner .dynamic between line'

variable {r : Resolver} {f : Form} {owner line line' : Text}

/-- Redirecting a form replaces what it should. -/
theorem replaced_redirectForm (r : Resolver) (f : Form) (owner line : Text) :
    r.Replaced owner f line (r.redirectForm f owner line) := by
  cases hleft : leftmost f line with
  | none =>
    rw [redirectForm, relativeSite?, hleft]
    refine .nothing line fun s hs => ?_
    rw [leftmost_eq_some_iff_isFirst.2 hs] at hleft
    cases hleft
  | some s =>
    have hfirst := leftmost_eq_some_iff_isFirst.1 hleft
    cases hrel : isRelative s.specifier with
    | false =>
      simp only [redirectForm, relativeSite?, hleft, hrel, Bool.false_eq_true, if_false]
      exact .nothing line fun u hu => hu.unique hfirst ▸ hrel
    | true =>
      simp only [redirectForm, relativeSite?, hleft, hrel, if_true]
      obtain rfl := hfirst.line_eq
      exact .specifier s hfirst hrel

/-- What should be replaced leaves no choice. -/
theorem Replaced.eq_redirectForm (h : r.Replaced owner f line line') :
    line' = r.redirectForm f owner line := by
  cases h with
  | specifier s first relative =>
    simp only [redirectForm, relativeSite?, leftmost_eq_some_iff_isFirst.2 first, relative, if_true,
      Site.withSpecifier]
  | nothing _ foreign =>
    cases hleft : leftmost f line with
    | none => rw [redirectForm, relativeSite?, hleft]
    | some s =>
      have hrel := foreign s (leftmost_eq_some_iff_isFirst.1 hleft)
      simp only [redirectForm, relativeSite?, hleft, hrel, Bool.false_eq_true, if_false]

theorem replaced_iff : r.Replaced owner f line line' ↔ line' = r.redirectForm f owner line :=
  ⟨Replaced.eq_redirectForm, fun h => h ▸ replaced_redirectForm r f owner line⟩

theorem processed_iff : r.Processed owner line line' ↔ line' = r.resolveLine owner line := by
  simp only [Processed, replaced_iff, exists_eq_left, resolveLine]

/-- Where no first specifier is relative, a line stays as it is. -/
theorem resolveLine_of_foreign
    (h : ∀ f s, Form.IsFirst f line s → isRelative s.specifier = false) :
    r.resolveLine owner line = line :=
  (processed_iff.1 ⟨line, .nothing line (h .static), .nothing line (h .dynamic)⟩).symm

/-! ## Sources -/

/-- Lines that are each processed are the resolved lines. -/
theorem forall₂_processed_iff {lines lines' : List Text} :
    List.Forall₂ (r.Processed owner) lines lines' ↔ lines' = lines.map (r.resolveLine owner) := by
  rw [forall₂_iff_map_eq (R := r.Processed owner) fun _ _ => processed_iff.trans eq_comm, eq_comm]

/-- A resolved source is its processed lines, one for each line of the source, with LF between
them; there is no choice in processing them, and where no first specifier is relative only the
line endings change. -/
theorem resolve_replaces (r : Resolver) (source owner : Text) :
    (∃ lines, r.resolve source owner = Text.joinLines lines ∧
      lines.length = source.splitLines.length ∧
      ∀ lines', List.Forall₂ (r.Processed owner) source.splitLines lines' ↔ lines' = lines) ∧
    ((∀ line ∈ source.splitLines, ∀ f s, Form.IsFirst f line s → isRelative s.specifier = false) →
      r.resolve source owner = Text.unifyEndings source) := by
  refine ⟨⟨source.splitLines.map (r.resolveLine owner), rfl, List.length_map _,
    fun lines' => forall₂_processed_iff⟩, fun hforeign => ?_⟩
  have hlines : source.splitLines.map (r.resolveLine owner) = source.splitLines := by
    rw [List.map_congr_left fun line hline => resolveLine_of_foreign (hforeign line hline),
      List.map_id']
  rw [resolve, hlines, Text.joinLines_splitLines]

/-- Two lines with imports of packages, one of them next to a relative name that is no import. -/
def packageImports : Text :=
  Text.ofString "import z from 'zod';\r\nlet s = './a'; type T = import(\"winston\").T;"

/-- Nothing is replaced in them. -/
theorem resolve_replaces_packageImports :
    (∀ line ∈ packageImports.splitLines, ∀ f s, Form.IsFirst f line s →
      isRelative s.specifier = false) ∧
    demo.resolve packageImports (Text.ofString "demo/c") = Text.unifyEndings packageImports := by
  have hnone : ∀ line ∈ packageImports.splitLines, ∀ f, NoRelative f line := by decide
  have hforeign : ∀ line ∈ packageImports.splitLines, ∀ f s, Form.IsFirst f line s →
      isRelative s.specifier = false :=
    fun line hline f s hs => hnone line hline f s hs.site hs.line_eq
  exact ⟨hforeign, (resolve_replaces demo packageImports (Text.ofString "demo/c")).2 hforeign⟩

/-- Neither an empty name in front of an import nor the same name elsewhere in the line is
replaced. -/
example : demo.resolve (Text.ofString "let s = './a'; // from '' from './a\"; import('./b' )")
      (Text.ofString "demo/sub/c") =
    Text.ofString "let s = './a'; // from '' from 'demo/sub/a/index\"; import('./b' )" := by
  decide

end Resolver
end Import
end AmbientBundle
