import Mathlib.Data.List.ReduceOption
import AmbientBundle.Proofs.Import.Site

/-!
# What a line contributes

A line names a module where an opening, a quote, a specifier, a quote and a closing stand one
after the other (`Stands`).  It contributes the specifier that has the least in front of it, and
nothing if there is no such place at all (`Least`).  References are read by four searches from left
to right, for static and for dynamic specifiers, for the word `export ` and for the specifier behind
it; one lemma says of all of them that they find what has the least in front (`Search.least_iff`).

A re-export is searched for behind the first `export ` of its line, and behind no other: what stands
behind a later one stands behind the first one as well.
-/

namespace AmbientBundle
namespace Import

/-! ## The least in front -/

section

variable {α : Type}

/-- Of all that stands in a text, with something in front of it, what has the least in front;
nothing if nothing stands there. -/
def Least (P : Text → Text → α → Prop) (t : Text) : Option α → Prop
  | none => ∀ front a, ¬ P t front a
  | some a => ∃ front, P t front a ∧ ∀ front' a', P t front' a' → front.length ≤ front'.length

/-- A search from left to right for what stands in a text. -/
structure Search (P : Text → Text → α → Prop) (at? search : Text → Option α) : Prop where
  /-- Nothing stands in the empty text. -/
  nowhere : ∀ front a, ¬ P [] front a
  /-- What has something in front of it stands in the rest of the text. -/
  behind : ∀ c t d front a, P (c :: t) (d :: front) a ↔ c = d ∧ P t front a
  /-- What has nothing in front of it is known. -/
  here : ∀ t a, at? t = some a ↔ P t [] a
  /-- The search ends with the text. -/
  search_nil : search [] = none
  /-- The search goes on where nothing is found. -/
  search_cons : ∀ c t, search (c :: t) = (at? (c :: t)).or (search t)

namespace Search

variable {P : Text → Text → α → Prop} {at? search : Text → Option α}

/-- The place decides what stands there. -/
theorem unique (h : Search P at? search) {t front front' : Text} {a a' : α} (ha : P t front a)
    (ha' : P t front' a') (hlen : front.length = front'.length) : a = a' := by
  induction front generalizing t front' with
  | nil =>
    obtain rfl := List.eq_nil_of_length_eq_zero hlen.symm
    exact Option.some.inj (((h.here t a).2 ha).symm.trans ((h.here t a').2 ha'))
  | cons d front ih =>
    obtain ⟨d', front', rfl⟩ := List.exists_cons_of_length_eq_add_one hlen.symm
    cases t with
    | nil => exact absurd ha (h.nowhere _ a)
    | cons c t =>
      exact ih ((h.behind c t d front a).1 ha).2 ((h.behind c t d' front' a').1 ha').2
        (Nat.succ.inj hlen)

/-- The search finds what has the least in front. -/
theorem least_search (h : Search P at? search) (t : Text) : Least P t (search t) := by
  induction t with
  | nil =>
    rw [h.search_nil]
    exact h.nowhere
  | cons c t ih =>
    rw [h.search_cons]
    cases hat : at? (c :: t) with
    | some a => exact ⟨[], (h.here _ a).1 hat, fun _ _ _ => Nat.zero_le _⟩
    | none =>
      -- Nothing stands here, so what stands in the text stands in its rest.
      have hrest {front a} (ha : P (c :: t) front a) :
          ∃ front', front = c :: front' ∧ P t front' a := by
        cases front with
        | nil =>
          rw [← h.here, hat] at ha
          cases ha
        | cons d front' =>
          obtain ⟨rfl, ha'⟩ := (h.behind c t d front' a).1 ha
          exact ⟨front', rfl, ha'⟩
      rw [Option.none_or]
      cases hsearch : search t with
      | none =>
        rw [hsearch] at ih
        intro front a ha
        obtain ⟨front', -, ha'⟩ := hrest ha
        exact ih front' a ha'
      | some a =>
        rw [hsearch] at ih
        obtain ⟨front, ha, hleast⟩ := ih
        refine ⟨c :: front, (h.behind c t c front a).2 ⟨rfl, ha⟩, fun front' a' ha' => ?_⟩
        obtain ⟨front'', rfl, ha''⟩ := hrest ha'
        exact Nat.succ_le_succ (hleast front'' a' ha'')

theorem least_iff (h : Search P at? search) {t : Text} {o : Option α} :
    Least P t o ↔ search t = o := by
  refine ⟨fun ho => ?_, fun heq => heq ▸ h.least_search t⟩
  have hfound := h.least_search t
  cases hsearch : search t with
  | none =>
    rw [hsearch] at hfound
    cases o with
    | none => rfl
    | some a =>
      obtain ⟨front, ha, -⟩ := ho
      exact absurd ha (hfound front a)
  | some a =>
    rw [hsearch] at hfound
    obtain ⟨front, ha, hleast⟩ := hfound
    cases o with
    | none => exact absurd ha (ho front a)
    | some a' =>
      obtain ⟨front', ha', hleast'⟩ := ho
      have hlen := Nat.le_antisymm (hleast front' a' ha') (hleast' front a ha)
      rw [h.unique ha ha' hlen]

end Search

end

/-! ## Specifiers -/

/-- A specifier stands in a text, with something in front of its opening. -/
structure Stands (opening closing : Text) (t front x : Text) : Prop where
  /-- There is a specifier. -/
  filled : x ≠ []
  /-- No quote stands inside. -/
  bare : ∀ c ∈ x, isQuote c = false
  /-- The opening and a quote stand before it, a quote and the closing behind it. -/
  cut : ∃ q q' back, isQuote q = true ∧ isQuote q' = true ∧
    t = front ++ (opening ++ q :: (x ++ q' :: (closing ++ back)))

section

variable {opening closing t front x : Text}

theorem Stands.prepend (h : Stands opening closing t front x) (pre : Text) :
    Stands opening closing (pre ++ t) (pre ++ front) x where
  filled := h.filled
  bare := h.bare
  cut := by
    obtain ⟨q, q', back, hq, hq', rfl⟩ := h.cut
    exact ⟨q, q', back, hq, hq', by rw [List.append_assoc]⟩

theorem not_stands_nil : ¬ Stands opening closing [] front x := by
  intro h
  obtain ⟨q, q', back, -, -, heq⟩ := h.cut
  simp at heq

theorem stands_cons_iff (c d : Char) :
    Stands opening closing (c :: t) (d :: front) x ↔ c = d ∧ Stands opening closing t front x := by
  constructor
  · intro h
    obtain ⟨q, q', back, hq, hq', heq⟩ := h.cut
    rw [List.cons_append, List.cons.injEq] at heq
    exact ⟨heq.1, h.filled, h.bare, q, q', back, hq, hq', heq.2⟩
  · rintro ⟨rfl, h⟩
    exact h.prepend [c]

/-- The specifier of an opening at the front of a text. -/
def clause? (opening closing t : Text) : Option Text :=
  (Text.dropWord? opening t).bind fun rest => (quoted? closing rest).map fun r => r.2.1

theorem clause?_eq_some_iff :
    clause? opening closing t = some x ↔ Stands opening closing t [] x := by
  simp only [clause?, Option.bind_eq_some_iff, Option.map_eq_some_iff, Prod.exists,
    Text.dropWord?_eq_some_iff, quoted?_eq_some_iff]
  constructor
  · rintro ⟨rest, rfl, q, x', after, ⟨rfl, hq, hfilled, hbare, q', back, rfl, hq'⟩, rfl⟩
    exact ⟨hfilled, hbare, q, q', back, hq, hq', rfl⟩
  · intro h
    obtain ⟨q, q', back, hq, hq', rfl⟩ := h.cut
    exact ⟨_, rfl, q, x, _, ⟨rfl, hq, h.filled, h.bare, q', back, rfl, hq'⟩, rfl⟩

/-- A search that asks for a clause at each place. -/
theorem search_stands {search : Text → Option Text} (hnil : search [] = none)
    (hcons : ∀ c t, search (c :: t) = (clause? opening closing (c :: t)).or (search t)) :
    Search (Stands opening closing) (clause? opening closing) search where
  nowhere := fun _ _ => not_stands_nil
  behind := fun c _ d _ _ => stands_cons_iff c d
  here := fun _ _ => clause?_eq_some_iff
  search_nil := hnil
  search_cons := hcons

end

theorem specifier_at? (f : Form) (t : Text) :
    (f.at? t).map Site.specifier = clause? f.opening f.closing t := by
  rw [Form.at?, clause?]
  cases Text.dropWord? f.opening t with
  | none => rfl
  | some rest =>
    simp only [Option.bind_some]
    cases quoted? f.closing rest with
    | none => rfl
    | some r => rfl

/-- Of the specifiers of a form, the leftmost one is found. -/
theorem least_specifier?_iff {f : Form} {line : Text} {o : Option Text} :
    Least (Stands f.opening f.closing) line o ↔ specifier? f line = o := by
  refine (search_stands rfl fun c t => ?_).least_iff
  rw [specifier?, leftmost, ← specifier_at?]
  cases f.at? (c :: t) with
  | some s => rfl
  | none =>
    simp only [Option.map_none, Option.none_or, Option.map_map]
    rfl

/-! ## Re-exports -/

/-- What stands before the quote of a re-export. -/
def fromWord : Text := ' ' :: Form.static.opening

/-- Of the specifiers behind ` from `, the leftmost one is found. -/
theorem least_leftmostFrom_iff {t : Text} {o : Option Text} :
    Least (Stands fromWord []) t o ↔ leftmostFrom t = o := by
  refine (search_stands rfl fun c t => ?_).least_iff
  have hclause : fromClause? (c :: t) = clause? fromWord [] (c :: t) := by
    rw [fromClause?, clause?, fromWord]
    cases Text.dropWord? (' ' :: Form.static.opening) (c :: t) with
    | none => rfl
    | some rest => rfl
  rw [leftmostFrom, hclause]
  cases clause? fromWord [] (c :: t) with
  | some x => rfl
  | none => rfl

/-- A word stands in a text, with something in front and something behind it. -/
def Follows (w t front rest : Text) : Prop := t = front ++ (w ++ rest)

theorem search_afterFirst? {w : Text} (hw : w ≠ []) :
    Search (Follows w) (Text.dropWord? w) (afterFirst? w) where
  nowhere := by
    intro front rest h
    exact hw (List.append_eq_nil_iff.1 (List.append_eq_nil_iff.1 h.symm).2).1
  behind := by
    intro c t d front rest
    simp only [Follows, List.cons_append, List.cons.injEq]
  here := fun _ _ => Text.dropWord?_eq_some_iff
  search_nil := rfl
  search_cons := by
    intro c t
    rw [afterFirst?]
    cases Text.dropWord? w (c :: t) with
    | some rest => rfl
    | none => rfl

/-- What a line re-exports: the leftmost specifier behind its first `export `; nothing if there is
no specifier behind any `export `. -/
def Exports (line : Text) : Option Text → Prop
  | none => ∀ front rest, Follows exportWord line front rest →
      ∀ gap x, ¬ Stands fromWord [] rest gap x
  | some x => ∃ rest, Least (Follows exportWord) line (some rest) ∧
      Least (Stands fromWord []) rest (some x)

/-- What stands behind a word stands behind every earlier place of that word. -/
theorem Stands.of_later {opening closing w line front front' rest rest' gap x : Text}
    (hearlier : Follows w line front rest) (hlater : Follows w line front' rest')
    (hle : front.length ≤ front'.length) (h : Stands opening closing rest' gap x) :
    ∃ gap', Stands opening closing rest gap' x := by
  have hbehind : rest <:+ line := ⟨front ++ w, by rw [List.append_assoc]; exact hearlier.symm⟩
  have hbehind' : rest' <:+ line := ⟨front' ++ w, by rw [List.append_assoc]; exact hlater.symm⟩
  have hlength : rest'.length ≤ rest.length := by
    have hsame := congrArg List.length (Eq.trans hearlier.symm hlater)
    simp only [List.length_append] at hsame
    omega
  obtain ⟨pre, rfl⟩ := List.suffix_of_suffix_length_le hbehind' hbehind hlength
  exact ⟨pre ++ gap, h.prepend pre⟩

theorem exports_iff {line : Text} {o : Option Text} :
    Exports line o ↔ leftmostExport line = o := by
  have hword := search_afterFirst? (w := exportWord) (by decide)
  have hbind : leftmostExport line = (afterFirst? exportWord line).bind leftmostFrom := by
    rw [leftmostExport]
    cases afterFirst? exportWord line with
    | none => rfl
    | some rest => rfl
  have hsome (x : Text) : Exports line (some x) ↔ leftmostExport line = some x := by
    rw [hbind, Option.bind_eq_some_iff]
    exact exists_congr fun rest => and_congr hword.least_iff least_leftmostFrom_iff
  cases o with
  | some x => exact hsome x
  | none =>
    constructor
    · intro hnone
      rw [Option.eq_none_iff_forall_ne_some]
      intro x hx
      obtain ⟨rest, ⟨front, hfirst, -⟩, gap, hstands, -⟩ := (hsome x).2 hx
      exact hnone front rest hfirst gap x hstands
    · intro hnone front' rest' hlater gap x hstands
      have hfirst := hword.least_search line
      cases hafter : afterFirst? exportWord line with
      | none =>
        rw [hafter] at hfirst
        exact hfirst front' rest' hlater
      | some rest =>
        rw [hafter] at hfirst
        obtain ⟨front, hfollows, hleast⟩ := hfirst
        obtain ⟨gap', hstands'⟩ := hstands.of_later hfollows hlater (hleast front' rest' hlater)
        rw [hbind, hafter, Option.bind_some] at hnone
        exact least_leftmostFrom_iff.2 hnone gap' x hstands'

/-! ## Sources -/

/-- What each line contributes, with the lines that contribute nothing left out. -/
theorem filterMap_eq_iff {f : Text → Option Text} {R : Text → Option Text → Prop}
    (h : ∀ line o, R line o ↔ f line = o) (lines xs : List Text) :
    lines.filterMap f = xs ↔ ∃ os, List.Forall₂ R lines os ∧ xs = os.reduceOption := by
  simp only [forall₂_iff_map_eq h, exists_eq_left']
  rw [List.reduceOption, List.filterMap_map, eq_comm]
  rfl

/-- The references of a source are what its lines contribute, line by line.  Those read as imports
are the leftmost static specifiers of all lines and then the leftmost dynamic ones, also where
shaking is off.  Those read as re-exports are the leftmost specifiers behind the first `export ` of
each line. -/
theorem references_lineGrammar (source : Text) (xs : List Text) :
    (references source .allImports = xs ↔ ∃ statics dynamics,
      List.Forall₂ (Least (Stands Form.static.opening Form.static.closing)) source.splitLines
        statics ∧
      List.Forall₂ (Least (Stands Form.dynamic.opening Form.dynamic.closing)) source.splitLines
        dynamics ∧
      xs = statics.reduceOption ++ dynamics.reduceOption) ∧
    references source .off = references source .allImports ∧
    (references source .exportOnly = xs ↔ ∃ exports,
      List.Forall₂ Exports source.splitLines exports ∧ xs = exports.reduceOption) := by
  refine ⟨?_, rfl, filterMap_eq_iff (R := Exports) (fun _ _ => exports_iff) source.splitLines xs⟩
  have hread (f : Form) (ys : List Text) := filterMap_eq_iff
    (R := Least (Stands f.opening f.closing)) (fun _ _ => least_specifier?_iff) source.splitLines ys
  constructor
  · rintro rfl
    obtain ⟨statics, hstatics, heq⟩ := (hread .static _).1 rfl
    obtain ⟨dynamics, hdynamics, heq'⟩ := (hread .dynamic _).1 rfl
    exact ⟨statics, dynamics, hstatics, hdynamics, by rw [← heq, ← heq']; rfl⟩
  · rintro ⟨statics, dynamics, hstatics, hdynamics, rfl⟩
    rw [← (hread .static _).2 ⟨statics, hstatics, rfl⟩,
      ← (hread .dynamic _).2 ⟨dynamics, hdynamics, rfl⟩]
    rfl

-- A quote that opens nothing, a call that is not closed, and a second `export `.
example : references (Text.ofString "x from '' from 'a\"; import('b' ); import(\"c')")
      .allImports = [['a'], ['c']] ∧
    references (Text.ofString "export from 'a'; export * from '' from 'b'") .exportOnly =
      [['b']] := by
  decide

end Import
end AmbientBundle
