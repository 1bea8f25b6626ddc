import Mathlib.Data.List.Basic
import AmbientBundle.Bundle.Alias
import AmbientBundle.Proofs.Import.Site

/-!
# Ambient marks and identifiers

An ambient mark is the word `declare` with a blank after it.  Marks are dropped wherever they
stand, also at the end of a longer word.  What that does to the identifiers of a source is said
here, for any reading of letters and digits.

A text is cut in front of the marks and behind the characters that are in no identifier
(`Pieces`), and everything follows these pieces.  A mark that is *glued* to an identifier in
front of it shortens that identifier, and joins what is left of it with what comes next.
The identifiers are those of the source without some words `declare` exactly if every such
identifier gets its end back: what comes next has to be `declare` again
(`dropMarks_keeps_identifiers_iff`).
-/

namespace AmbientBundle
namespace Bundle

/-- The word of an ambient mark. -/
def markWord : Text := ['d', 'e', 'c', 'l', 'a', 'r', 'e']

theorem ambientMark_eq : ambientMark = markWord ++ [' '] := rfl

/-! ## Identifiers -/

/-- What letters and digits are. -/
structure Alphabet where
  /-- Whether a character is a letter. -/
  letter : Char → Bool
  /-- Whether a character is a digit. -/
  digit : Char → Bool
  /-- The letters `a` to `z` and `A` to `Z` are letters. -/
  latin : ∀ c : Char, c.isAlpha = true → letter c = true
  /-- The blank is neither a letter nor a digit. -/
  blank : letter ' ' = false ∧ digit ' ' = false

namespace Alphabet

/-- The alphabet that has no other letters and digits than those of ASCII. -/
def ascii : Alphabet where
  letter := Char.isAlpha
  digit := Char.isDigit
  latin := fun _ => id
  blank := by decide

/-- Whether a character belongs to identifiers. -/
def joins (a : Alphabet) (c : Char) : Bool := a.letter c || a.digit c || c = '_' || c = '$'

/-- The identifiers of a text: its longest runs of letters, digits, `_` and `$`. -/
def identifiers (a : Alphabet) (t : Text) : List Text :=
  (t.splitOnP fun c => !a.joins c).filter (· ≠ [])

/-- The identifier that a text starts with; there may be none. -/
def front (a : Alphabet) (t : Text) : Text := t.takeWhile a.joins

/-- A text that is all one identifier, or empty. -/
def Run (a : Alphabet) (w : Text) : Prop := ∀ c ∈ w, a.joins c = true

variable {a : Alphabet}

theorem run_nil : a.Run [] := fun _ h => absurd h List.not_mem_nil

theorem Run.append {w u : Text} (hw : a.Run w) (hu : a.Run u) : a.Run (w ++ u) :=
  List.forall_mem_append.2 ⟨hw, hu⟩

theorem Run.of_suffix {w u : Text} (hw : a.Run w) (h : u <:+ w) : a.Run u :=
  fun c hc => hw c (h.subset hc)

theorem run_markWord : a.Run markWord := by
  intro c hc
  have halpha : markWord.all Char.isAlpha = true := by decide
  rw [joins, a.latin c (List.all_eq_true.1 halpha c hc)]
  rfl

theorem joins_blank : a.joins ' ' = false := by
  rw [joins, a.blank.1, a.blank.2]
  rfl

/-- A character that is in no identifier ends what is in front of it. -/
theorem identifiers_append_cons {c : Char} (hc : a.joins c = false) (x y : Text) :
    a.identifiers (x ++ c :: y) = a.identifiers x ++ a.identifiers y := by
  rw [identifiers, List.splitOnP_append_cons x y (by rw [hc]; rfl), List.filter_append]
  rfl

/-- The identifiers of a run. -/
theorem identifiers_run {w : Text} (hw : a.Run w) :
    a.identifiers w = if w = [] then [] else [w] := by
  rw [identifiers, List.splitOnP_eq_singleton fun c hc => by rw [hw c hc]; rfl]
  split
  · next hnil => rw [hnil]; rfl
  · next hne => rw [List.filter_cons_of_pos (by simpa using hne), List.filter_nil]

/-- A run in front of a character that is in no identifier. -/
theorem front_append_cons {w : Text} (hw : a.Run w) {c : Char}
    (hc : a.joins c = false) (y : Text) : a.front (w ++ c :: y) = w := by
  rw [front, List.takeWhile_append_of_pos hw, List.takeWhile_cons_of_neg (by rw [hc]; decide),
    List.append_nil]

theorem front_run {w : Text} (hw : a.Run w) : a.front w = w :=
  List.takeWhile_eq_self_iff.2 hw

/-- A text is a run, or a run and a character that is in no identifier and a rest. -/
theorem run_or_cut (a : Alphabet) (t : Text) :
    a.Run t ∨
      ∃ w c y, t = w ++ c :: y ∧ a.Run w ∧ a.joins c = false := by
  induction t with
  | nil => exact Or.inl run_nil
  | cons d t ih =>
    cases hd : a.joins d with
    | false => exact Or.inr ⟨[], d, t, rfl, run_nil, hd⟩
    | true =>
      rcases ih with hall | ⟨w, c, y, rfl, hw, hc⟩
      · exact Or.inl (List.forall_mem_cons.2 ⟨hd, hall⟩)
      · exact Or.inr ⟨d :: w, c, y, rfl, List.forall_mem_cons.2 ⟨hd, hw⟩, hc⟩

/-- What stands in front of a text continues its first identifier and leaves the others. -/
theorem identifiers_append (t : Text) : ∃ more,
    a.identifiers t = (if a.front t = [] then [] else [a.front t]) ++ more ∧
      ∀ w, w ≠ [] → a.Run w →
        a.identifiers (w ++ t) = (w ++ a.front t) :: more := by
  rcases a.run_or_cut t with hall | ⟨u, c, y, rfl, hu, hc⟩
  · refine ⟨[], by rw [identifiers_run hall, front_run hall, List.append_nil], fun w hne hw => ?_⟩
    rw [identifiers_run (hw.append hall), front_run hall,
      if_neg fun h => hne (List.append_eq_nil_iff.1 h).1]
  · refine ⟨a.identifiers y, ?_, fun w hne hw => ?_⟩
    · rw [identifiers_append_cons hc, identifiers_run hu, front_append_cons hu hc]
    · rw [← List.append_assoc, identifiers_append_cons hc,
        identifiers_run (hw.append hu), front_append_cons hu hc,
        if_neg fun h => hne (List.append_eq_nil_iff.1 h).1, List.singleton_append]

end Alphabet

/-! ## Dropping marks -/

theorem dropMarks_mark (rest : Text) : dropMarks (ambientMark ++ rest) = dropMarks rest :=
  Text.replaceAll_append (by decide) [] rest

theorem dropMarks_cons {c : Char} {rest : Text} (h : ¬ ambientMark <+: c :: rest) :
    dropMarks (c :: rest) = c :: dropMarks rest :=
  Text.replaceAll_cons h []

/-- A text in which no mark starts stays as it is. -/
theorem dropMarks_append {x rest : Text}
    (h : ∀ z, z ≠ [] → z <:+ x → ¬ ambientMark <+: z ++ rest) :
    dropMarks (x ++ rest) = x ++ dropMarks rest := by
  induction x with
  | nil => rfl
  | cons c x ih =>
    have hfirst : ¬ ambientMark <+: c :: (x ++ rest) :=
      h (c :: x) (List.cons_ne_nil c x) List.suffix_rfl
    rw [List.cons_append, dropMarks_cons hfirst,
      ih fun z hz hsuffix => h z hz (hsuffix.trans (List.suffix_cons c x)), List.cons_append]

variable {a : Alphabet}

/-- There is no mark in a run. -/
theorem not_mark_of_run {w : Text} (hw : a.Run w) : ¬ ambientMark <+: w := by
  intro h
  have hblank := hw ' ' (h.subset (by decide))
  rw [Alphabet.joins_blank] at hblank
  cases hblank

/-- A mark that starts in a run ends with the character behind it. -/
theorem eq_markWord_of_start {z : Text} (hz : a.Run z) {c : Char} (hc : a.joins c = false)
    {y : Text} (h : ambientMark <+: z ++ c :: y) : z = markWord ∧ c = ' ' := by
  obtain ⟨r, hr⟩ := h
  rw [ambientMark_eq, List.append_assoc, List.singleton_append] at hr
  have hfront := congrArg a.front hr
  rw [Alphabet.front_append_cons Alphabet.run_markWord Alphabet.joins_blank,
    Alphabet.front_append_cons hz hc] at hfront
  rw [← hfront, List.append_cancel_left_eq, List.cons.injEq] at hr
  exact ⟨hfront.symm, hr.1.symm⟩

/-- A text in pieces: runs, each with the character that ends it or with the mark at its end. -/
inductive Pieces (a : Alphabet) : Text → Prop where
  /-- A run at the end of the text. -/
  | run (w : Text) (hw : a.Run w) : Pieces a w
  /-- A run that is not ended by a mark. -/
  | cut (w : Text) (c : Char) (y : Text) (hw : a.Run w) (hc : a.joins c = false)
      (hmark : ∀ pre, w = pre ++ markWord → c ≠ ' ') (h : Pieces a y) : Pieces a (w ++ c :: y)
  /-- A run with a mark behind it. -/
  | mark (pre y : Text) (hpre : a.Run pre) (h : Pieces a y) : Pieces a (pre ++ (ambientMark ++ y))

/-- Every text is in pieces. -/
theorem pieces (a : Alphabet) (t : Text) : Pieces a t := by
  induction hn : t.length using Nat.strongRecOn generalizing t with
  | ind n ih =>
    rcases a.run_or_cut t with hrun | ⟨w, c, y, rfl, hw, hc⟩
    · exact .run t hrun
    · have hy : Pieces a y := ih y.length (by rw [← hn]; simp; omega) y rfl
      by_cases hmark : c = ' ' ∧ ∃ pre, w = pre ++ markWord
      · obtain ⟨rfl, pre, rfl⟩ := hmark
        have hpre : a.Run pre := fun c hc => hw c (List.mem_append_left _ hc)
        rw [List.append_assoc]
        exact .mark pre y hpre hy
      · exact .cut w c y hw hc (fun pre hpre hblank => hmark ⟨hblank, pre, hpre⟩) hy

theorem dropMarks_run {w : Text} (hw : a.Run w) : dropMarks w = w := by
  have hfree : ∀ z, z ≠ [] → z <:+ w → ¬ ambientMark <+: z ++ [] := by
    intro z _ hsuffix
    rw [List.append_nil]
    exact not_mark_of_run (hw.of_suffix hsuffix)
  have hdropped := dropMarks_append hfree
  rwa [List.append_nil, show dropMarks [] = [] from rfl, List.append_nil] at hdropped

theorem dropMarks_cut {w : Text} {c : Char} {y : Text} (hw : a.Run w) (hc : a.joins c = false)
    (hmark : ∀ pre, w = pre ++ markWord → c ≠ ' ') :
    dropMarks (w ++ c :: y) = w ++ c :: dropMarks y := by
  have hcut : ¬ ambientMark <+: c :: y := fun h =>
    absurd (eq_markWord_of_start (a := a) (z := []) Alphabet.run_nil hc h).1 (by decide)
  rw [← dropMarks_cons hcut]
  refine dropMarks_append fun z _ hsuffix hprefix => ?_
  obtain ⟨rfl, hblank⟩ := eq_markWord_of_start (hw.of_suffix hsuffix) hc hprefix
  obtain ⟨pre, hpre⟩ := hsuffix
  exact hmark pre hpre.symm hblank

theorem dropMarks_run_mark {pre : Text} (hpre : a.Run pre) (y : Text) :
    dropMarks (pre ++ (ambientMark ++ y)) = pre ++ dropMarks y := by
  rw [← dropMarks_mark y]
  refine dropMarks_append fun z hz hsuffix hprefix => ?_
  rw [ambientMark_eq, List.append_assoc, List.singleton_append, ← List.append_assoc,
    ← ambientMark_eq] at hprefix
  have heq := (eq_markWord_of_start ((hpre.of_suffix hsuffix).append Alphabet.run_markWord)
    Alphabet.joins_blank hprefix).1
  exact hz (List.append_left_eq_self.1 heq)

/-! ## Words that are dropped -/

/-- Words without some of those that are `declare`. -/
inductive OnlyMarksDropped : List Text → List Text → Prop where
  /-- No words. -/
  | nil : OnlyMarksDropped [] []
  /-- A word stays. -/
  | keep (w : Text) {ws vs : List Text} (h : OnlyMarksDropped ws vs) :
      OnlyMarksDropped (w :: ws) (w :: vs)
  /-- The word `declare` is dropped. -/
  | drop {ws vs : List Text} (h : OnlyMarksDropped ws vs) : OnlyMarksDropped (markWord :: ws) vs

/-- The words that are not `declare`. -/
def others (ws : List Text) : List Text := ws.filter (· ≠ markWord)

namespace OnlyMarksDropped

variable {ws vs us : List Text}

theorem refl (ws : List Text) : OnlyMarksDropped ws ws := by
  induction ws with
  | nil => exact .nil
  | cons w ws ih => exact .keep w ih

theorem append_left (us : List Text) (h : OnlyMarksDropped ws vs) :
    OnlyMarksDropped (us ++ ws) (us ++ vs) := by
  induction us with
  | nil => exact h
  | cons u us ih => exact .keep u ih

/-- All other words stay. -/
theorem others_eq (h : OnlyMarksDropped ws vs) : others ws = others vs := by
  induction h with
  | nil => rfl
  | keep w _ ih =>
    rw [others, others, List.filter_cons, List.filter_cons]
    split
    · exact congrArg (w :: ·) ih
    · exact ih
  | drop _ ih => exact ih

/-- A word `declare` that was kept can be dropped as well. -/
theorem of_cons (h : OnlyMarksDropped ws (markWord :: vs)) : OnlyMarksDropped ws vs := by
  generalize hus : markWord :: vs = us at h
  induction h with
  | nil => cases hus
  | keep w h _ =>
    cases hus
    exact .drop h
  | drop _ ih => exact .drop (ih hus)

end OnlyMarksDropped

/-! ## Glued marks -/

/-- A mark of a text stands directly behind a character of an identifier, and `after` is what
follows the mark. -/
def Glued (a : Alphabet) (t after : Text) : Prop :=
  ∃ before c, a.joins c = true ∧ t = before ++ c :: (ambientMark ++ after)

theorem not_glued_of_run {w : Text} (hw : a.Run w) (after : Text) : ¬ Glued a w after := by
  rintro ⟨before, c, -, rfl⟩
  refine not_mark_of_run (hw.of_suffix (u := ambientMark ++ after) ?_) (List.prefix_append _ _)
  exact ⟨before ++ [c], by rw [List.append_assoc, List.singleton_append]⟩

/-- A glued mark is the end of the first run, or further back. -/
theorem glued_append_cons_iff {w : Text} {c : Char} {y after : Text} (hw : a.Run w)
    (hc : a.joins c = false) :
    Glued a (w ++ c :: y) after ↔
      (∃ pre, pre ≠ [] ∧ w = pre ++ markWord ∧ c = ' ' ∧ after = y) ∨ Glued a y after := by
  constructor
  · rintro ⟨before, d, hd, heq⟩
    rcases List.append_eq_append_iff.1 heq with ⟨e, rfl, hrest⟩ | ⟨e, rfl, hrest⟩
    · -- The character in front of the mark is not the one that ends the run.
      cases e with
      | nil =>
        cases hrest
        rw [hc] at hd
        cases hd
      | cons x e =>
        cases hrest
        exact Or.inr ⟨e, d, hd, rfl⟩
    · cases e with
      | nil =>
        cases hrest
        rw [hc] at hd
        cases hd
      | cons x e =>
        simp only [List.cons_append, List.cons.injEq] at hrest
        obtain ⟨rfl, hmark⟩ := hrest
        have he : a.Run e :=
          hw.of_suffix ⟨before ++ [d], by rw [List.append_assoc, List.singleton_append]⟩
        obtain ⟨rfl, rfl⟩ := eq_markWord_of_start he hc ⟨after, hmark⟩
        rw [ambientMark_eq, List.append_assoc, List.append_cancel_left_eq, List.singleton_append,
          List.cons.injEq] at hmark
        refine Or.inl ⟨before ++ [d], ?_, ?_, rfl, hmark.2⟩
        · exact List.append_ne_nil_of_right_ne_nil before (List.cons_ne_nil d [])
        · rw [List.append_assoc, List.singleton_append]
  · rintro (⟨pre, hne, rfl, rfl, rfl⟩ | ⟨before, d, hd, rfl⟩)
    · rcases List.eq_nil_or_concat pre with rfl | ⟨front, d, rfl⟩
      · exact absurd rfl hne
      · rw [List.concat_eq_append] at hw ⊢
        refine ⟨front, d, hw d (by simp), ?_⟩
        simp only [ambientMark_eq, List.append_assoc, List.cons_append, List.nil_append]
    · exact ⟨w ++ c :: before, d, hd, by rw [List.append_assoc, List.cons_append]⟩

theorem glued_cut_iff {w : Text} {c : Char} {y after : Text} (hw : a.Run w)
    (hc : a.joins c = false) (hmark : ∀ pre, w = pre ++ markWord → c ≠ ' ') :
    Glued a (w ++ c :: y) after ↔ Glued a y after := by
  rw [glued_append_cons_iff hw hc, or_iff_right]
  rintro ⟨pre, -, hpre, hblank, -⟩
  exact hmark pre hpre hblank

theorem glued_run_mark_iff {pre y after : Text} (hpre : a.Run pre) :
    Glued a (pre ++ (ambientMark ++ y)) after ↔ pre ≠ [] ∧ after = y ∨ Glued a y after := by
  have hcut : pre ++ (ambientMark ++ y) = (pre ++ markWord) ++ ' ' :: y := by
    simp only [ambientMark_eq, List.append_assoc, List.singleton_append]
  rw [hcut, glued_append_cons_iff (hpre.append Alphabet.run_markWord) Alphabet.joins_blank]
  simp only [List.append_cancel_right_eq, true_and]
  constructor
  · rintro (⟨_, hne, rfl, hafter⟩ | h)
    · exact Or.inl ⟨hne, hafter⟩
    · exact Or.inr h
  · rintro (⟨hne, hafter⟩ | h)
    · exact Or.inl ⟨pre, hne, rfl, hafter⟩
    · exact Or.inr h

/-- Behind every glued mark comes another word `declare`, once the marks are dropped. -/
def GivesBack (a : Alphabet) (t : Text) : Prop :=
  ∀ after, Glued a t after → a.front (dropMarks after) = markWord

/-! ## What dropping marks does to identifiers -/

theorem others_append (ws vs : List Text) : others (ws ++ vs) = others ws ++ others vs :=
  List.filter_append _ _

theorem others_cons_of_ne {w : Text} (h : w ≠ markWord) (ws : List Text) :
    others (w :: ws) = w :: others ws :=
  List.filter_cons_of_pos (by simpa using h)

theorem others_cons_markWord (ws : List Text) : others (markWord :: ws) = others ws := rfl

theorem length_others_cons_le (w : Text) (ws : List Text) :
    (others (w :: ws)).length ≤ (others ws).length + 1 := by
  rw [others, List.filter_cons]
  split
  · exact Nat.le_refl _
  · exact Nat.le_succ _

/-- The identifiers of a run with a mark behind it. -/
theorem identifiers_run_mark {pre : Text} (hpre : a.Run pre) (y : Text) :
    a.identifiers (pre ++ (ambientMark ++ y)) = (pre ++ markWord) :: a.identifiers y := by
  have hne : pre ++ markWord ≠ [] := List.append_ne_nil_of_right_ne_nil pre (by decide)
  rw [ambientMark_eq, List.append_assoc, List.singleton_append, ← List.append_assoc,
    Alphabet.identifiers_append_cons Alphabet.joins_blank,
    Alphabet.identifiers_run (hpre.append Alphabet.run_markWord), if_neg hne, List.singleton_append]

theorem append_markWord_ne {pre : Text} (hne : pre ≠ []) : pre ++ markWord ≠ markWord :=
  fun h => hne (List.append_left_eq_self.1 h)

/-- Dropping marks makes no new identifiers. -/
theorem length_others_dropMarks_le (a : Alphabet) (t : Text) :
    (others (a.identifiers (dropMarks t))).length ≤ (others (a.identifiers t)).length := by
  induction pieces a t with
  | run w hw => rw [dropMarks_run hw]
  | cut w c y hw hc hmark _ ih =>
    rw [dropMarks_cut hw hc hmark, Alphabet.identifiers_append_cons hc,
      Alphabet.identifiers_append_cons hc, others_append, others_append, List.length_append,
      List.length_append]
    exact Nat.add_le_add_left ih _
  | mark pre y hpre _ ih =>
    rw [dropMarks_run_mark hpre, identifiers_run_mark hpre]
    by_cases hne : pre = []
    · subst hne
      exact ih
    · obtain ⟨more, hy, hjoined⟩ := a.identifiers_append (dropMarks y)
      rw [hjoined pre hne hpre, others_cons_of_ne (append_markWord_ne hne), List.length_cons]
      rw [hy, others_append, List.length_append] at ih
      exact (length_others_cons_le _ _).trans (by omega)

/-- If all other identifiers are there, every shortened one was given its end back. -/
theorem givesBack_of_others_eq {t : Text}
    (h : others (a.identifiers t) = others (a.identifiers (dropMarks t))) : GivesBack a t := by
  induction pieces a t with
  | run w hw => exact fun after hglued => absurd hglued (not_glued_of_run hw after)
  | cut w c y hw hc hmark _ ih =>
    rw [dropMarks_cut hw hc hmark, Alphabet.identifiers_append_cons hc,
      Alphabet.identifiers_append_cons hc, others_append, others_append,
      List.append_cancel_left_eq] at h
    exact fun after hglued => ih h after ((glued_cut_iff hw hc hmark).1 hglued)
  | mark pre y hpre _ ih =>
    rw [dropMarks_run_mark hpre, identifiers_run_mark hpre] at h
    by_cases hne : pre = []
    · subst hne
      intro after hglued
      rcases (glued_run_mark_iff hpre).1 hglued with ⟨hnil, -⟩ | hy
      · exact absurd rfl hnil
      · exact ih h after hy
    · obtain ⟨more, hy, hjoined⟩ := a.identifiers_append (dropMarks y)
      have hle := length_others_dropMarks_le a y
      rw [hy, others_append, List.length_append] at hle
      rw [hjoined pre hne hpre, others_cons_of_ne (append_markWord_ne hne)] at h
      -- The identifier in front has to be among the others, or there would be too few of them.
      have hother : pre ++ a.front (dropMarks y) ≠ markWord := by
        intro hmark
        rw [hmark, others_cons_markWord] at h
        have hlength := congrArg List.length h
        rw [List.length_cons] at hlength
        omega
      rw [others_cons_of_ne hother, List.cons.injEq, List.append_cancel_left_eq] at h
      obtain ⟨hfront, hmore⟩ := h
      have hrest : others (a.identifiers y) = others (a.identifiers (dropMarks y)) := by
        rw [hy, ← hfront]
        exact hmore
      intro after hglued
      rcases (glued_run_mark_iff hpre).1 hglued with ⟨-, rfl⟩ | hglued
      · exact hfront.symm
      · exact ih hrest after hglued

/-- If every shortened identifier is given its end back, only words `declare` are dropped. -/
theorem GivesBack.onlyMarksDropped {t : Text} (h : GivesBack a t) :
    OnlyMarksDropped (a.identifiers t) (a.identifiers (dropMarks t)) := by
  induction pieces a t with
  | run w hw =>
    rw [dropMarks_run hw]
    exact .refl _
  | cut w c y hw hc hmark _ ih =>
    rw [dropMarks_cut hw hc hmark, Alphabet.identifiers_append_cons hc,
      Alphabet.identifiers_append_cons hc]
    exact (ih fun after hglued => h after ((glued_cut_iff hw hc hmark).2 hglued)).append_left _
  | mark pre y hpre _ ih =>
    have hy := ih fun after hglued => h after ((glued_run_mark_iff hpre).2 (Or.inr hglued))
    rw [dropMarks_run_mark hpre, identifiers_run_mark hpre]
    by_cases hne : pre = []
    · subst hne
      exact .drop hy
    · have hfront := h y ((glued_run_mark_iff hpre).2 (Or.inl ⟨hne, rfl⟩))
      obtain ⟨more, hmore, hjoined⟩ := a.identifiers_append (dropMarks y)
      rw [hmore, hfront] at hy
      rw [hjoined pre hne hpre, hfront]
      exact .keep _ hy.of_cons

/-- The identifiers of a source without its marks are those of the source without some words
`declare`, exactly if every identifier that a mark shortens is given its end back. -/
theorem dropMarks_keeps_identifiers_iff (a : Alphabet) (source : Text) :
    OnlyMarksDropped (a.identifiers source) (a.identifiers (dropMarks source)) ↔
      ∀ before c after, source = before ++ c :: (ambientMark ++ after) → a.joins c = true →
        a.front (dropMarks after) = markWord := by
  constructor
  · intro h before c after hsource hc
    exact givesBack_of_others_eq h.others_eq after ⟨before, c, hc, hsource⟩
  · intro h
    refine GivesBack.onlyMarksDropped fun after hglued => ?_
    obtain ⟨before, c, hc, hsource⟩ := hglued
    exact h before c after hsource hc

/-- An identifier that is given its end back. -/
example : dropMarks (Text.ofString "var redeclare declare;") = Text.ofString "var redeclare;" := by
  decide

/-- A type whose name ends like a mark. -/
def redeclareSource : Text := Text.ofString "export type redeclare = string;"

/-- The type loses half of its name. -/
theorem redeclare_shortened :
    dropMarks redeclareSource = Text.ofString "export type re= string;" ∧
      ¬ OnlyMarksDropped (Alphabet.ascii.identifiers redeclareSource)
        (Alphabet.ascii.identifiers (dropMarks redeclareSource)) := by
  refine ⟨by decide, fun h => ?_⟩
  exact absurd h.others_eq (by decide)

end Bundle
end AmbientBundle
