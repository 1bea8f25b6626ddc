import AmbientBundle.Text.Lines

/-!
# Pieces and lines

Joining adds the separator and nothing else, and cutting adds nothing
(`mem_joinWith`, `mem_of_mem_splitOn`).  Replacing goes through a text from the left: a word
is replaced where it starts, and any other character stays (`replaceAll_append`,
`replaceAll_cons`).  A line of a source holds neither of the two
characters that end lines, and lines without them come back from their join
(`splitLines_joinLines`), so a source can be changed line by line.
-/

namespace AmbientBundle
namespace Text

/-! ## Pieces -/

/-- A character of joined pieces is the separator or in one of the pieces. -/
theorem mem_joinWith {c d : Char} {ps : List Text} (h : d ∈ joinWith c ps) :
    d = c ∨ ∃ p ∈ ps, d ∈ p := by
  induction ps with
  | nil => cases h
  | cons p rest ih =>
    cases rest with
    | nil => exact Or.inr ⟨p, List.mem_cons_self, h⟩
    | cons q more =>
      rw [joinWith, List.mem_append, List.mem_cons] at h
      rcases h with h | h | h
      · exact Or.inr ⟨p, List.mem_cons_self, h⟩
      · exact Or.inl h
      · rcases ih h with h | ⟨x, hx, h⟩
        · exact Or.inl h
        · exact Or.inr ⟨x, List.mem_cons_of_mem _ hx, h⟩

theorem mem_joinWith_of_mem {c d : Char} {p : Text} {ps : List Text} (hp : p ∈ ps) (h : d ∈ p) :
    d ∈ joinWith c ps := by
  induction ps with
  | nil => cases hp
  | cons q rest ih =>
    cases rest with
    | nil =>
      rw [List.mem_singleton] at hp
      subst hp
      exact h
    | cons r more =>
      rw [joinWith, List.mem_append, List.mem_cons]
      rcases List.mem_cons.1 hp with rfl | hp
      · exact Or.inl h
      · exact Or.inr (Or.inr (ih hp))

/-- A character of a piece is in the text. -/
theorem mem_of_mem_splitOn {c d : Char} {t p : Text} (hp : p ∈ splitOn c t) (h : d ∈ p) :
    d ∈ t := by
  rw [← joinWith_splitOn c t]
  exact mem_joinWith_of_mem hp h

/-- A separator ends a piece wherever it stands. -/
theorem splitOn_append (c : Char) (t rest : Text) :
    splitOn c (t ++ c :: rest) = splitOn c t ++ splitOn c rest := by
  induction t with
  | nil => simp [splitOn]
  | cons d more ih =>
    rw [List.cons_append, splitOn, splitOn, ih]
    split
    · rfl
    · cases hpieces : splitOn c more with
      | nil => exact absurd hpieces (splitOn_ne_nil c more)
      | cons piece pieces => rfl

/-- Joining two lists of pieces puts one separator between them. -/
theorem joinWith_append {c : Char} {ps qs : List Text} (hp : ps ≠ []) (hq : qs ≠ []) :
    joinWith c (ps ++ qs) = joinWith c ps ++ c :: joinWith c qs := by
  induction ps with
  | nil => exact absurd rfl hp
  | cons p rest ih =>
    cases rest with
    | nil =>
      cases qs with
      | nil => exact absurd rfl hq
      | cons q more => rfl
    | cons r more =>
      rw [List.cons_append, List.cons_append, joinWith, joinWith, ← List.cons_append,
        ih (by simp), List.append_assoc, List.cons_append]

/-- What follows the last piece follows the join. -/
theorem joinWith_concat_append (c : Char) (ps : List Text) (last more : Text) :
    joinWith c (ps ++ [last ++ more]) = joinWith c (ps ++ [last]) ++ more := by
  by_cases hp : ps = []
  · subst hp
    rfl
  · rw [joinWith_append hp (List.cons_ne_nil _ _), joinWith_append hp (List.cons_ne_nil _ _)]
    simp only [joinWith, List.append_assoc, List.cons_append]

/-- Pieces of which the first is not empty have a join that starts as it does. -/
theorem joinWith_cons_cons (c d : Char) (p : Text) (ps : List Text) :
    ∃ t, joinWith c ((d :: p) :: ps) = d :: t := by
  cases ps with
  | nil => exact ⟨p, rfl⟩
  | cons q more => exact ⟨_, rfl⟩

/-! ## Replacing words -/

/-- A word at the front of a text. -/
theorem startsWith_iff {t w : Text} : startsWith t w = true ↔ w <+: t := by
  rw [startsWith, Option.isSome_iff_exists]
  simp only [dropWord?_eq_some_iff, List.IsPrefix, eq_comm (a := t)]

/-- A word that is found is replaced. -/
theorem replaceAll_append {w : Text} (hw : w ≠ []) (new rest : Text) :
    replaceAll w new (w ++ rest) = new ++ replaceAll w new rest := by
  obtain ⟨c, x, rfl⟩ := List.exists_cons_of_ne_nil hw
  have hskip (y : Text) : replaceAllFrom (c :: x) new y.length (y ++ rest) =
      replaceAllFrom (c :: x) new 0 rest := by
    induction y with
    | nil => rfl
    | cons d y ih => exact ih
  have hstart : startsWith (c :: (x ++ rest)) (c :: x) = true :=
    startsWith_iff.2 (List.prefix_append (c :: x) rest)
  rw [replaceAll, List.cons_append, replaceAllFrom, if_pos hstart, List.length_cons,
    Nat.add_sub_cancel, hskip, ← replaceAll]

/-- A character where the word does not start is kept. -/
theorem replaceAll_cons {w : Text} {c : Char} {rest : Text} (h : ¬ w <+: c :: rest) (new : Text) :
    replaceAll w new (c :: rest) = c :: replaceAll w new rest := by
  rw [replaceAll, replaceAllFrom, if_neg fun hstart => h (startsWith_iff.1 hstart), ← replaceAll]

/-- Where a character of the word is missing, nothing is replaced. -/
theorem replaceAll_of_not_mem {w t : Text} {d : Char} (hd : d ∈ w) (h : d ∉ t) (new : Text) :
    replaceAll w new t = t := by
  induction t with
  | nil => rfl
  | cons c rest ih =>
    have hstart : ¬ w <+: c :: rest := fun hpre => h (hpre.subset hd)
    rw [replaceAll_cons hstart, ih fun hmem => h (List.mem_cons_of_mem c hmem)]

section

variable (a b : Char)

theorem replaceAll_pair_single (new : Text) (c : Char) : replaceAll [a, b] new [c] = [c] := by
  have hstart : ¬ [a, b] <+: [c] := fun h => absurd h.length_le (by simp)
  rw [replaceAll_cons hstart]
  rfl

theorem replaceAll_pair (new : Text) (c d : Char) (rest : Text) :
    replaceAll [a, b] new (c :: d :: rest) =
      if c = a ∧ d = b then new ++ replaceAll [a, b] new rest
      else c :: replaceAll [a, b] new (d :: rest) := by
  split
  · next h =>
    obtain ⟨rfl, rfl⟩ := h
    exact replaceAll_append (List.cons_ne_nil _ _) new rest
  · next h =>
    have hstart : ¬ [a, b] <+: c :: d :: rest := by
      simpa [List.cons_prefix_cons, eq_comm] using h
    rw [replaceAll_cons hstart]

end

/-! ## Lines -/

theorem unifyCrLf_eq (t : Text) : unifyCrLf t = replaceAll ['\r', '\n'] ['\n'] t := by
  fun_induction unifyCrLf t with
  | case1 => rfl
  | case2 c => rw [replaceAll_pair_single]
  | case3 c d rest hcd ih => rw [replaceAll_pair, if_pos hcd, ih, List.singleton_append]
  | case4 c d rest hcd ih => rw [replaceAll_pair, if_neg hcd, ih]

theorem unifyLfCr_eq (t : Text) : unifyLfCr t = replaceAll ['\n', '\r'] ['\n'] t := by
  fun_induction unifyLfCr t with
  | case1 => rfl
  | case2 c => rw [replaceAll_pair_single]
  | case3 c d rest hcd ih => rw [replaceAll_pair, if_pos hcd, ih, List.singleton_append]
  | case4 c d rest hcd ih => rw [replaceAll_pair, if_neg hcd, ih]

theorem unifyCr_eq (t : Text) : unifyCr t = replaceAll ['\r'] ['\n'] t := by
  induction t with
  | nil => rfl
  | cons c rest ih =>
    rw [unifyCr, List.map_cons, ← unifyCr, ih]
    split
    · next hc =>
      subst hc
      exact (replaceAll_append (List.cons_ne_nil '\r' []) ['\n'] rest).symm
    · next hc =>
      have hstart : ¬ ['\r'] <+: c :: rest := fun h => hc (List.cons_prefix_cons.1 h).1.symm
      rw [replaceAll_cons hstart]

/-- Endings are unified by three replacements, each of them over the whole text. -/
theorem unifyEndings_eq (t : Text) :
    unifyEndings t = replaceAll ['\r'] ['\n']
      (replaceAll ['\n', '\r'] ['\n'] (replaceAll ['\r', '\n'] ['\n'] t)) := by
  rw [unifyEndings, unifyCr_eq, unifyLfCr_eq, unifyCrLf_eq]

/-- Unified text has no CR. -/
theorem cr_not_mem_unifyEndings (t : Text) : '\r' ∉ unifyEndings t := by
  rw [unifyEndings, unifyCr, List.mem_map]
  rintro ⟨c, _, hc⟩
  split at hc
  · exact absurd hc (by decide)
  · next hne => exact hne hc

/-- Text without CR is unified. -/
theorem unifyEndings_of_no_cr {t : Text} (h : '\r' ∉ t) : unifyEndings t = t := by
  have hkept (w : Text) (hw : '\r' ∈ w) : replaceAll w ['\n'] t = t :=
    replaceAll_of_not_mem hw h _
  rw [unifyEndings_eq, hkept ['\r', '\n'] (by decide), hkept ['\n', '\r'] (by decide),
    hkept ['\r'] (by decide)]

/-- A line holds no line ending. -/
theorem ending_not_mem_of_mem_splitLines {t line : Text} (h : line ∈ splitLines t) :
    '\n' ∉ line ∧ '\r' ∉ line :=
  ⟨not_mem_of_mem_splitOn h,
    fun hcr => cr_not_mem_unifyEndings t (mem_of_mem_splitOn h hcr)⟩

theorem splitLines_ne_nil (t : Text) : splitLines t ≠ [] := splitOn_ne_nil _ _

/-- Lines without line endings come back from their join. -/
theorem splitLines_joinLines {ls : List Text} (hne : ls ≠ [])
    (h : ∀ l ∈ ls, '\n' ∉ l ∧ '\r' ∉ l) : splitLines (joinLines ls) = ls := by
  have hcr : '\r' ∉ joinLines ls := by
    intro hmem
    rcases mem_joinWith hmem with heq | ⟨l, hl, hmem⟩
    · exact absurd heq (by decide)
    · exact (h l hl).2 hmem
  rw [splitLines, unifyEndings_of_no_cr hcr]
  exact splitOn_joinWith hne fun l hl => (h l hl).1

end Text
end AmbientBundle
