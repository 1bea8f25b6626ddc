import AmbientBundle.Words
import AmbientBundle.Text.Blank
import AmbientBundle.Proofs.Text

/-!
# Words and lines of words

A word is written so that it is read back as itself, whatever it holds: `splitFrom_quote` says so
in front of any rest, by what the reading does between two pairs of quotes
(`splitFrom_single`) and with harmless characters (`splitFrom_harmless`).  Hence a line of
words is read back as these words (`split_join`), and only the line of no words is blank
(`isAllBlank_join`).
-/

namespace AmbientBundle
namespace Words

/-! ## Harmless characters -/

/-- A harmless character is a visible one of ASCII. -/
theorem toNat_of_isHarmless {c : Char} (h : isHarmless c = true) :
    0x20 < c.toNat ∧ c.toNat < 0x7f := by
  have hrange (a b : Char) (ha : 0x20 < a.toNat) (hb : b.toNat < 0x7f)
      (hab : (a ≤ c && c ≤ b) = true) : 0x20 < c.toNat ∧ c.toNat < 0x7f := by
    simp only [Bool.and_eq_true, decide_eq_true_eq, Char.le_def, UInt32.le_iff_toNat_le] at hab
    exact ⟨Nat.lt_of_lt_of_le ha hab.1, Nat.lt_of_le_of_lt hab.2 hb⟩
  simp only [isHarmless, Bool.or_eq_true, decide_eq_true_eq, or_assoc] at h
  rcases h with h | h | h | h
  · exact hrange 'a' 'z' (by decide) (by decide) h
  · exact hrange 'A' 'Z' (by decide) (by decide) h
  · exact hrange '0' '9' (by decide) (by decide) h
  · rcases h with rfl | rfl | rfl | rfl | rfl | rfl | rfl | rfl | rfl | rfl <;> decide

theorem isBlank_of_isHarmless {c : Char} (h : isHarmless c = true) : Text.isBlank c = false := by
  have hc := toNat_of_isHarmless h
  simp only [Text.isBlank, Bool.or_eq_false_iff, Bool.and_eq_false_iff, decide_eq_false_iff_not]
  omega

/-- No character with a meaning of its own is harmless. -/
theorem ne_of_isHarmless {c d : Char} (h : isHarmless c = true) (hd : isHarmless d = false) :
    c ≠ d := by
  rintro rfl
  rw [h] at hd
  cases hd

/-- A harmless character separates no words. -/
theorem isSpace_of_isHarmless {c : Char} (h : isHarmless c = true) : isSpace c = false := by
  simp only [isSpace, Bool.or_eq_false_iff, decide_eq_false_iff_not]
  exact ⟨⟨⟨ne_of_isHarmless h (by decide), ne_of_isHarmless h (by decide)⟩,
    ne_of_isHarmless h (by decide)⟩, ne_of_isHarmless h (by decide)⟩

/-! ## Reading a written word -/

theorem splitFrom_word_cons {c : Char} (h : isHarmless c = true) (w rest : Text) :
    splitFrom .word w (c :: rest) = splitFrom .word (w ++ [c]) rest := by
  rw [splitFrom, if_neg (by rw [isSpace_of_isHarmless h]; decide),
    if_neg (ne_of_isHarmless h (by decide)), if_neg (ne_of_isHarmless h (by decide)),
    if_neg (ne_of_isHarmless h (by decide))]

theorem splitFrom_between_cons {c : Char} (h : isHarmless c = true) (rest : Text) :
    splitFrom .between [] (c :: rest) = splitFrom .word [c] rest := by
  rw [splitFrom, if_neg (by rw [isSpace_of_isHarmless h]; decide),
    if_neg (ne_of_isHarmless h (by decide)), if_neg (ne_of_isHarmless h (by decide)),
    if_neg (ne_of_isHarmless h (by decide))]

/-- Harmless characters are read as they are. -/
theorem splitFrom_harmless {x : Text} (h : ∀ c ∈ x, isHarmless c = true) (w rest : Text) :
    splitFrom .word w (x ++ rest) = splitFrom .word (w ++ x) rest := by
  induction x generalizing w with
  | nil => rw [List.nil_append, List.append_nil]
  | cons c x ih =>
    rw [List.cons_append, splitFrom_word_cons (h c List.mem_cons_self),
      ih (fun d hd => h d (List.mem_cons_of_mem c hd)), List.append_assoc, List.singleton_append]

/-- A quote inside quotes is read as one quote, and the reading is inside quotes again. -/
theorem splitFrom_quoteMark (w rest : Text) :
    splitFrom .single w (quoteMark ++ rest) = splitFrom .single (w ++ ['\'']) rest := rfl

theorem splitFrom_single_cons {c : Char} (h : c ≠ '\'') (w rest : Text) :
    splitFrom .single w (c :: rest) = splitFrom .single (w ++ [c]) rest := by
  rw [splitFrom, if_neg h]

/-- What stands in single quotes is read as it was before it was written. -/
theorem splitFrom_single (x w rest : Text) :
    splitFrom .single w
        (x.flatMap (fun c => if c = '\'' then quoteMark else [c]) ++ '\'' :: rest) =
      splitFrom .word (w ++ x) rest := by
  induction x generalizing w with
  | nil => rw [List.append_nil]; rfl
  | cons c x ih =>
    rw [List.flatMap_cons, List.append_assoc]
    by_cases hc : c = '\''
    · subst hc
      rw [if_pos rfl, splitFrom_quoteMark, ih, List.append_assoc, List.singleton_append]
    · rw [if_neg hc, List.singleton_append, splitFrom_single_cons hc, ih, List.append_assoc,
        List.singleton_append]

/-- A word is written as it is, or in single quotes. -/
theorem quote_cases (w : Text) :
    (w ≠ [] ∧ (∀ c ∈ w, isHarmless c = true) ∧ quote w = w) ∨
      quote w = '\'' :: w.flatMap (fun c => if c = '\'' then quoteMark else [c]) ++ ['\''] := by
  rw [quote]
  split
  · next hnil =>
    subst hnil
    exact Or.inr rfl
  · next hne =>
    split
    · next hall => exact Or.inl ⟨hne, List.all_eq_true.1 hall, rfl⟩
    · exact Or.inr rfl

/-- A written word is read back, in front of anything. -/
theorem splitFrom_quote (w rest : Text) :
    splitFrom .between [] (quote w ++ rest) = splitFrom .word w rest := by
  rcases quote_cases w with ⟨hne, hall, hquote⟩ | hquote
  · rw [hquote]
    obtain ⟨c, x, rfl⟩ := List.exists_cons_of_ne_nil hne
    rw [List.cons_append, splitFrom_between_cons (hall c List.mem_cons_self),
      splitFrom_harmless fun d hd => hall d (List.mem_cons_of_mem c hd)]
    rfl
  · rw [hquote, List.cons_append, List.cons_append, List.append_assoc, List.singleton_append]
    exact splitFrom_single w [] rest

/-! ## Reading a line of words -/

/-- A line of words is read back as these words. -/
theorem split_join (ws : List Text) : split (join ws) = .ok ws := by
  rw [split, join]
  induction ws with
  | nil => rfl
  | cons w rest ih =>
    cases rest with
    | nil =>
      rw [List.map_singleton, Text.joinWith, ← List.append_nil (quote w), splitFrom_quote]
      rfl
    | cons v more =>
      rw [List.map_cons] at ih ⊢
      rw [List.map_cons, Text.joinWith, splitFrom_quote, splitFrom, if_pos (by decide), ih]

/-- A written word starts with something that is not blank. -/
theorem quote_eq_cons (w : Text) : ∃ c x, quote w = c :: x ∧ Text.isBlank c = false := by
  rcases quote_cases w with ⟨hne, hall, hquote⟩ | hquote
  · obtain ⟨c, x, rfl⟩ := List.exists_cons_of_ne_nil hne
    exact ⟨c, x, hquote, isBlank_of_isHarmless (hall c List.mem_cons_self)⟩
  · exact ⟨_, _, hquote, by decide⟩

/-- Only the line of no words is blank. -/
theorem isAllBlank_join {ws : List Text} : Text.isAllBlank (join ws) = true ↔ ws = [] := by
  constructor
  · intro h
    cases ws with
    | nil => rfl
    | cons w rest =>
      obtain ⟨c, x, hquote, hc⟩ := quote_eq_cons w
      obtain ⟨t, ht⟩ := Text.joinWith_cons_cons ' ' c x (rest.map quote)
      rw [join, List.map_cons, hquote, ht, Text.isAllBlank, List.all_cons, hc] at h
      cases h
  · rintro rfl
    rfl

end Words
end AmbientBundle
