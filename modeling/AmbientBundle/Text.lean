/-!
# Texts

A *text* is a list of characters.  Sources, module ids, specifiers, file names
and paths are all texts, so that every operation on them is a recursion over a
list and can be unfolded by a proof.  `String` is used only for messages.

Three operations carry the rest of the library.

* `splitOn c` cuts a text at every `c` and keeps the empty pieces.  `joinWith c`
  is its inverse: `joinWith_splitOn` says that nothing is lost, and
  `splitOn_joinWith` that pieces without `c` come back as they were.
* `replaceAll w new` replaces the occurrences of the word `w` from left to
  right, and never looks at a character twice.
* `replaceFirst w new` replaces the leftmost occurrence only.

Both replacements carry a count of the characters still to be skipped, which
makes them structural in the text.
-/

namespace AmbientBundle

/-- A sequence of characters. -/
abbrev Text := List Char

namespace Text

/-- The text of a string literal. -/
def ofString (s : String) : Text := s.toList

/-- A text as a string, for messages. -/
def toString (t : Text) : String := String.ofList t

/-! ## Cutting and joining -/

/-- Cut a text at every occurrence of a character; empty pieces are kept. -/
def splitOn (c : Char) : Text → List Text
  | [] => [[]]
  | d :: rest =>
      if d = c then [] :: splitOn c rest
      else
        match splitOn c rest with
        | [] => [[d]]
        | piece :: pieces => (d :: piece) :: pieces

/-- Put a character between neighbouring pieces. -/
def joinWith (c : Char) : List Text → Text
  | [] => []
  | [piece] => piece
  | piece :: next :: pieces => piece ++ c :: joinWith c (next :: pieces)

/-- There is always at least one piece. -/
theorem splitOn_ne_nil (c : Char) (t : Text) : splitOn c t ≠ [] := by
  cases t with
  | nil => simp [splitOn]
  | cons d rest =>
    rw [splitOn]
    split
    · simp
    · split <;> simp

/-- Joining the pieces of a text gives the text back. -/
theorem joinWith_splitOn (c : Char) (t : Text) : joinWith c (splitOn c t) = t := by
  induction t with
  | nil => rfl
  | cons d rest ih =>
    rw [splitOn]
    have hne := splitOn_ne_nil c rest
    cases hp : splitOn c rest with
    | nil => exact absurd hp hne
    | cons piece pieces =>
      rw [hp] at ih
      split
      · next hd =>
        subst hd
        simp [joinWith, ih]
      · cases pieces with
        | nil => simpa [joinWith] using ih
        | cons next more => simpa [joinWith] using ih

/-- A text without the separator is its own single piece. -/
theorem splitOn_of_not_mem {c : Char} {t : Text} (h : c ∉ t) : splitOn c t = [t] := by
  induction t with
  | nil => rfl
  | cons d rest ih =>
    simp only [List.mem_cons, not_or] at h
    rw [splitOn, ih h.2, if_neg (Ne.symm h.1)]

/-- The first separator ends the first piece. -/
theorem splitOn_append_cons {c : Char} {p : Text} (h : c ∉ p) (rest : Text) :
    splitOn c (p ++ c :: rest) = p :: splitOn c rest := by
  induction p with
  | nil => simp [splitOn]
  | cons d more ih =>
    simp only [List.mem_cons, not_or] at h
    rw [List.cons_append, splitOn, ih h.2, if_neg (Ne.symm h.1)]

/-- Pieces that do not hold the separator come back from their join. -/
theorem splitOn_joinWith {c : Char} {ps : List Text} (hne : ps ≠ []) (h : ∀ p ∈ ps, c ∉ p) :
    splitOn c (joinWith c ps) = ps := by
  induction ps with
  | nil => exact absurd rfl hne
  | cons p rest ih =>
    cases rest with
    | nil => simpa [joinWith] using splitOn_of_not_mem (h p (by simp))
    | cons q more =>
      rw [joinWith, splitOn_append_cons (h p (by simp)), ih (by simp)]
      intro x hx
      exact h x (by simp [List.mem_cons.1 hx])

/-- No piece holds the separator. -/
theorem not_mem_of_mem_splitOn {c : Char} {t p : Text} (h : p ∈ splitOn c t) : c ∉ p := by
  induction t generalizing p with
  | nil => simp [splitOn] at h; simp [h]
  | cons d rest ih =>
    rw [splitOn] at h
    split at h
    · rcases List.mem_cons.1 h with rfl | h
      · simp
      · exact ih h
    · next hd =>
      split at h
      · simp at h
        subst h
        simpa using Ne.symm hd
      · next piece pieces hp =>
        rw [hp] at ih
        rcases List.mem_cons.1 h with rfl | h
        · simp only [List.mem_cons, not_or]
          exact ⟨Ne.symm hd, ih (by simp)⟩
        · exact ih (by simp [h])

/-! ## Replacing words -/

/-- What is left of a text after a word at its front, if the word is there. -/
def dropWord? : Text → Text → Option Text
  | [], t => some t
  | _ :: _, [] => none
  | w :: ws, c :: t => if w = c then dropWord? ws t else none

/-- A text starts with a word exactly when something is left after it. -/
theorem dropWord?_eq_some_iff {w t r : Text} : dropWord? w t = some r ↔ t = w ++ r := by
  induction w generalizing t with
  | nil => simp [dropWord?]
  | cons d ws ih =>
    cases t with
    | nil => simp [dropWord?]
    | cons c t =>
      rw [dropWord?]
      split
      · next h => subst h; simp [ih]
      · next h => simp [Ne.symm h]

/-- Whether a text starts with a word. -/
def startsWith (t w : Text) : Bool := (dropWord? w t).isSome

/-- Replace the occurrences of a word, skipping the given number of characters first. -/
def replaceAllFrom (w new : Text) : Nat → Text → Text
  | _, [] => []
  | skip + 1, _ :: rest => replaceAllFrom w new skip rest
  | 0, c :: rest =>
      if startsWith (c :: rest) w then new ++ replaceAllFrom w new (w.length - 1) rest
      else c :: replaceAllFrom w new 0 rest

/-- Replace every occurrence of a non-empty word, from left to right. -/
def replaceAll (w new t : Text) : Text := replaceAllFrom w new 0 t

/-- Replace the leftmost occurrence of a non-empty word. -/
def replaceFirst (w new : Text) : Text → Text
  | [] => []
  | c :: rest =>
      match dropWord? w (c :: rest) with
      | some after => new ++ after
      | none => c :: replaceFirst w new rest

/-! ## Letters -/

/-- Lower-case the letters `A` to `Z`.  The words that are looked up after this are all
written with the letters `a` to `z` other than `k`, and no other character has a lower-case
form made of such letters, so the result is one of those words exactly when it would be
under the full case mapping. -/
def lower (t : Text) : Text := t.map Char.toLower

end Text

end AmbientBundle
