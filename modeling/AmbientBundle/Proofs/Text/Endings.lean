import AmbientBundle.Proofs.Text

/-!
# Line endings

A source may end its lines with CR LF, LF CR or CR instead of LF.  `Ending.write` puts one of these
in the place of every LF, and unifying the endings takes it back (`unifyEndings_write`).

Endings are unified by three replacements, each of them over the whole text.  The first one looks
for CR LF and finds it also where two endings LF CR meet: it turns a run of such endings into as
many LF with one CR behind the last of them, and the second one takes that CR away
(`unifyLfCr_write`).

Whatever mix of endings a text has, no replacement touches a character that ends no line, so the
lines put together are the text without CR and LF (`flatten_splitLines`).
-/

namespace AmbientBundle
namespace Text

/-! ## Writing endings -/

/-- The endings that a line may have instead of LF. -/
inductive Ending where
  /-- CR LF. -/
  | crLf
  /-- LF CR. -/
  | lfCr
  /-- CR. -/
  | cr
  deriving DecidableEq, Repr

namespace Ending

/-- The characters of an ending. -/
def text : Ending → Text
  | .crLf => ['\r', '\n']
  | .lfCr => ['\n', '\r']
  | .cr => ['\r']

/-- A text with an ending in the place of every LF. -/
def write (e : Ending) (t : Text) : Text := replaceAll ['\n'] e.text t

end Ending

/-! ## Taking an ending back -/

theorem replaceAll_lf (new t : Text) :
    replaceAll ['\n'] new ('\n' :: t) = new ++ replaceAll ['\n'] new t :=
  replaceAll_append (List.cons_ne_nil '\n' []) new t

/-- A word that starts with another character is not found here. -/
theorem replaceAll_of_ne {a c : Char} (h : c ≠ a) (x new t : Text) :
    replaceAll (a :: x) new (c :: t) = c :: replaceAll (a :: x) new t :=
  replaceAll_cons (fun hpre => h (List.cons_prefix_cons.1 hpre).1.symm) new

section

variable {t : Text}

/-- An ending is taken back in a text that has not the first character of it. -/
theorem replaceAll_back {a : Char} (h : a ∉ t) (x : Text) :
    replaceAll (a :: x) ['\n'] (replaceAll ['\n'] (a :: x) t) = t := by
  induction t with
  | nil => rfl
  | cons c rest ih =>
    obtain ⟨hc, hrest⟩ := List.ne_and_not_mem_of_not_mem_cons h
    by_cases hlf : c = '\n'
    · subst hlf
      rw [replaceAll_lf, replaceAll_append (List.cons_ne_nil a x), ih hrest, List.singleton_append]
    · rw [replaceAll_of_ne hlf, replaceAll_of_ne (Ne.symm hc), ih hrest]

theorem unifyCrLf_of_ne {c : Char} (h : c ≠ '\r') (t : Text) :
    unifyCrLf (c :: t) = c :: unifyCrLf t := by
  rw [unifyCrLf_eq, unifyCrLf_eq, replaceAll_of_ne h]

theorem unifyLfCr_of_ne {c : Char} (h : c ≠ '\n') (t : Text) :
    unifyLfCr (c :: t) = c :: unifyLfCr t := by
  rw [unifyLfCr_eq, unifyLfCr_eq, replaceAll_of_ne h]

/-- The first two replacements take LF CR back.  The second equation is about what follows an LF:
the CR of its ending is still there, and may have become part of a CR LF. -/
theorem unifyLfCr_write (h : '\r' ∉ t) :
    unifyLfCr (unifyCrLf (Ending.lfCr.write t)) = t ∧
      unifyLfCr ('\n' :: unifyCrLf ('\r' :: Ending.lfCr.write t)) = '\n' :: t := by
  induction t with
  | nil => exact ⟨rfl, rfl⟩
  | cons c rest ih =>
    obtain ⟨hc, hrest⟩ := List.ne_and_not_mem_of_not_mem_cons h
    obtain ⟨hplain, hbehind⟩ := ih hrest
    by_cases hlf : c = '\n'
    · -- Behind an LF, the CR in front of this ending and the LF of it are taken for CR LF.
      subst hlf
      have hwrite : Ending.lfCr.write ('\n' :: rest) = '\n' :: '\r' :: Ending.lfCr.write rest :=
        replaceAll_lf _ rest
      have hmet : unifyCrLf ('\r' :: '\n' :: '\r' :: Ending.lfCr.write rest) =
          '\n' :: unifyCrLf ('\r' :: Ending.lfCr.write rest) := by
        rw [unifyCrLf, if_pos ⟨rfl, rfl⟩]
      have hkept : unifyLfCr ('\n' :: '\n' :: unifyCrLf ('\r' :: Ending.lfCr.write rest)) =
          '\n' :: '\n' :: rest := by
        rw [unifyLfCr, if_neg (by decide), hbehind]
      rw [hwrite, hmet, hkept, unifyCrLf_of_ne (by decide), hbehind]
      exact ⟨rfl, rfl⟩
    · -- Any other character ends the run, and the CR that is left stands in front of it.
      have hwrite : Ending.lfCr.write (c :: rest) = c :: Ending.lfCr.write rest :=
        replaceAll_of_ne hlf _ _ rest
      rw [hwrite, unifyCrLf, if_neg fun h => hlf h.2, unifyCrLf_of_ne (Ne.symm hc), unifyLfCr,
        if_pos ⟨rfl, rfl⟩, unifyLfCr_of_ne hlf, hplain]
      exact ⟨rfl, rfl⟩

theorem lf_not_mem_write (t : Text) : '\n' ∉ Ending.cr.write t := by
  induction t with
  | nil => exact List.not_mem_nil
  | cons c rest ih =>
    by_cases hlf : c = '\n'
    · subst hlf
      rw [Ending.write, replaceAll_lf]
      exact List.not_mem_cons_of_ne_of_not_mem (by decide) ih
    · rw [Ending.write, replaceAll_of_ne hlf]
      exact List.not_mem_cons_of_ne_of_not_mem (Ne.symm hlf) ih

/-- A text without CR comes back from each way of ending its lines. -/
theorem unifyEndings_write (h : '\r' ∉ t) (e : Ending) : unifyEndings (e.write t) = t := by
  have hkept (w : Text) (hw : '\r' ∈ w) : replaceAll w ['\n'] t = t :=
    replaceAll_of_not_mem hw h _
  have hlast : unifyCr t = t := by rw [unifyCr_eq, hkept ['\r'] (by decide)]
  cases e with
  | crLf =>
    have hback : unifyCrLf (Ending.crLf.write t) = t := by
      rw [unifyCrLf_eq]
      exact replaceAll_back h _
    rw [unifyEndings, hback, unifyLfCr_eq, hkept ['\n', '\r'] (by decide), hlast]
  | lfCr => rw [unifyEndings, (unifyLfCr_write h).1, hlast]
  | cr =>
    have hwritten (w : Text) (hw : '\n' ∈ w) :
        replaceAll w ['\n'] (Ending.cr.write t) = Ending.cr.write t :=
      replaceAll_of_not_mem hw (lf_not_mem_write t) _
    rw [unifyEndings_eq, hwritten ['\r', '\n'] (by decide), hwritten ['\n', '\r'] (by decide)]
    exact replaceAll_back h _

end

/-! ## What is kept -/

/-- Whether a character belongs to line endings. -/
def isEnding (c : Char) : Bool := c = '\r' || c = '\n'

/-- A text without the characters that belong to line endings. -/
def dropEndings (t : Text) : Text := t.filter (!isEnding ·)

theorem dropEndings_append (t u : Text) : dropEndings (t ++ u) = dropEndings t ++ dropEndings u :=
  List.filter_append t u

/-- Replacing an ending by an ending keeps all other characters in their order. -/
theorem dropEndings_replaceAll {w new : Text} (hne : w ≠ []) (hw : dropEndings w = [])
    (hnew : dropEndings new = []) (t : Text) :
    dropEndings (replaceAll w new t) = dropEndings t := by
  induction hn : t.length using Nat.strongRecOn generalizing t with
  | ind n ih =>
    cases t with
    | nil => rfl
    | cons c rest =>
      by_cases hstart : w <+: c :: rest
      · obtain ⟨after, hafter⟩ := hstart
        have hpos := List.length_pos_iff.2 hne
        have hlength : after.length < n := by
          rw [← hn, ← hafter, List.length_append]
          omega
        rw [← hafter, replaceAll_append hne, dropEndings_append, dropEndings_append, hw, hnew,
          ih after.length hlength after rfl]
      · have hrest := ih rest.length (by rw [← hn]; exact Nat.lt_succ_self _) rest rfl
        rw [replaceAll_cons hstart, ← List.singleton_append, dropEndings_append, hrest,
          ← dropEndings_append, List.singleton_append]

theorem dropEndings_unifyEndings (t : Text) : dropEndings (unifyEndings t) = dropEndings t := by
  have hkept (w : Text) (hne : w ≠ []) (hw : dropEndings w = []) (u : Text) :
      dropEndings (replaceAll w ['\n'] u) = dropEndings u :=
    dropEndings_replaceAll hne hw rfl u
  rw [unifyEndings_eq, hkept ['\r'] (by decide) rfl, hkept ['\n', '\r'] (by decide) rfl,
    hkept ['\r', '\n'] (by decide) rfl]

/-- The pieces of a text put together are the text without the separator. -/
theorem flatten_splitOn (c : Char) (t : Text) : (splitOn c t).flatten = t.filter (· ≠ c) := by
  induction t with
  | nil => rfl
  | cons d rest ih =>
    rw [splitOn]
    by_cases hd : d = c
    · subst hd
      rw [if_pos rfl, List.filter_cons_of_neg (by simp)]
      exact ih
    · rw [if_neg hd, List.filter_cons_of_pos (by simpa using hd), ← ih]
      cases hpieces : splitOn c rest with
      | nil => rfl
      | cons piece pieces => rfl

/-- The lines of a text put together are the text without line endings. -/
theorem flatten_splitLines (t : Text) : (splitLines t).flatten = dropEndings t := by
  have hsame : ∀ c ∈ unifyEndings t, decide (c ≠ '\n') = !isEnding c := by
    intro c hc
    have hcr : c ≠ '\r' := fun h => cr_not_mem_unifyEndings t (h ▸ hc)
    simp [isEnding, hcr]
  rw [splitLines, flatten_splitOn, List.filter_congr hsame, ← dropEndings, dropEndings_unifyEndings]

/-! ## Lines -/

/-- A text without CR whose lines are ended in another way is cut where it was cut before.  Of any
text, the lines hold no CR and no LF, have all other characters of the text in their order, and come
back from their join. -/
theorem splitLines_lossless {t : Text} (h : '\r' ∉ t) (e : Ending) (s : Text) :
    splitLines (e.write t) = splitOn '\n' t ∧
      (∀ line ∈ splitLines s, '\r' ∉ line ∧ '\n' ∉ line) ∧
      (splitLines s).flatten = s.filter (fun c => c ≠ '\r' ∧ c ≠ '\n') ∧
      splitLines (joinLines (splitLines s)) = splitLines s := by
  refine ⟨?_, fun line hline => (ending_not_mem_of_mem_splitLines hline).symm, ?_, ?_⟩
  · rw [splitLines, unifyEndings_write h]
  · rw [flatten_splitLines, dropEndings]
    refine List.filter_congr fun c _ => ?_
    simp [isEnding]
  · exact splitLines_joinLines (splitLines_ne_nil s) fun _ => ending_not_mem_of_mem_splitLines

/-- Empty lines at every place, ended with LF CR, and a text in which all endings meet. -/
theorem splitLines_lossless_emptyLines :
    '\r' ∉ Text.ofString "\n\na\n\n\nb\n" ∧
      splitLines (Ending.lfCr.write (Text.ofString "\n\na\n\n\nb\n")) =
        [[], [], ['a'], [], [], ['b'], []] ∧
      (splitLines (Text.ofString "\n\rx\r\r\n\n\r\ny")).flatten = ['x', 'y'] := by
  have hcr : '\r' ∉ Text.ofString "\n\na\n\n\nb\n" := by decide
  obtain ⟨hlines, -, hflatten, -⟩ :=
    splitLines_lossless hcr .lfCr (Text.ofString "\n\rx\r\r\n\n\r\ny")
  exact ⟨hcr, hlines, hflatten⟩

end Text
end AmbientBundle
