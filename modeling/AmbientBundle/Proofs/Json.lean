import AmbientBundle.Json
import Mathlib.Data.List.Infix
import Mathlib.Data.List.TakeWhile

/-!
# What stops the reading of JSON

A text that is no JSON is malformed.  A text can also go beyond what a reader takes, and then it is
not read to its end: collections that lie in one another too deep, or a whole number that is too
long.

How deep collections lie is said without a reader.  `scan` goes over a text and keeps count of the
brackets that may still be opened, passing over strings, and it stops at a bracket for which there
is no room.  Where a reader has read a part of a text, the scan has passed that part and is back at
its count (`Passes`); where a reader finds no room, the scan stops (`Ends`).  The induction on the
steps of the readers carries this, together with the digits of a number that is too long
(`ends_readers`).

So a text that is refused as too deep is not shallow (`not_isShallow_of_read`).  A text that is
refused for a number has too many digits in a row (`exists_digits_of_read`).
-/

namespace AmbientBundle
namespace Json

variable {halves : Halves}

/-! ## Scanning brackets -/

/-- Where a scan is, and how many more brackets it may open. -/
inductive Scan where
  /-- In no string. -/
  | outside (room : Nat)
  /-- In a string. -/
  | inside (room : Nat)
  /-- In a string, after a backslash. -/
  | escaped (room : Nat)
  deriving DecidableEq, Repr

/-- The scan one character on.  There is none past a bracket for which there is no room. -/
def Scan.next : Scan → Char → Option Scan
  | .outside room, c =>
      if c = '"' then some (.inside room)
      else if c = '[' ∨ c = '{' then if room = 0 then none else some (.outside (room - 1))
      else if c = ']' ∨ c = '}' then some (.outside (room + 1))
      else some (.outside room)
  | .inside room, c =>
      if c = '"' then some (.outside room)
      else if c = '\\' then some (.escaped room)
      else some (.inside room)
  | .escaped room, _ => some (.inside room)

/-- The scan past a text. -/
def scan (a : Scan) (t : Text) : Option Scan := t.foldlM Scan.next a

/-- Whether a text never has more brackets open than collections may lie in one another. -/
def isShallow (t : Text) : Bool := (scan (.outside nestingLimit) t).isSome

/-- The characters that a scan outside of strings looks at. -/
def marks : List Char := ['"', '[', '{', ']', '}']

@[simp] theorem scan_nil (a : Scan) : scan a [] = some a := rfl

theorem scan_append (a : Scan) (w u : Text) : scan a (w ++ u) = (scan a w).bind (scan · u) :=
  List.foldlM_append

theorem scan_cons {a b : Scan} {c : Char} (h : a.next c = some b) (u : Text) :
    scan a (c :: u) = scan b u := by
  rw [scan, List.foldlM_cons, h]
  rfl

/-- A scan stops at a bracket for which there is no room. -/
theorem scan_opening {c : Char} (h : c = '[' ∨ c = '{') (u : Text) :
    scan (.outside 0) (c :: u) = none := by
  rcases h with rfl | rfl <;> rfl

theorem next_outside {c : Char} (h : c ∉ marks) (room : Nat) :
    (Scan.outside room).next c = some (.outside room) := by
  simp only [marks, List.mem_cons, List.not_mem_nil, or_false, not_or] at h
  obtain ⟨hquote, hlist, hmap, hlist', hmap'⟩ := h
  rw [Scan.next, if_neg hquote, if_neg (not_or.2 ⟨hlist, hmap⟩), if_neg (not_or.2 ⟨hlist', hmap'⟩)]

theorem next_inside {c : Char} (hquote : c ≠ '"') (hescape : c ≠ '\\') (room : Nat) :
    (Scan.inside room).next c = some (.inside room) := by
  rw [Scan.next, if_neg hquote, if_neg hescape]

/-! ## Passing a part of a text -/

/-- Whether a scan that starts at a text gets from one place to another at what is left of it. -/
def Passes (a : Scan) (t : Text) (b : Scan) (u : Text) : Prop := ∃ w, t = w ++ u ∧ scan a w = some b

namespace Passes

theorem refl (a : Scan) (t : Text) : Passes a t a t := ⟨[], rfl, rfl⟩

theorem trans {a b c : Scan} {t u v : Text} (h : Passes a t b u) (h' : Passes b u c v) :
    Passes a t c v := by
  obtain ⟨w, rfl, hw⟩ := h
  obtain ⟨w', rfl, hw'⟩ := h'
  exact ⟨w ++ w', (List.append_assoc ..).symm, by rw [scan_append, hw, Option.bind_some, hw']⟩

theorem cons {a b d : Scan} {c : Char} {t u : Text} (hc : a.next c = some b)
    (h : Passes b t d u) : Passes a (c :: t) d u :=
  trans ⟨[c], rfl, by rw [scan_cons hc, scan_nil]⟩ h

theorem suffix {a b : Scan} {t u : Text} (h : Passes a t b u) : u <:+ t := by
  obtain ⟨w, rfl, -⟩ := h
  exact List.suffix_append w u

theorem scan_eq {a b : Scan} {t u : Text} (h : Passes a t b u) : scan a t = scan b u := by
  obtain ⟨w, rfl, hw⟩ := h
  rw [scan_append, hw, Option.bind_some]

/-- Characters that keep the scan where it is are passed. -/
theorem of_next {a : Scan} {w : Text} (h : ∀ c ∈ w, a.next c = some a) (u : Text) :
    Passes a (w ++ u) a u := by
  induction w with
  | nil => exact refl a u
  | cons c w ih => exact cons (h c (by simp)) (ih fun d hd => h d (by simp [hd]))

theorem of_not_marks {w : Text} (h : ∀ c ∈ w, c ∉ marks) (room : Nat) (u : Text) :
    Passes (.outside room) (w ++ u) (.outside room) u :=
  of_next (fun c hc => next_outside (h c hc) room) u

end Passes

/-- Characters at the front that are no marks are passed. -/
theorem passes_dropWhile {p : Char → Bool} (hp : ∀ c, p c = true → c ∉ marks) (room : Nat)
    (t : Text) : Passes (.outside room) t (.outside room) (t.dropWhile p) := by
  have h := Passes.of_not_marks (w := t.takeWhile p)
    (fun c hc => hp c (List.mem_takeWhile_imp hc)) room (t.dropWhile p)
  rwa [List.takeWhile_append_dropWhile] at h

theorem not_mark_of_isSpace (c : Char) (h : isSpace c = true) : c ∉ marks := by
  simp only [isSpace, Bool.or_eq_true, decide_eq_true_eq] at h
  rcases h with ((rfl | rfl) | rfl) | rfl <;> decide

theorem passes_skip (room : Nat) (t : Text) :
    Passes (.outside room) t (.outside room) (skip t) :=
  passes_dropWhile not_mark_of_isSpace room t

/-! ## Strings -/

theorem digit?_isSome_of_readFrom {base acc n : Nat} {t : Text}
    (h : Number.readFrom base acc t = some n) : ∀ c ∈ t, (Number.digit? c).isSome = true := by
  induction t generalizing acc with
  | nil => exact fun c hc => nomatch hc
  | cons d t ih =>
    rw [Number.readFrom] at h
    split at h
    · cases h
    · next k hd =>
      split at h
      · intro c hc
        rcases List.mem_cons.1 hc with rfl | hc
        · rw [hd]
          rfl
        · exact ih h c hc
      · cases h

theorem passes_hexFour {t u : Text} {n : Nat} (h : hexFour? t = some (n, u)) (room : Nat) :
    Passes (.inside room) t (.inside room) u := by
  unfold hexFour? at h
  split at h
  · next a b c d rest =>
    obtain ⟨n, hn, heq⟩ := Option.map_eq_some_iff.1 h
    cases heq
    rw [Number.readNat?, if_neg (by simp)] at hn
    refine Passes.of_next (w := [a, b, c, d]) (fun x hx => ?_) u
    have hdigit := digit?_isSome_of_readFrom hn x hx
    refine next_inside ?_ ?_ room
    · rintro rfl
      exact absurd hdigit (by decide)
    · rintro rfl
      exact absurd hdigit (by decide)
  · cases h

theorem passes_code {t u : Text} {d : Char} (h : code? halves t = some (d, u)) (room : Nat) :
    Passes (.inside room) t (.inside room) u := by
  unfold code? at h
  split at h
  · cases h
  · next n rest hn =>
    have hfour := passes_hexFour hn room
    split at h
    · split at h
      · next more =>
        split at h
        · cases h
        · next m tail hm =>
          split at h
          · -- The second half of a pair is one more escape.
            obtain rfl := (Prod.mk.inj (Option.some.inj h)).2
            have hescape : Passes (.inside room) ('\\' :: 'u' :: more) (.inside room) more :=
              .cons (b := .escaped room) rfl (.cons rfl (.refl _ _))
            exact hfour.trans (hescape.trans (passes_hexFour hm room))
          · cases h
            exact hfour
      · cases h
        exact hfour
    · cases h
      exact hfour

theorem passes_stringRest {steps : Nat} {t s u : Text} (h : stringRest halves steps t = some (s, u))
    (room : Nat) : Passes (.inside room) t (.outside room) u := by
  induction steps generalizing t s with
  | zero => cases h
  | succ steps ih =>
    cases t with
    | nil => cases h
    | cons c rest =>
      unfold stringRest at h
      split at h
      · next hquote =>
        cases h
        exact .cons (by rw [Scan.next, if_pos hquote]) (.refl _ _)
      · next hquote =>
        split at h
        · next hescape =>
          have hbackslash : (Scan.inside room).next c = some (.escaped room) := by
            rw [Scan.next, if_neg hquote, if_pos hescape]
          split at h
          · cases h
          · split at h
            · cases h
            · next hcode =>
              obtain ⟨_, hr, heq⟩ := Option.map_eq_some_iff.1 h
              cases heq
              exact .cons hbackslash (.cons rfl ((passes_code hcode room).trans (ih hr)))
          · split at h
            · cases h
            · obtain ⟨_, hr, heq⟩ := Option.map_eq_some_iff.1 h
              cases heq
              exact .cons hbackslash (.cons rfl (ih hr))
        · next hescape =>
          split at h
          · cases h
          · obtain ⟨_, hr, heq⟩ := Option.map_eq_some_iff.1 h
            cases heq
            exact .cons (next_inside hquote hescape room) (ih hr)

/-! ## Words and numbers -/

theorem not_mark_of_words : ∀ e ∈ words, ∀ c ∈ e.1, c ∉ marks := by
  have h : (words.all fun e => e.1.all fun c => !marks.contains c) = true := by decide
  simpa only [List.all_eq_true, Bool.not_eq_true', List.contains_eq_mem,
    decide_eq_false_iff_not] using h

theorem passes_word {t u : Text} {v : Value} {ws : List (Text × Value)}
    (hws : ∀ e ∈ ws, ∀ c ∈ e.1, c ∉ marks) (h : word? t ws = some (v, u)) (room : Nat) :
    Passes (.outside room) t (.outside room) u := by
  induction ws with
  | nil => cases h
  | cons e more ih =>
    rw [word?] at h
    split at h
    · next hdrop =>
      cases h
      rw [Text.dropWord?_eq_some_iff.1 hdrop]
      exact .of_not_marks (hws e (by simp)) room u
    · exact ih (fun e' he' => hws e' (by simp [he'])) h

theorem not_mark_of_isDigit (c : Char) (h : Number.isDigit c = true) : c ∉ marks := by
  intro hmark
  simp only [marks, List.mem_cons, List.not_mem_nil, or_false] at hmark
  rcases hmark with rfl | rfl | rfl | rfl | rfl <;> exact absurd h (by decide)

theorem wholePart?_eq {t whole u : Text} (h : wholePart? t = some (whole, u)) :
    t = whole ++ u ∧ ∀ c ∈ whole, Number.isDigit c = true := by
  unfold wholePart? at h
  split at h
  · cases h
    exact ⟨rfl, List.forall_mem_singleton.2 rfl⟩
  · split at h
    · cases h
    · next hdigits =>
      cases h
      exact ⟨List.takeWhile_append_dropWhile.symm, fun c hc => List.mem_takeWhile_imp hc⟩

theorem passes_fraction (room : Nat) (t : Text) :
    Passes (.outside room) t (.outside room) (fraction t).2 := by
  unfold fraction
  split
  · split
    · exact .refl _ _
    · exact .cons rfl (passes_dropWhile not_mark_of_isDigit room _)
  · exact .refl _ _

theorem passes_exponent (room : Nat) (t : Text) :
    Passes (.outside room) t (.outside room) (exponent t).2 := by
  unfold exponent
  split
  · next c rest =>
    split
    · next hletter =>
      have hc : (Scan.outside room).next c = some (.outside room) := by
        rcases hletter with rfl | rfl <;> rfl
      split
      next sign ds hsigned =>
        have hsign : Passes (.outside room) rest (.outside room) ds := by
          split at hsigned
          · cases hsigned
            exact .cons rfl (.refl _ _)
          · cases hsigned
            exact .cons rfl (.refl _ _)
          · cases hsigned
            exact .refl _ _
        split
        · exact .refl _ _
        · exact .cons hc (hsign.trans (passes_dropWhile not_mark_of_isDigit room ds))
    · exact .refl _ _
  · exact .refl _ _

/-! ## Values -/

/-- What the reading of a part of a text means for a scan of the text.  A part that was read is
passed.  If it lies too deep then the scan stops, and if a number is too long then its digits are
there. -/
def Ends {α : Type} (a b : Scan) (t : Text) : Except Error (α × Text) → Prop
  | .ok (_, u) => Passes a t b u
  | .error .malformed => True
  | .error .tooDeep => scan a t = none
  | .error .tooLong =>
      ∃ ds, ds <:+: t ∧ (∀ c ∈ ds, Number.isDigit c = true) ∧ Number.digitLimit < ds.length

namespace Ends

variable {α β : Type} {a b d : Scan} {t u : Text}

/-- What was passed before does not matter. -/
theorem of_passes (h : Passes a t b u) {r : Except Error (α × Text)} (hr : Ends b d u r) :
    Ends a d t r := by
  match r, hr with
  | .ok (_, _), hr => exact h.trans hr
  | .error .malformed, hr => exact hr
  | .error .tooDeep, hr => exact h.scan_eq.trans hr
  | .error .tooLong, ⟨ds, hds, hdigits, hlong⟩ =>
    exact ⟨ds, hds.trans h.suffix.isInfix, hdigits, hlong⟩

/-- An error in a part goes through, and what follows a part goes on where the part ends. -/
theorem andThen {r : Except Error (α × Text)} {r' : Except Error (β × Text)} (hr : Ends a b t r)
    (herror : ∀ e, r = .error e → r' = .error e)
    (hok : ∀ x u, r = .ok (x, u) → Passes a t b u → Ends a d t r') : Ends a d t r' := by
  cases r with
  | ok p => exact hok p.1 p.2 rfl hr
  | error e =>
    rw [herror e rfl]
    cases e with
    | malformed => trivial
    | tooLong => exact hr
    | tooDeep => exact hr

end Ends

theorem ends_number (negative : Bool) (room : Nat) (t : Text) :
    Ends (.outside room) (.outside room) t (number negative t) := by
  rw [number]
  split
  · trivial
  · next whole rest hwhole =>
    obtain ⟨rfl, hdigits⟩ := wholePart?_eq hwhole
    have hpassed : Passes (.outside room) (whole ++ rest) (.outside room)
        (exponent (fraction rest).2).2 :=
      (Passes.of_not_marks (fun c hc => not_mark_of_isDigit c (hdigits c hc)) room rest).trans
        ((passes_fraction room rest).trans (passes_exponent room _))
    dsimp only
    split
    · split
      · next hlong => exact ⟨whole, (List.prefix_append _ _).isInfix, hdigits, hlong⟩
      · exact hpassed
    · split
      · trivial
      · exact hpassed

/-- The bracket that opens a collection and the blanks after it are passed. -/
theorem passes_opening {c : Char} (h : c = '[' ∨ c = '{') (room : Nat) (rest : Text) :
    Passes (.outside (room + 1)) (c :: rest) (.outside room) (skip rest) := by
  refine .cons ?_ (passes_skip room rest)
  rcases h with rfl | rfl <;> rfl

/-- The blanks before the bracket that closes a collection and the bracket are passed. -/
theorem passes_closing {c : Char} (h : c = ']' ∨ c = '}') {room : Nat} {rest tail : Text}
    (hrest : skip rest = c :: tail) :
    Passes (.outside room) rest (.outside (room + 1)) tail := by
  refine (passes_skip room rest).trans (hrest ▸ .cons ?_ (.refl _ _))
  rcases h with rfl | rfl <;> rfl

/-- The blanks around a mark between two parts and the mark are passed. -/
theorem passes_between {c : Char} (h : c = ',' ∨ c = ':') {room : Nat} {rest tail : Text}
    (hrest : skip rest = c :: tail) :
    Passes (.outside room) rest (.outside room) (skip tail) := by
  refine (passes_skip room rest).trans (hrest ▸ .cons ?_ (passes_skip room tail))
  rcases h with rfl | rfl <;> rfl

section

variable {steps : Nat}

theorem ends_value_succ
    (hmembers : ∀ room t, Ends (.outside room) (.outside (room + 1)) t (members halves room steps t))
    (hitems : ∀ room t, Ends (.outside room) (.outside (room + 1)) t (items halves room steps t))
    (room : Nat) (t : Text) :
    Ends (.outside room) (.outside room) t (value halves room (steps + 1) t) := by
  unfold value
  split
  · split
    · trivial
    · next hstring => exact .cons rfl (passes_stringRest hstring room)
  · next rest =>
    cases room with
    | zero => exact scan_opening (Or.inr rfl) rest
    | succ room =>
      have hopening := passes_opening (Or.inr rfl) room rest
      rw [if_neg (Nat.succ_ne_zero room), Nat.add_sub_cancel]
      split
      · next hrest => exact hopening.trans (hrest ▸ .cons rfl (.refl _ _))
      · exact (Ends.of_passes hopening (hmembers room (skip rest))).andThen
          (fun e he => by rw [he]) fun es tail hread hpassed => by rwa [hread]
  · next rest =>
    cases room with
    | zero => exact scan_opening (Or.inl rfl) rest
    | succ room =>
      have hopening := passes_opening (Or.inl rfl) room rest
      rw [if_neg (Nat.succ_ne_zero room), Nat.add_sub_cancel]
      split
      · next hrest => exact hopening.trans (hrest ▸ .cons rfl (.refl _ _))
      · exact (Ends.of_passes hopening (hitems room (skip rest))).andThen
          (fun e he => by rw [he]) fun vs tail hread hpassed => by rwa [hread]
  · split
    · next hword => exact passes_word not_mark_of_words hword room
    · split
      · have hsign (rest : Text) : Passes (.outside room) ('-' :: rest) (.outside room) rest :=
          .cons rfl (.refl _ _)
        exact .of_passes (hsign _) (ends_number true room _)
      · exact ends_number false room t

theorem ends_members_succ
    (hvalue : ∀ room t, Ends (.outside room) (.outside room) t (value halves room steps t))
    (hmembers : ∀ room t, Ends (.outside room) (.outside (room + 1)) t (members halves room steps t))
    (room : Nat) (t : Text) :
    Ends (.outside room) (.outside (room + 1)) t (members halves room (steps + 1) t) := by
  unfold members
  split
  · next rest =>
    split
    · trivial
    · next hstring =>
      split
      · next more hcolon =>
        have hkey : Passes (.outside room) ('"' :: rest) (.outside room) (skip more) :=
          .cons (b := .inside room) rfl
            ((passes_stringRest hstring room).trans (passes_between (Or.inr rfl) hcolon))
        refine (Ends.of_passes hkey (hvalue room (skip more))).andThen (fun e he => by rw [he])
          fun v tail hread hpassed => ?_
        rw [hread]
        dsimp only
        split
        · next hclosing => exact hpassed.trans (passes_closing (Or.inr rfl) hclosing)
        · next more hcomma =>
          have hcomma := hpassed.trans (passes_between (Or.inl rfl) hcomma)
          exact (Ends.of_passes hcomma (hmembers room (skip more))).andThen
            (fun e he => by rw [he]) fun es tail hread hpassed => by rwa [hread]
        · trivial
      · trivial
  · trivial

theorem ends_items_succ
    (hvalue : ∀ room t, Ends (.outside room) (.outside room) t (value halves room steps t))
    (hitems : ∀ room t, Ends (.outside room) (.outside (room + 1)) t (items halves room steps t))
    (room : Nat) (t : Text) :
    Ends (.outside room) (.outside (room + 1)) t (items halves room (steps + 1) t) := by
  unfold items
  refine (hvalue room t).andThen (fun e he => by rw [he]) fun v tail hread hpassed => ?_
  rw [hread]
  dsimp only
  split
  · next hclosing => exact hpassed.trans (passes_closing (Or.inl rfl) hclosing)
  · next more hcomma =>
    have hcomma := hpassed.trans (passes_between (Or.inl rfl) hcomma)
    exact (Ends.of_passes hcomma (hitems room (skip more))).andThen
      (fun e he => by rw [he]) fun vs tail hread hpassed => by rwa [hread]
  · trivial

end

/-- Reading goes along with a scan: over a value that is read the scan comes back to the same count,
and over the rest of an object or an array to a count of one more. -/
theorem ends_readers (steps : Nat) :
    (∀ room t, Ends (.outside room) (.outside room) t (value halves room steps t)) ∧
    (∀ room t, Ends (.outside room) (.outside (room + 1)) t (members halves room steps t)) ∧
    ∀ room t, Ends (.outside room) (.outside (room + 1)) t (items halves room steps t) := by
  induction steps with
  | zero => exact ⟨fun _ _ => trivial, fun _ _ => trivial, fun _ _ => trivial⟩
  | succ steps ih =>
    obtain ⟨hvalue, hmembers, hitems⟩ := ih
    exact ⟨ends_value_succ hmembers hitems, ends_members_succ hvalue hmembers,
      ends_items_succ hvalue hitems⟩

/-! ## Whole texts -/

/-- An error of a whole text is one of its value, unless it is no JSON at all. -/
theorem ends_of_read {t : Text} {e : Error} (h : read halves t = .error e) :
    Ends (.outside nestingLimit) (.outside nestingLimit) t
      (.error e : Except Error (Value × Text)) := by
  rw [read] at h
  have hvalue : Ends (.outside nestingLimit) (.outside nestingLimit) t
      (value halves nestingLimit (2 * t.length + 2) (skip t)) :=
    Ends.of_passes (passes_skip nestingLimit t)
      ((ends_readers (2 * t.length + 2)).1 nestingLimit (skip t))
  split at h
  · next hread =>
    cases h
    rwa [hread] at hvalue
  · split at h
    · cases h
    · cases h
      trivial

/-- A text that is refused as too deep is not shallow. -/
theorem not_isShallow_of_read {t : Text} (h : read halves t = .error .tooDeep) :
    isShallow t = false := by
  have hscan : scan (.outside nestingLimit) t = none := ends_of_read h
  rw [isShallow, hscan]
  rfl

/-- A text that is refused for a number has more digits in a row than a number may have. -/
theorem exists_digits_of_read {t : Text} (h : read halves t = .error .tooLong) :
    ∃ ds, ds <:+: t ∧ (∀ c ∈ ds, Number.isDigit c = true) ∧ Number.digitLimit < ds.length :=
  ends_of_read h

end Json
end AmbientBundle
