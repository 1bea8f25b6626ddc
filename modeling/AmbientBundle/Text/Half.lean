import AmbientBundle.Utf8

/-!
# Halves of pairs

Some characters are written by a pair of codes where others have a single one.  JSON and YAML let
a text ask for one code of such a pair alone, and a byte of a file name that is no UTF-8 is read
as one too.  Such a *half* is no character, so some character that a run does not hold otherwise
has to stand for it.  `Halves` says which characters these are; everything that depends on the
choice takes it as an argument.

Half a pair has no bytes, so a text with a half in it cannot be written to a file.  In a path the
halves that stand for bytes are these bytes again.  The others are *loose*: no file system is ever
asked for a path with one of them.
-/

namespace AmbientBundle

/-- Whether a code is half a pair. -/
def isHalfCode (n : Nat) : Bool := 0xd800 ≤ n && n ≤ 0xdfff

/-- The characters that stand for halves of pairs. -/
structure Halves where
  /-- The code of the half that a character stands for, if it stands for one. -/
  code? : Char → Option Nat
  /-- The character that stands for half a pair. -/
  ofCode : Nat → Char
  /-- Every half has a character that stands for it. -/
  code?_ofCode : ∀ n, isHalfCode n = true → code? (ofCode n) = some n
  /-- The characters of ASCII stand for themselves. -/
  code?_ascii : ∀ c : Char, c.toNat < 0x80 → code? c = none

namespace Halves

/-- Whether a character stands for half a pair. -/
def isHalf (h : Halves) (c : Char) : Bool := (h.code? c).isSome

/-- Whether half a pair stands for a byte of a file name. -/
def isByteCode (n : Nat) : Bool := 0xdc80 ≤ n && n ≤ 0xdcff

/-- Whether a character stands for half a pair that cannot be in a path. -/
def isLoose (h : Halves) (c : Char) : Bool :=
  match h.code? c with
  | some n => !isByteCode n
  | none => false

/-- The character of a code. -/
def char (h : Halves) (n : Nat) : Char := if isHalfCode n then h.ofCode n else Char.ofNat n

/-- The bytes of a text.  A text with half a pair in it has none. -/
def encode? (h : Halves) (t : Text) : Option Bytes :=
  if t.any h.isHalf then none else some (Utf8.encode t)

/-- A character inside quotes.  Half a pair is written by its code. -/
def quoteChar (h : Halves) (q c : Char) : Text :=
  match h.code? c with
  | some n => '\\' :: 'u' :: Text.hex 4 n
  | none => Text.quoteChar q c

/-- A text in quotes. -/
def quote (h : Halves) (t : Text) : Text :=
  let q := Text.quoteFor t
  q :: t.flatMap (h.quoteChar q) ++ [q]

/-! ## Characters that no text is expected to hold -/

theorem toNat_ofNat_spare {n : Nat} (hn : isHalfCode n = true) :
    (Char.ofNat (n + 0xd0000)).toNat = n + 0xd0000 := by
  rw [isHalfCode, Bool.and_eq_true, decide_eq_true_eq, decide_eq_true_eq] at hn
  have hvalid : (n + 0xd0000).isValidChar := Or.inr (by omega)
  rw [Char.ofNat, dif_pos hvalid]
  rfl

/-- The halves stand in a block of characters that nothing is assigned to. -/
def spare : Halves where
  code? c := if isHalfCode (c.toNat - 0xd0000) then some (c.toNat - 0xd0000) else none
  ofCode n := Char.ofNat (n + 0xd0000)
  code?_ofCode n hn := by
    simp only [toNat_ofNat_spare hn, Nat.add_sub_cancel, hn, if_true]
  code?_ascii c hc := by
    rw [Nat.sub_eq_zero_of_le (by omega)]
    rfl

end Halves
end AmbientBundle
