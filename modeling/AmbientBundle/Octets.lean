import AmbientBundle.Utf8

/-!
# Octets

Programs pass bytes to each other, and most of those bytes are letters.  *Octets* are
a text in which every character stands for one byte, so that programs can be written
with characters and no byte is lost.  `ofText` and `toText` lead to and from the
characters that the bytes stand for together.
-/

namespace AmbientBundle

/-- A text whose characters are bytes. -/
abbrev Octets := List Char

namespace Octets

/-- Bytes as characters. -/
def ofBytes (bs : Bytes) : Octets := bs.map fun b => Char.ofNat b.toNat

/-- Characters as bytes. -/
def toBytes (t : Octets) : Bytes := t.map fun c => UInt8.ofNat c.toNat

/-- The bytes of a text. -/
def ofText (t : Text) : Octets :=
  if t.all fun c => c.toNat < 128 then t else ofBytes (Utf8.encode t)

/-- The bytes of a string. -/
def ofString (s : String) : Octets := ofText s.toList

/-- The text of some bytes; bytes that are no text stand for themselves. -/
def toText (t : Octets) : Text :=
  if t.all fun c => c.toNat < 128 then t else (Utf8.decode (toBytes t)).getD t

/-- The digits of a number. -/
def ofNat (n : Nat) : Octets := Nat.toDigits 10 n

/-- The digits of a whole number. -/
def ofInt (i : Int) : Octets :=
  if i < 0 then '-' :: Nat.toDigits 10 i.natAbs else Nat.toDigits 10 i.natAbs

/-- The number of some digits. -/
def toNat? (t : Octets) : Option Nat :=
  if t = [] then none
  else
    t.foldl
      (fun n c => n.bind fun n => if c.isDigit then some (n * 10 + (c.toNat - 48)) else none)
      (some 0)

/-- Lines, each without its end; what follows the last end is a line if there is anything. -/
def lines (t : Octets) : List Octets :=
  match (Text.splitOn '\n' t).reverse with
  | [] :: rest => rest.reverse
  | ls => ls.reverse

/-- Lines with an end each. -/
def unlines (ls : List Octets) : Octets := ls.flatMap (· ++ ['\n'])

/-- Whether a text ends with a word. -/
def endsWith (t w : Octets) : Bool := Text.startsWith t.reverse w.reverse

end Octets
end AmbientBundle
