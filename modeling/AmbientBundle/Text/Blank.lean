import AmbientBundle.Text

/-!
# Blank characters

The characters that count as white space at the ends of a value: the ASCII
controls from tab to carriage return and from file to unit separator, the space,
and the space separators, line separator and paragraph separator of Unicode with
the next-line control.  `strip` drops them from both ends.
-/

namespace AmbientBundle
namespace Text

/-- Whether a character is white space. -/
def isBlank (c : Char) : Bool :=
  let n := c.toNat
  (0x09 ≤ n && n ≤ 0x0d) || (0x1c ≤ n && n ≤ 0x20) || n = 0x85 || n = 0xa0 || n = 0x1680 ||
    (0x2000 ≤ n && n ≤ 0x200a) || n = 0x2028 || n = 0x2029 || n = 0x202f || n = 0x205f ||
    n = 0x3000

/-- Drop white space from the front. -/
def stripStart (t : Text) : Text := t.dropWhile isBlank

/-- Drop white space from the end. -/
def stripEnd (t : Text) : Text := (t.reverse.dropWhile isBlank).reverse

/-- Drop white space from both ends. -/
def strip (t : Text) : Text := stripEnd (stripStart t)

/-- Whether there is nothing but white space. -/
def isAllBlank (t : Text) : Bool := t.all isBlank

end Text
end AmbientBundle
