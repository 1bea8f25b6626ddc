import AmbientBundle.Text
import AmbientBundle.Text.Printable

/-!
# Quoted texts

Messages show texts in quotes.  A text is put in single quotes, or in double
quotes if it holds a single quote and no double quote.  The backslash and the
quote in use get a backslash, the three common controls get their letters, and a
character that is not printable is written by its code point, with two, four or
eight hexadecimal digits.
-/

namespace AmbientBundle
namespace Text

/-- The hexadecimal digits of a number, lower case, at least as many as asked for. -/
def hex (width n : Nat) : Text :=
  let ds := Nat.toDigits 16 n
  List.replicate (width - ds.length) '0' ++ ds

/-- A character inside quotes. -/
def quoteChar (q c : Char) : Text :=
  if c = q || c = '\\' then ['\\', c]
  else if c = '\n' then ['\\', 'n']
  else if c = '\r' then ['\\', 'r']
  else if c = '\t' then ['\\', 't']
  else if isPrintable c then [c]
  else if c.toNat ≤ 0xff then '\\' :: 'x' :: hex 2 c.toNat
  else if c.toNat ≤ 0xffff then '\\' :: 'u' :: hex 4 c.toNat
  else '\\' :: 'U' :: hex 8 c.toNat

/-- The quote a text is put in. -/
def quoteFor (t : Text) : Char := if t.contains '\'' && !t.contains '"' then '"' else '\''

/-- A text in quotes. -/
def quote (t : Text) : Text :=
  let q := quoteFor t
  q :: t.flatMap (quoteChar q) ++ [q]

/-- Texts in quotes, in brackets, with commas between them. -/
def quoteList (ts : List Text) : Text :=
  '[' :: List.intercalate [',', ' '] (ts.map quote) ++ [']']

end Text
end AmbientBundle
