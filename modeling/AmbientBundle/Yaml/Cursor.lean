import AmbientBundle.Yaml.Error

/-!
# Cursors

A cursor stands in a text and knows what is still to be read and where it is.  Past
the end it reads NUL, which no text holds.
-/

namespace AmbientBundle
namespace Yaml

/-! ## Characters -/

/-- A line break. -/
def isBreak (c : Char) : Bool :=
  c = '\r' || c = '\n' || c = '\u0085' || c = '\u2028' || c = '\u2029'

/-- The end of the text. -/
def isEnd (c : Char) : Bool := c = '\x00'

/-- A line break or the end. -/
def isBreakOrEnd (c : Char) : Bool := isBreak c || isEnd c

/-- A space, a line break or the end. -/
def isGap (c : Char) : Bool := c = ' ' || isBreakOrEnd c

/-- A space, a tab, a line break or the end. -/
def isBlankOrEnd (c : Char) : Bool := c = '\t' || isGap c

/-- A letter, a digit, a hyphen or an underscore. -/
def isNameChar (c : Char) : Bool :=
  ('0' ≤ c && c ≤ '9') || ('A' ≤ c && c ≤ 'Z') || ('a' ≤ c && c ≤ 'z') || c = '-' || c = '_'

/-- A character that a text may hold. -/
def isAllowed (c : Char) : Bool :=
  let n := c.toNat
  n = 0x09 || n = 0x0a || n = 0x0d || (0x20 ≤ n && n ≤ 0x7e) || n = 0x85 ||
    (0xa0 ≤ n && n ≤ 0xd7ff) || (0xe000 ≤ n && n ≤ 0xfffd) || 0x10000 ≤ n

/-- The first character that a text may not hold, with its place. -/
def forbidden? (position : Nat) : Text → Option (Char × Nat)
  | [] => none
  | c :: rest => if isAllowed c then forbidden? (position + 1) rest else some (c, position)

/-! ## Moving -/

/-- A place in a text and what follows it. -/
structure Cursor where
  /-- What is still to be read. -/
  rest : Text
  /-- Where that starts. -/
  mark : Mark := {}
  deriving DecidableEq, Inhabited, Repr

/-- The place after a character, given the one that follows. -/
def Mark.after (m : Mark) (c next : Char) : Mark :=
  if c = '\n' || c = '\u0085' || c = '\u2028' || c = '\u2029' || (c = '\r' && next ≠ '\n') then
    ⟨m.index + 1, m.line + 1, 0⟩
  else if c = '\ufeff' then ⟨m.index + 1, m.line, m.column⟩
  else ⟨m.index + 1, m.line, m.column + 1⟩

namespace Cursor

/-- The character some places ahead. -/
def peek (c : Cursor) (k : Nat := 0) : Char := c.rest.getD k '\x00'

/-- The column. -/
def column (c : Cursor) : Nat := c.mark.column

/-- The place after the next character. -/
def step (c : Cursor) : Cursor :=
  match c.rest with
  | [] => c
  | d :: rest => ⟨rest, c.mark.after d (rest.headD '\x00')⟩

/-- The place some characters ahead. -/
def advance (c : Cursor) : Nat → Cursor
  | 0 => c
  | n + 1 => c.step.advance n

/-- The characters up to the first that does not qualify. -/
def span (c : Cursor) (p : Char → Bool) : Text := c.rest.takeWhile p

/-- The place of the first character that does not qualify. -/
def skipWhile (c : Cursor) (p : Char → Bool) : Cursor := c.advance (c.span p).length

/-- The place after spaces. -/
def skipSpaces (c : Cursor) : Cursor := c.skipWhile (· = ' ')

/-- The place at the end of the line, if a comment starts here. -/
def skipComment (c : Cursor) : Cursor :=
  if c.peek = '#' then c.skipWhile (!isBreak ·) else c

/-- Read a line break.  Two of them are kept as they are, the others read as LF. -/
def lineBreak (c : Cursor) : Text × Cursor :=
  let d := c.peek
  if d = '\r' && c.peek 1 = '\n' then (['\n'], c.advance 2)
  else if d = '\r' || d = '\n' || d = '\u0085' then (['\n'], c.step)
  else if d = '\u2028' || d = '\u2029' then ([d], c.step)
  else ([], c)

/-- Whether a line that separates documents starts here. -/
def atSeparator (c : Cursor) : Bool :=
  (c.rest.take 3 = ['-', '-', '-'] || c.rest.take 3 = ['.', '.', '.']) && isBlankOrEnd (c.peek 3)

/-- A character in quotes, for messages. -/
def quoted (d : Char) : String := Text.toString (Text.quote [d])

end Cursor
end Yaml
end AmbientBundle
