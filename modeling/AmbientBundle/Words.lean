import AmbientBundle.Fault

/-!
# Command words

A line of options is cut into words as a shell does it.  White space separates
words.  Single quotes keep everything, double quotes keep everything but a backslash
before a backslash or a double quote, and outside quotes a backslash keeps the next
character.  Quotes that touch belong to one word, and an empty pair is an empty word.

`join` writes words as a line.  A word is left as it is if it holds only harmless
characters, and otherwise stands in single quotes.
-/

namespace AmbientBundle
namespace Words

/-- White space between words. -/
def isSpace (c : Char) : Bool := c = ' ' || c = '\t' || c = '\r' || c = '\n'

/-- Where in a line the reading stands. -/
inductive State where
  /-- Between words. -/
  | between
  /-- In a word, outside quotes. -/
  | word
  /-- In single quotes. -/
  | single
  /-- In double quotes. -/
  | double
  /-- After a backslash outside quotes. -/
  | escaped
  /-- After a backslash in double quotes. -/
  | escapedDouble
  deriving DecidableEq, Repr

/-- The words of the rest of a line, given where the reading stands and the word read so
far. -/
def splitFrom : State → Text → Text → Except WordsFault (List Text)
  | .between, _, [] => .ok []
  | .word, w, [] => .ok [w]
  | .single, _, [] => .error .openQuote
  | .double, _, [] => .error .openQuote
  | .escaped, _, [] => .error .openEscape
  | .escapedDouble, _, [] => .error .openEscape
  | .between, _, c :: rest =>
      if isSpace c then splitFrom .between [] rest
      else if c = '\'' then splitFrom .single [] rest
      else if c = '"' then splitFrom .double [] rest
      else if c = '\\' then splitFrom .escaped [] rest
      else splitFrom .word [c] rest
  | .word, w, c :: rest =>
      if isSpace c then
        match splitFrom .between [] rest with
        | .ok ws => .ok (w :: ws)
        | .error e => .error e
      else if c = '\'' then splitFrom .single w rest
      else if c = '"' then splitFrom .double w rest
      else if c = '\\' then splitFrom .escaped w rest
      else splitFrom .word (w ++ [c]) rest
  | .single, w, c :: rest =>
      if c = '\'' then splitFrom .word w rest else splitFrom .single (w ++ [c]) rest
  | .double, w, c :: rest =>
      if c = '"' then splitFrom .word w rest
      else if c = '\\' then splitFrom .escapedDouble w rest
      else splitFrom .double (w ++ [c]) rest
  | .escaped, w, c :: rest => splitFrom .word (w ++ [c]) rest
  | .escapedDouble, w, c :: rest =>
      if c = '\\' ∨ c = '"' then splitFrom .double (w ++ [c]) rest
      else splitFrom .double (w ++ ['\\', c]) rest

/-- The words of a line. -/
def split (line : Text) : Except WordsFault (List Text) := splitFrom .between [] line

/-- A character that no shell reads as anything but itself. -/
def isHarmless (c : Char) : Bool :=
  ('a' ≤ c && c ≤ 'z') || ('A' ≤ c && c ≤ 'Z') || ('0' ≤ c && c ≤ '9') || c = '_' || c = '@' ||
    c = '%' || c = '+' || c = '=' || c = ':' || c = ',' || c = '.' || c = '/' || c = '-'

/-- A single quote inside single quotes: the quotes are closed, the character stands in double
quotes, and the quotes are opened again. -/
def quoteMark : Text := ['\'', '"', '\'', '"', '\'']

/-- A word as it is written. -/
def quote (w : Text) : Text :=
  if w = [] then ['\'', '\'']
  else if w.all isHarmless then w
  else '\'' :: w.flatMap (fun c => if c = '\'' then quoteMark else [c]) ++ ['\'']

/-- Words as a line. -/
def join (ws : List Text) : Text := Text.joinWith ' ' (ws.map quote)

end Words
end AmbientBundle
