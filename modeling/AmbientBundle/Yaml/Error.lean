import AmbientBundle.Fault

/-!
# Places and errors in a YAML text

A *mark* is a place in a text: how many characters come before it, and its line and
column.  An error names what was being read, what is wrong, and where.  Its message
shows for each place the line around it, cut to what fits, with a caret below.
-/

namespace AmbientBundle
namespace Yaml

/-- A place in a text; all three numbers count from zero. -/
structure Mark where
  /-- The characters before it. -/
  index : Nat := 0
  /-- The line. -/
  line : Nat := 0
  /-- The column. -/
  column : Nat := 0
  deriving DecidableEq, Inhabited, Repr

/-- Why a text cannot be read. -/
inductive Error where
  /-- The text does not have the form it should have. -/
  | form (context : Option String) (opened : Option Mark) (problem : String) (mark : Mark)
  /-- The text holds a character that no text may hold. -/
  | character (code position : Nat)
  /-- A value was misused while it was built. -/
  | misuse (how : Misuse)
  deriving DecidableEq, Repr

/-- Characters that end a line of a message. -/
def endsLine (c : Char) : Bool :=
  c = '\x00' || c = '\r' || c = '\n' || c = '\u0085' || c = '\u2028' || c = '\u2029'

/-- How far a shown line reaches to either side of its mark. -/
def reach : Nat := 36

/-- The part of a line that lies on one side of a mark, nearest character first, with a sign
that something was cut off. -/
def side (t : Text) : Text × Bool :=
  let line := t.takeWhile (!endsLine ·)
  if reach < line.length then (line.take (reach + 1 - 5), true) else (line, false)

/-- What stands for the part of a line that is cut off. -/
def gap : Text := [' ', '.', '.', '.', ' ']

/-- The line around a mark, with a caret below it. -/
def snippet (source : Text) (m : Mark) : Text :=
  let (before, cutBefore) := side (source.take m.index).reverse
  let (after, cutAfter) := side (source.drop m.index)
  let head := if cutBefore then gap else []
  let tail := if cutAfter then gap else []
  let indent := List.replicate 4 ' '
  indent ++ head ++ before.reverse ++ after ++ tail ++ '\n' ::
    indent ++ List.replicate (before.length + head.length) ' ' ++ ['^']

/-- The name under which a text is shown. -/
def sourceName : String := "\"<unicode string>\""

/-- A place in words. -/
def Mark.describe (source : Text) (m : Mark) : String :=
  "  in " ++ sourceName ++ ", line " ++ toString (m.line + 1) ++ ", column " ++
    toString (m.column + 1) ++ ":\n" ++ Text.toString (snippet source m)

/-- The message of an error, given the text. -/
def Error.message (source : Text) : Error → String
  | .form context opened problem mark =>
      let opening :=
        match opened with
        | some m => if m.line = mark.line ∧ m.column = mark.column then [] else [m.describe source]
        | none => []
      "\n".intercalate (context.toList ++ opening ++ [problem, mark.describe source])
  | .character code position =>
      "unacceptable character #x" ++ Text.toString (Text.hex 4 code) ++
        ": special characters are not allowed\n  in " ++ sourceName ++ ", position " ++
        toString position
  | .misuse _ => elided

end Yaml
end AmbientBundle
