import AmbientBundle.Shell.Pattern

/-!
# Fields

What the parts of a word are replaced by is a row of *pieces*: characters, gaps between
fields, and the trace of quotes around nothing.  A character that came out of an
unquoted replacement may separate fields.

`fields` cuts a row of pieces.  Blanks that separate count together and never at the
ends; any other separator stands for itself, with the blanks around it, and an empty
field can lie between two of them.
-/

namespace AmbientBundle
namespace Shell

/-- A piece of a word after its parts were replaced. -/
inductive Piece where
  /-- A character, and whether it may separate fields. -/
  | glyph (g : Glyph) (separates : Bool)
  /-- The end of a field. -/
  | gap
  /-- Quotes. -/
  | quotes
  deriving DecidableEq, Repr

namespace Piece

/-- A text as pieces. -/
def ofText (quoted separates : Bool) (t : Octets) : List Piece :=
  t.map fun c => .glyph ⟨c, quoted⟩ separates

/-- Texts as fields of their own. -/
def ofTexts (quoted : Bool) : List Octets → List Piece
  | [] => []
  | [t] => one t
  | t :: rest => one t ++ .gap :: ofTexts quoted rest
where
  /-- One text. -/
  one (t : Octets) : List Piece := (if quoted then [.quotes] else []) ++ ofText quoted (!quoted) t

/-- The glyphs of some pieces, with a text for each gap. -/
def glyphs (gap : Octets) : List Piece → List Glyph
  | [] => []
  | .glyph g _ :: rest => g :: glyphs gap rest
  | .gap :: rest => gap.map (⟨·, true⟩) ++ glyphs gap rest
  | .quotes :: rest => glyphs gap rest

end Piece

/-- Where cutting into fields stands. -/
inductive Standing where
  /-- At the start. -/
  | start
  /-- In a field. -/
  | inside
  /-- After blanks that ended a field. -/
  | afterBlank
  /-- After another separator. -/
  | afterMark
  deriving DecidableEq, Repr

/-- Whether a separator is a blank. -/
def isFieldBlank (c : Char) : Bool := c = ' ' || c = '\t' || c = '\n'

/-- Cut pieces into fields.  The glyphs of the field so far stand last first. -/
def fieldsFrom (separators : Octets) :
    Standing → List Glyph → List Piece → List (List Glyph)
  | s, acc, [] => if s = .inside then [acc.reverse] else []
  | s, acc, .gap :: rest =>
      (if s = .inside then [acc.reverse] else []) ++ fieldsFrom separators .start [] rest
  | _, acc, .quotes :: rest => fieldsFrom separators .inside acc rest
  | s, acc, .glyph g separates :: rest =>
      if separates && separators.contains g.char then
        if isFieldBlank g.char then
          if s = .inside then acc.reverse :: fieldsFrom separators .afterBlank [] rest
          else fieldsFrom separators s [] rest
        else if s = .afterBlank then fieldsFrom separators .afterMark [] rest
        else acc.reverse :: fieldsFrom separators .afterMark [] rest
      else fieldsFrom separators .inside (g :: acc) rest

/-- Cut pieces into fields. -/
def fields (separators : Octets) (ps : List Piece) : List (List Glyph) :=
  fieldsFrom separators .start [] ps

end Shell
end AmbientBundle
