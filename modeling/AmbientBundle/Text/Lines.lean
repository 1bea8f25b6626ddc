import AmbientBundle.Text

/-!
# Lines

Declaration sources come with any mix of line endings: LF, CR LF, LF CR and CR.
`splitLines` turns each of them into LF, in three passes over the whole text and
in this order, and cuts at LF.  `asRead` is the reading convention for
text files and for the output of programs: CR LF and CR become LF.
-/

namespace AmbientBundle
namespace Text

/-- CR LF becomes LF. -/
def unifyCrLf : Text → Text
  | [] => []
  | [c] => [c]
  | c :: d :: rest =>
      if c = '\r' ∧ d = '\n' then '\n' :: unifyCrLf rest
      else c :: unifyCrLf (d :: rest)

/-- LF CR becomes LF. -/
def unifyLfCr : Text → Text
  | [] => []
  | [c] => [c]
  | c :: d :: rest =>
      if c = '\n' ∧ d = '\r' then '\n' :: unifyLfCr rest
      else c :: unifyLfCr (d :: rest)

/-- A CR that is left alone becomes LF. -/
def unifyCr (t : Text) : Text := t.map fun c => if c = '\r' then '\n' else c

/-- Every line ending becomes LF. -/
def unifyEndings (t : Text) : Text := unifyCr (unifyLfCr (unifyCrLf t))

/-- The lines of a source, whatever its line endings. -/
def splitLines (t : Text) : List Text := splitOn '\n' (unifyEndings t)

/-- The reading convention for text: CR LF and CR become LF. -/
def asRead (t : Text) : Text := unifyCr (unifyCrLf t)

/-- Lines put back into one text, with LF between them. -/
def joinLines (ls : List Text) : Text := joinWith '\n' ls

/-- Cutting and joining at LF is the identity on unified text. -/
theorem joinLines_splitLines (t : Text) : joinLines (splitLines t) = unifyEndings t :=
  joinWith_splitOn '\n' _

end Text
end AmbientBundle
