import AmbientBundle.Text

/-!
# Members of lists in brackets

Patterns and regular expressions have lists in brackets, such as `[a-z_]`.  A member of
such a list is a range of characters or a class with a name.  The classes know the
characters of ASCII only.
-/

namespace AmbientBundle

/-- A member of a list in brackets. -/
inductive Member where
  /-- The characters between two. -/
  | range (a b : Char)
  /-- The characters of a class. -/
  | kind (name : String)
  deriving DecidableEq, Repr

/-- Whether a character is in a class. -/
def inClass (name : String) (c : Char) : Bool :=
  let visible := '!' ≤ c && c ≤ '~'
  match name with
  | "alpha" => c.isAlpha
  | "digit" => c.isDigit
  | "alnum" => c.isAlphanum
  | "upper" => c.isUpper
  | "lower" => c.isLower
  | "space" => c = ' ' || ('\t' ≤ c && c ≤ '\r')
  | "blank" => c = ' ' || c = '\t'
  | "punct" => visible && !c.isAlphanum
  | "print" => visible || c = ' '
  | "graph" => visible
  | "cntrl" => c.toNat < 32 || c.toNat = 127
  | "xdigit" => c.isDigit || ('a' ≤ c && c ≤ 'f') || ('A' ≤ c && c ≤ 'F')
  | _ => false

/-- Whether a character is what a member says. -/
def Member.has (c : Char) : Member → Bool
  | .range a b => a ≤ c && c ≤ b
  | .kind name => inClass name c

end AmbientBundle
