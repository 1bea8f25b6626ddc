import AmbientBundle.Text

/-!
# Paths

A path is an anchor and a list of parts.  A part is never empty and never `.`,
since neither leads anywhere; `..` is kept, since only the file tree knows where
it leads.  Exactly two leading slashes are an anchor of their own; three or more
count as one.

* `Path.parse` reads a path and `Path.toText` writes it.
* `Path.join` follows a second path from the first one, unless the second is
  anchored.
* `Path.normal` takes `..` back lexically, against the part before it.  At the
  root there is nothing to take back.
* `Path.under` makes a path absolute and normal, given a directory.
* `relativeParts` leads from one directory to another path: up out of what they
  do not share, then down.
-/

namespace AmbientBundle

/-- How a path starts. -/
inductive Anchor where
  /-- Nowhere in particular. -/
  | here
  /-- At the root, written `/`. -/
  | root
  /-- At the root, written `//`. -/
  | doubleRoot
  deriving DecidableEq, Repr

/-- The text an anchor is written as. -/
def Anchor.toText : Anchor → Text
  | .here => []
  | .root => ['/']
  | .doubleRoot => ['/', '/']

/-- A path: where it starts and the names it goes through. -/
structure Path where
  /-- Where it starts. -/
  anchor : Anchor := .here
  /-- The names, outermost first. -/
  parts : List Text := []
  deriving DecidableEq, Repr

/-- The part that leads to the directory above. -/
def upPart : Text := ['.', '.']

/-- The part that leads nowhere. -/
def herePart : Text := ['.']

namespace Path

/-! ## Reading and writing -/

/-- The anchor a text starts with. -/
def anchorOf : Text → Anchor
  | '/' :: '/' :: '/' :: _ => .root
  | '/' :: '/' :: _ => .doubleRoot
  | '/' :: _ => .root
  | _ => .here

/-- Whether a piece between slashes leads somewhere. -/
def isPart (p : Text) : Bool := p ≠ [] && p ≠ herePart

/-- Read a path. -/
def parse (t : Text) : Path := ⟨anchorOf t, (Text.splitOn '/' t).filter isPart⟩

/-- The parts with slashes between them; `.` stands for none. -/
def partsText : List Text → Text
  | [] => herePart
  | ps => Text.joinWith '/' ps

/-- Write a path. -/
def toText (p : Path) : Text :=
  match p.anchor with
  | .here => partsText p.parts
  | a => a.toText ++ Text.joinWith '/' p.parts

/-- A path as a string, for messages. -/
def toString (p : Path) : String := Text.toString p.toText

/-- Whether a path starts at the root. -/
def isAbsolute (p : Path) : Bool := p.anchor ≠ .here

/-! ## Going on from a path -/

/-- Follow a second path from a first one. -/
def join (p q : Path) : Path :=
  match q.anchor with
  | .here => { p with parts := p.parts ++ q.parts }
  | _ => q

/-- One name further down. -/
def child (p : Path) (name : Text) : Path := { p with parts := p.parts ++ [name] }

/-- The path without its last name. -/
def parent (p : Path) : Path := { p with parts := p.parts.dropLast }

/-! ## Normal form -/

/-- Put one more part on a stack of parts, innermost first.  `..` takes the part before it
back; where there is none, it stays in a path that starts nowhere and is dropped at the
root. -/
def pushPart (absolute : Bool) (stack : List Text) (p : Text) : List Text :=
  if p = upPart then
    match stack with
    | [] => if absolute then [] else [upPart]
    | top :: rest => if top = upPart then upPart :: top :: rest else rest
  else p :: stack

/-- The parts with every `..` taken back. -/
def normalParts (absolute : Bool) (ps : List Text) : List Text :=
  (ps.foldl (pushPart absolute) []).reverse

/-- The path with every `..` taken back. -/
def normal (p : Path) : Path := { p with parts := normalParts p.isAbsolute p.parts }

/-- A path made absolute and normal, given the directory it starts from. -/
def under (dir p : Path) : Path := (dir.join p).normal

/-- A path made absolute and normal, with a single slash in front. -/
def resolve (dir p : Path) : Path := { (under dir p) with anchor := .root }

/-! ## From one place to another -/

/-- The parts that lead from a directory to a place, both given from the root. -/
def relativeParts : List Text → List Text → List Text
  | s :: ss, p :: ps =>
      if s = p then relativeParts ss ps else List.replicate (ss.length + 1) upPart ++ p :: ps
  | ss, ps => List.replicate ss.length upPart ++ ps

/-- What is left of a path below a directory, if it is below it. -/
def below? (dir p : Path) : Option Path :=
  if dir.anchor = p.anchor ∧ dir.parts.isPrefixOf p.parts then
    some ⟨.here, p.parts.drop dir.parts.length⟩
  else none

/-- A path whose first part is `~` starts in the home directory, and one whose first part is
`~name` in the home of that user.  There is no answer for an unknown user. -/
def expandHome? (home : Path) (users : List (Text × Path)) (p : Path) : Option Path :=
  match p.anchor, p.parts with
  | .here, ('~' :: user) :: rest =>
      if user = [] then some { home with parts := home.parts ++ rest }
      else (users.lookup user).map fun h => { h with parts := h.parts ++ rest }
  | _, _ => some p

end Path

end AmbientBundle
