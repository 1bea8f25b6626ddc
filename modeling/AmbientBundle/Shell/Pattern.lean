import AmbientBundle.FileTree.Listing
import AmbientBundle.Octets
import AmbientBundle.Text.Member

/-!
# Patterns

A pattern is a text in which `*` stands for any characters, `?` for one character and
a list in brackets for one of some characters.  A character that was quoted stands for
itself, so a pattern is made of *glyphs*, characters that know whether they were
quoted.

`Pattern.ofGlyphs` takes a pattern apart once; `fits` is a recursion over what it
is made of.  `paths` finds the paths that match, component by component, in the order
of their bytes.  A name that starts with a dot is found only by a pattern that says so.
-/

namespace AmbientBundle
namespace Shell

/-- A character that knows whether it was quoted. -/
structure Glyph where
  /-- The character. -/
  char : Char
  /-- Whether it was quoted. -/
  quoted : Bool
  deriving DecidableEq, Repr

/-- Glyphs that were all quoted or all not. -/
def glyphs (quoted : Bool) (t : Octets) : List Glyph := t.map (⟨·, quoted⟩)

/-- The characters of some glyphs. -/
def unglyph (gs : List Glyph) : Octets := gs.map (·.char)

/-- What a pattern is made of. -/
inductive Element where
  /-- A character. -/
  | one (c : Char)
  /-- Any character. -/
  | any
  /-- Any characters. -/
  | star
  /-- One of some characters, or none of them. -/
  | among (negated : Bool) (members : List Member)
  deriving DecidableEq, Repr

namespace Pattern

/-- The class at the front of some glyphs, after its opening bracket and colon. -/
def classOf? (gs : List Glyph) : Option (String × List Glyph) :=
  let name := gs.takeWhile fun g => g.char.isAlpha
  match gs.drop name.length with
  | ⟨':', _⟩ :: ⟨']', _⟩ :: rest => some (String.ofList (unglyph name), rest)
  | _ => none

/-- The members of a list, and what follows its closing bracket. -/
def members : Nat → Bool → List Glyph → Option (List Member × List Glyph)
  | 0, _, _ => none
  | _, _, [] => none
  | n + 1, first, g :: rest =>
      if g.char = ']' && !g.quoted && !first then some ([], rest)
      else
        match g, rest with
        | ⟨'[', false⟩, ⟨':', _⟩ :: more =>
            match classOf? more with
            | some (name, after) =>
                (members n false after).map fun (ms, r) => (.kind name :: ms, r)
            | none => (members n false rest).map fun (ms, r) => (.range '[' '[' :: ms, r)
        | _, ⟨'-', false⟩ :: h :: more =>
            if h.char = ']' && !h.quoted then
              (members n false rest).map fun (ms, r) => (.range g.char g.char :: ms, r)
            else (members n false more).map fun (ms, r) => (.range g.char h.char :: ms, r)
        | _, _ => (members n false rest).map fun (ms, r) => (.range g.char g.char :: ms, r)

/-- The list in brackets at the front of some glyphs, after its opening bracket. -/
def among? (caret : Bool) (gs : List Glyph) : Option (Element × List Glyph) :=
  let (negated, body) :=
    match gs with
    | ⟨'!', false⟩ :: rest => (true, rest)
    | ⟨'^', false⟩ :: rest => if caret then (true, rest) else (false, gs)
    | _ => (false, gs)
  (members (body.length + 1) true body).map fun (ms, rest) => (.among negated ms, rest)

/-- Take a pattern apart. -/
def ofGlyphsFrom (caret : Bool) : Nat → List Glyph → List Element
  | 0, _ => []
  | _, [] => []
  | n + 1, g :: rest =>
      if g.quoted then .one g.char :: ofGlyphsFrom caret n rest
      else if g.char = '*' then .star :: ofGlyphsFrom caret n rest
      else if g.char = '?' then .any :: ofGlyphsFrom caret n rest
      else if g.char = '\\' then
        match rest with
        | h :: more => .one h.char :: ofGlyphsFrom caret n more
        | [] => [.one '\\']
      else if g.char = '[' then
        match among? caret rest with
        | some (e, after) => e :: ofGlyphsFrom caret n after
        | none => .one '[' :: ofGlyphsFrom caret n rest
      else .one g.char :: ofGlyphsFrom caret n rest

/-- Take a pattern apart. -/
def ofGlyphs (caret : Bool) (gs : List Glyph) : List Element :=
  ofGlyphsFrom caret (gs.length + 1) gs

/-- What is left of a text after any number of its characters. -/
def suffixes : Octets → List Octets
  | [] => [[]]
  | c :: t => (c :: t) :: suffixes t

/-- Whether a text is what a pattern says. -/
def fits : List Element → Octets → Bool
  | [], t => t.isEmpty
  | .star :: rest, t => (suffixes t).any fun u => fits rest u
  | .one d :: rest, c :: t => c = d && fits rest t
  | .any :: rest, _ :: t => fits rest t
  | .among negated ms :: rest, c :: t => (ms.any (Member.has c) != negated) && fits rest t
  | _ :: _, [] => false

/-- What is left of a text without a match at its front. -/
def dropFront (p : List Element) (longest : Bool) (t : Octets) : Octets :=
  let lengths := List.range (t.length + 1)
  let order := if longest then lengths.reverse else lengths
  match order.find? fun n => fits p (t.take n) with
  | some n => t.drop n
  | none => t

/-- What is left of a text without a match at its end. -/
def dropBack (p : List Element) (longest : Bool) (t : Octets) : Octets :=
  let lengths := List.range (t.length + 1)
  let order := if longest then lengths else lengths.reverse
  match order.find? fun n => fits p (t.drop n) with
  | some n => t.take n
  | none => t

/-- What is left of some texts without a match at their front or end.  A match at the front is
looked for in the first text; if the longest one is asked for and is all of it, nothing is left.  A
match at the end is looked for from the last text on, or in the first one if the longest is asked
for, and the texts behind it are dropped. -/
def dropAmong (p : List Element) (front longest : Bool) (ts : List Octets) : List Octets :=
  let hasBack (t : Octets) : Bool := (List.range (t.length + 1)).any fun n => fits p (t.drop n)
  match ts with
  | [] => [[]]
  | t :: rest =>
      if front then
        if longest && fits p t then [[]] else dropFront p longest t :: rest
      else if longest then if hasBack t then [dropBack p true t] else ts
      else
        let kept := (ts.reverse.dropWhile (!hasBack ·))
        match kept with
        | last :: before => before.reverse ++ [dropBack p false last]
        | [] => ts

/-- The length of the longest match at the front of a text. -/
def longestFront? (p : List Element) (t : Octets) : Option Nat :=
  (List.range (t.length + 1)).reverse.find? fun n => fits p (t.take n)

/-- Replace matches in a text: the first one or all of them. -/
def replace (p : List Element) (all : Bool) (new : Octets) : Nat → Octets → Octets
  | 0, t => t
  | _, [] => []
  | n + 1, c :: t =>
      match longestFront? p (c :: t) with
      | some (k + 1) =>
          let rest := (c :: t).drop (k + 1)
          new ++ if all then replace p all new n rest else rest
      | _ => c :: replace p all new n t

/-! ## Paths -/

/-- Whether glyphs hold a sign of a pattern. -/
def isActive (gs : List Glyph) : Bool :=
  gs.any fun g => !g.quoted && (g.char = '*' || g.char = '?' || g.char = '[')

/-- Whether a text comes before another, byte by byte. -/
def before (a b : Octets) : Bool := Text.le a b

/-- The components of glyphs between slashes. -/
def components (gs : List Glyph) : List (List Glyph) :=
  gs.foldr
    (fun g acc =>
      if g.char = '/' then [] :: acc
      else
        match acc with
        | [] => [[g]]
        | c :: cs => (g :: c) :: cs)
    [[]]

/-- The names in a directory that match, in order. -/
def names (tree : Folder) (cwd : Spot) (dir : Octets) (p : List Element) : List Octets :=
  let hidden := p.head? = some (.one '.')
  let path := Path.parse (Octets.toText dir)
  match tree.readDir cwd path with
  | .error _ => []
  | .ok inner =>
      let all := inner.entries.map fun e => Octets.ofText e.1
      let all := if hidden then ['.'] :: ['.', '.'] :: all else all
      (all.filter fun n => (n.head? ≠ some '.' || hidden) && fits p n).mergeSort before

/-- The paths that follow a first path through some components. -/
def follow (tree : Folder) (cwd : Spot) (caret : Bool) (sofar : Octets) :
    List (List Glyph) → List Octets
  | [] => [sofar]
  | c :: rest =>
      let slash := if rest.isEmpty then [] else ['/']
      if isActive c then
        (names tree cwd (if sofar.isEmpty then ['.'] else sofar) (ofGlyphs caret c)).flatMap
          fun n =>
            let here := sofar ++ n
            if rest.isEmpty || tree.isDir cwd (Path.parse (Octets.toText here)) then
              follow tree cwd caret (here ++ slash) rest
            else []
      else follow tree cwd caret (sofar ++ unglyph c ++ slash) rest

/-- The paths that match a pattern. -/
def paths (tree : Folder) (cwd : Spot) (caret : Bool) (gs : List Glyph) : List Octets :=
  (follow tree cwd caret [] (components gs)).filter fun p =>
    tree.isThere cwd (Path.parse (Octets.toText p))

end Pattern
end Shell
end AmbientBundle
