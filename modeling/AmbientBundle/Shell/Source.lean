import AmbientBundle.Shell.Command

/-!
# Sources of the shell

A script is read a command at a time, since a command may change how the next one is
read and an error in a later line does not undo an earlier one.  A *source* is what is
left to read, with the number of the line, the token that was put back, and the
documents that are still to come.

A backslash before a line end joins two lines.  Such a pair is skipped wherever a
character is asked for, except in quotes that keep everything.
-/

namespace AmbientBundle
namespace Shell

/-- A token of a script. -/
inductive Token where
  /-- The end of the script. -/
  | finish
  /-- The end of a line. -/
  | newline
  /-- A sign such as `;` or `&&`. -/
  | sign (s : String)
  /-- The start of a redirection: the number of its channel, if there is one, and its first
  character, which is still to be read. -/
  | redirect (fd : Option Nat) (sign : Char)
  /-- A word, and whether a part of it was quoted. -/
  | word (w : Word) (quoted : Bool)
  /-- A word with a meaning of its own, such as `if`. -/
  | reserved (s : String)

/-- A document that is still to come. -/
structure Waiting where
  /-- Its number. -/
  number : Nat
  /-- The line that ends it. -/
  mark : Octets
  /-- Whether tabs at the start of its lines are dropped. -/
  stripped : Bool
  /-- Whether its text stands for itself. -/
  literal : Bool

/-- What is left of a script, and how it is read. -/
structure Source where
  /-- What is left. -/
  rest : Octets
  /-- The number of the line. -/
  line : Nat := 1
  /-- The way commands are written. -/
  dialect : Dialect := .plain
  /-- Words that stand for other texts. -/
  aliases : List (Octets × Octets) := []
  /-- Words that were replaced, each with what was left behind it. -/
  replaced : List (Octets × Nat) := []
  /-- A token that was put back. -/
  back : Option Token := none
  /-- The last token. -/
  last : Token := .finish
  /-- Documents that are still to come, first one first. -/
  waiting : List Waiting := []
  /-- Documents that were read. -/
  documents : List (Nat × Word) := []
  /-- The number of the next document. -/
  next : Nat := 0

/-- Why a script cannot be read. -/
inductive Misread where
  /-- A token stands where it cannot, maybe in place of another one. -/
  | unexpected (found : Token) (wanted : Option String)
  /-- Something is not closed since a line; the character would close it. -/
  | unclosed (mark : Char) (since : Nat) (reason : String)
  /-- Something else. -/
  | other (reason : String)

/-- Reading a part of a script. -/
abbrev Reading := ExceptT Misread (StateM Source)

/-- What a token is called. -/
def Token.title : Token → String
  | .finish => "end of file"
  | .newline => "newline"
  | .sign s => "\"" ++ s ++ "\""
  | .redirect .. => "redirection"
  | .word _ _ => "word"
  | .reserved s => "\"" ++ s ++ "\""

/-- Whether a token ends a sequence of commands. -/
def Token.endsList : Token → Bool
  | .finish => true
  | .sign s => s = ")" || s = ";;" || s = ";&" || s = ";;&"
  | .reserved s => ["do", "done", "elif", "else", "esac", "fi", "then", "\x7d"].contains s
  | _ => false

/-- The words with a meaning of their own. -/
def reservedWords : List String :=
  ["!", "case", "do", "done", "elif", "else", "esac", "fi", "for", "if", "in", "then", "until",
    "while", "\x7b", "\x7d"]

/-- The words that have a meaning in the way with more forms only. -/
def moreReservedWords : List String := ["[[", "function", "time"]

/-! ## Characters -/

/-- How many pairs of a backslash and a line end stand at the front, and what follows. -/
def dropJoins : Octets → Nat × Octets
  | '\\' :: '\n' :: rest =>
      let (n, t) := dropJoins rest
      (n + 1, t)
  | t => (0, t)

/-- Skip joined lines. -/
def Source.joined (s : Source) : Source :=
  let (n, t) := dropJoins s.rest
  { s with rest := t, line := s.line + n }

/-- Skip a character. -/
def Source.forward (s : Source) : Source :=
  match s.rest with
  | [] => s
  | c :: rest => { s with rest, line := if c = '\n' then s.line + 1 else s.line }

namespace Reading

/-- The next character. -/
def look : Reading (Option Char) := do
  modify Source.joined
  return (← get).rest.head?

/-- The next character as it stands. -/
def lookRaw : Reading (Option Char) := do return (← get).rest.head?

/-- Skip a character. -/
def skip : Reading Unit := modify Source.forward

/-- Skip a character that stands where it cannot.  It counts for no line. -/
def pass : Reading Unit := modify fun s => { s with rest := s.rest.tail }

/-- Skip some characters. -/
def skipMany : Nat → Reading Unit
  | 0 => pure ()
  | n + 1 => do skip; skipMany n

/-- Skip a character if it is the next one. -/
def accept (c : Char) : Reading Bool := do
  if (← look) = some c then skip; return true
  else return false

/-- Skip a text if it comes next. -/
def acceptAll (t : String) : Reading Bool := do
  if Text.startsWith (← get).rest t.toList then skipMany t.length; return true
  else return false

/-- The characters that come next and pass a test. -/
def takeWhile (p : Char → Bool) : Nat → Reading Octets
  | 0 => return []
  | n + 1 => do
      match ← look with
      | some c => if p c then skip; return c :: (← takeWhile p n) else return []
      | none => return []

/-- Whether more forms are known. -/
def hasMore : Reading Bool := do return (← get).dialect = .bash

/-- A bound on the steps that can still be made. -/
def bound : Reading Nat := do return (← get).rest.length + 2

/-- Put the last token back. -/
def putBack : Reading Unit := modify fun s => { s with back := some s.last }

/-- Complain about the last token. -/
def refuse {α : Type} (wanted : Option String := none) : Reading α := do
  throw (.unexpected (← get).last wanted)

end Reading

/-! ## Parts in the making -/

/-- Add a character to parts that stand last first and have their texts backwards. -/
def addChar (quoted : Bool) (c : Char) : Word → Word
  | .text t q :: rest =>
      if q = quoted then .text (c :: t) q :: rest else .text [c] quoted :: .text t q :: rest
  | w => .text [c] quoted :: w

/-- Turn a part around. -/
def turned : Part → Part
  | .text t q => .text t.reverse q
  | p => p

/-- The parts in order. -/
def finished (w : Word) : Word := (w.map turned).reverse

/-- Add parts that are in order. -/
def addParts (ps : Word) (w : Word) : Word := (ps.map turned).reverse ++ w

/-- Whether a part in quotes can be replaced by any number of words. -/
def Part.isMany : Part → Bool
  | .value ['@'] _ (.orElse ..) _ => false
  | .value ['@'] _ _ _ => true
  | .value _ (some [.text ['@'] _]) use _ =>
      match use with
      | .length => false
      | .orElse .. => false
      | _ => true
  | _ => false

/-- Whether parts in quotes stand for no word at all if there are no arguments.  In the plain way
nothing may stand beside the arguments. -/
def Word.mayVanish (more : Bool) (w : Word) : Bool :=
  if more then w.any Part.isMany
  else
    match w with
    | [.value ['@'] none .plain _] => true
    | _ => false

end Shell
end AmbientBundle
