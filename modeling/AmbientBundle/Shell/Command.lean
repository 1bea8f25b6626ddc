import AmbientBundle.Octets

/-!
# Commands of the shell

A script is a sequence of commands.  A *simple* command has words, settings of
variables in front of them and redirections; the others join commands: one after the
other, one if another one succeeds, one into another, again and again.

A *word* is made of parts, since parts of it are to be replaced: by the value of a
parameter, by the output of a command, by a number.  A part knows whether it stood in
quotes, because what a quoted part is replaced by is never cut into words and never
taken for a pattern.

The text of a document that is given to a command in place follows later in the
script.  A redirection holds its number only.

Two ways of writing commands are known, a plain one and one with more forms: arrays,
conditions in double brackets, arithmetic commands and others.
-/

namespace AmbientBundle
namespace Shell

/-- A way of writing commands. -/
inductive Dialect where
  /-- The plain way. -/
  | plain
  /-- The way with more forms. -/
  | bash
  deriving DecidableEq, Repr

/-- How a file is opened by a redirection. -/
inductive Opening where
  /-- To read. -/
  | read
  /-- To write from its start. -/
  | write
  /-- To write from its start, whatever it holds. -/
  | clobber
  /-- To write at its end. -/
  | append
  /-- To read and write. -/
  | both
  deriving DecidableEq, Repr

mutual

/-- A part of a word. -/
inductive Part where
  /-- Characters that stand for themselves. -/
  | text (t : Octets) (quoted : Bool)
  /-- The value of a parameter, or what is made of it.  An element of an array has an index. -/
  | value (name : Octets) (index : Option (List Part)) (use : Use) (quoted : Bool)
  /-- The output of commands. -/
  | output (body : Command) (quoted : Bool)
  /-- The value of an arithmetic expression. -/
  | number (body : List Part) (quoted : Bool)
  /-- The name of a file that commands write to, or read from. -/
  | conduit (body : Command) (reads : Bool)

/-- What is made of a value.  Words that stand in for a value can also stand in for an empty
one. -/
inductive Use where
  /-- The value itself. -/
  | plain
  /-- Its length. -/
  | length
  /-- The value, or a word in its place. -/
  | orElse (empty : Bool) (word : List Part)
  /-- The value, or a word that it is set to. -/
  | orSet (empty : Bool) (word : List Part)
  /-- The value, or an end with a message. -/
  | orFail (empty : Bool) (word : List Part)
  /-- A word if there is a value. -/
  | instead (empty : Bool) (word : List Part)
  /-- The value without the longest or the shortest match of a pattern at its front or its end. -/
  | cut (front longest : Bool) (pattern : List Part)
  /-- The value with matches of a pattern replaced.  The letter tells which ones. -/
  | swap (which : Char) (pattern new : List Part)
  /-- A stretch of the value. -/
  | slice (start : List Part) (length : Option (List Part))
  /-- The value with other letters, all of them or the first one. -/
  | letters (upper all : Bool)
  /-- The value of the parameter whose name is the value. -/
  | indirect
  /-- The indices of an array. -/
  | indices
  /-- The value with quotes that a shell would read. -/
  | requoted
  /-- Nothing that can be made. -/
  | bad

/-- A condition in double brackets. -/
inductive Condition where
  /-- A word that is not empty. -/
  | word (w : List Part)
  /-- A test of one word. -/
  | unary (test : Octets) (w : List Part)
  /-- A test of two words. -/
  | binary (test : Octets) (a b : List Part)
  /-- The opposite. -/
  | negate (c : Condition)
  /-- Both. -/
  | both (a b : Condition)
  /-- One of two. -/
  | either (a b : Condition)

/-- Where a channel of a command leads. -/
inductive Redirect where
  /-- To a file. -/
  | file (fd : Nat) (opening : Opening) (name : List Part)
  /-- Where another channel leads, or nowhere. -/
  | copy (fd : Nat) (output : Bool) (target : List Part)
  /-- To a document of the script. -/
  | document (fd number : Nat)
  /-- To a word and a line end. -/
  | line (fd : Nat) (word : List Part)
  /-- Output and complaints to a file. -/
  | all (append : Bool) (name : List Part)

/-- The value that a setting gives. -/
inductive Given where
  /-- A word. -/
  | word (w : List Part)
  /-- The elements of an array. -/
  | array (ws : List (List Part))

/-- The setting of a variable. -/
inductive Setting where
  /-- A name, an index, whether the value is added at the end, and the value. -/
  | mk (name : Octets) (index : Option (List Part)) (more : Bool) (given : Given)

/-- A command. -/
inductive Command where
  /-- No command. -/
  | nothing
  /-- Settings, words and redirections, with the line they stand in. -/
  | simple (line : Nat) (settings : List Setting) (words : List (List Part))
      (redirects : List Redirect)
  /-- Commands whose output is the input of the next one. -/
  | pipe (commands : List Command)
  /-- A command and another one if it succeeds. -/
  | all (a b : Command)
  /-- A command and another one if it fails. -/
  | any (a b : Command)
  /-- A command and another one. -/
  | next (a b : Command)
  /-- A command whose status is turned around. -/
  | negate (c : Command)
  /-- A command that nobody waits for. -/
  | background (line : Nat) (c : Command) (redirects : List Redirect)
  /-- A command in a shell of its own. -/
  | subshell (line : Nat) (c : Command) (redirects : List Redirect)
  /-- A command with redirections. -/
  | redirected (line : Nat) (c : Command) (redirects : List Redirect)
  /-- A choice between two commands. -/
  | branch (test yes no : Command)
  /-- A command for as long as another one succeeds, or until it does. -/
  | loop (untilTrue : Bool) (test body : Command)
  /-- A command for each of some words. -/
  | each (line : Nat) (name : Octets) (words : List (List Part)) (body : Command)
  /-- A command with three arithmetic expressions around it. -/
  | counted (line : Nat) (start test step : List Part) (body : Command)
  /-- The command of the first pattern that a word matches.  The letter after it tells where to
  go on. -/
  | choose (line : Nat) (word : List Part) (cases : List (List (List Part) × Command × Char))
  /-- A function. -/
  | define (line : Nat) (name : Octets) (body : Command)
  /-- An arithmetic expression. -/
  | weigh (line : Nat) (body : List Part)
  /-- A condition. -/
  | judge (line : Nat) (condition : Condition)

end

/-- A word before its parts are replaced. -/
abbrev Word := List Part

/-- A word of characters that stand for themselves. -/
def Word.plain (t : Octets) : Word := [.text t false]

instance : Inhabited Command := ⟨.nothing⟩

/-- The characters of a word in which nothing is quoted and nothing is to be replaced. -/
def Word.plain? : Word → Option Octets
  | [] => some []
  | .text t false :: rest => (Word.plain? rest).map (t ++ ·)
  | _ :: _ => none

/-- A letter or a low line, which may start a name. -/
def isNameStart (c : Char) : Bool := c.isAlpha || c = '_'

/-- What may stand in a name. -/
def isNameChar (c : Char) : Bool := c.isAlphanum || c = '_'

/-- Whether a text is a name. -/
def isName : Octets → Bool
  | [] => false
  | c :: rest => isNameStart c && rest.all isNameChar

end Shell
end AmbientBundle
