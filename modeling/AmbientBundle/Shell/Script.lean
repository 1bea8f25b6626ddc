import AmbientBundle.Shell.Reading
import AmbientBundle.Shell.State

/-!
# Scripts

The commands of a text are read and run one line at a time.  A line that cannot be read
ends the shell, but only when it is reached.

What commands do is not known here: a *runner* runs them.
-/

namespace AmbientBundle
namespace Shell

/-- Runs what lies deeper. -/
structure Runner where
  /-- Run a command.  It may be told that its status is tested, so that a failure is no end. -/
  command : Bool → Command → Run Unit
  /-- Run a program in place of the shell. -/
  program : String → List Octets → Run Unit

namespace Script

/-- What is said of a script that cannot be read. -/
def misreadText : Misread → Octets
  | .unexpected found none => "Syntax error: ".toList ++ Octets.ofString found.title ++
      " unexpected".toList
  | .unexpected found (some wanted) => "Syntax error: ".toList ++ Octets.ofString found.title ++
      " unexpected (expecting ".toList ++ wanted.toList ++ [')']
  | .unclosed _ _ reason => "Syntax error: ".toList ++ reason.toList
  | .other reason => "Syntax error: ".toList ++ reason.toList

/-- A token as it stands in a script. -/
def tokenText : Token → Octets
  | .newline => "newline".toList
  | .sign s => s.toList
  | .reserved s => s.toList
  | .redirect _ sign => [sign]
  | .word w _ => Word.shown w
  | .finish => []

/-- What the way with more forms says of a script that cannot be read. -/
def misreadTexts (text : Octets) (line : Nat) : Misread → List Octets
  | .unexpected .finish _ => ["syntax error: unexpected end of file".toList]
  | .unexpected found _ =>
      let row := ((Octets.lines text)[line - 1]?).getD []
      ["syntax error near unexpected token `".toList ++ tokenText found ++ ['\''],
        '`' :: row ++ ['\'']]
  | .unclosed c _ _ => ["unexpected EOF while looking for matching `".toList ++ [c, '\'']]
  | .other _ => ["syntax error: unexpected end of file".toList]

/-- Stop because a script cannot be read. -/
def refuse (text : Octets) (line : Nat) (e : Misread) : Run Unit := do
  match (← Run.shell).dialect with
  | .plain =>
      Run.onShell fun s => { s with line }
      Run.fault (misreadText e)
  | .bash =>
      let row := match e with
        | .unexpected .newline _ => line - 1
        | .unclosed _ since _ => since
        | _ => line
      Run.onShell fun s => { s with line := row }
      (misreadTexts text row e).forM Run.warn
      Run.setStatus 2
      throw .failed

/-- Whether a command is there. -/
def isSomething : Command → Bool
  | .nothing => false
  | _ => true

/-- The lines that were read between two texts of which the second is what is left of the first. -/
def linesBetween (before after : Octets) : Octets :=
  let read := before.take (before.length - after.length)
  if read.getLast?.getD '\n' = '\n' then read
  else read ++ after.takeWhile (· ≠ '\n') ++ (if after.contains '\n' then ['\n'] else [])

/-- Run what is left of a text.  It is known whether its lines can be shown and whether a command
was run already. -/
def runFrom (r : Runner) (tested shown : Bool) (text : Octets) : Nat → Bool → Source → Run Unit
  | 0, _, _ => throw .spent
  | n + 1, ran, source => do
      let s ← Run.shell
      let m ← Run.machine
      let source :=
        { source with
          aliases := s.aliases, dialect := s.dialect, next := m.nextDocument, documents := [] }
      let (result, after) := readLine.run.run source
      if shown && s.flags.verbose then Run.complain (linesBetween source.rest after.rest)
      match result with
      | .error e => refuse text after.line e
      | .ok none => if ran then pure () else Run.setStatus 0
      | .ok (some c) =>
          Run.onShell fun s => { s with upTo := after.line }
          Run.onMachine fun m =>
            { m with documents := after.documents ++ m.documents, nextDocument := after.next }
          if s.flags.noexec then pure () else r.command tested c
          runFrom r tested shown text n (ran || isSomething c) after

/-- Run the commands of a text. -/
def run (r : Runner) (tested : Bool) (text : Octets) : Run Unit :=
  runFrom r tested false text (text.length + 2) false { rest := text }

/-- Run the commands of a file, whose lines can be shown. -/
def runFile (r : Runner) (text : Octets) : Run Unit :=
  runFrom r false true text (text.length + 2) false { rest := text }

end Script
end Shell
end AmbientBundle
