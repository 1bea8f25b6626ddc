import AmbientBundle.Session
import AmbientBundle.Words

/-!
# The compiler

The compiler is asked for one declaration file per source.  Its command has five
fixed words and then the options of the settings, cut into words.  It runs in the
package directory, and programs that the package installs come first on its search
path.  An exit code other than zero is a fault; what it wrote goes to the journal.
-/

namespace AmbientBundle

/-- A compiler: how it is started and under which name. -/
structure Compiler where
  /-- Who reports. -/
  voice : Voice
  /-- How programs are started. -/
  launcher : Launcher
  /-- The program. -/
  executable : Text := "tsc".toList

namespace Compiler

/-- The words of a command before any options. -/
def baseCommand (executable : Text) (dir : Path) : List Text :=
  [executable, "--declaration".toList, "--emitDeclarationOnly".toList, "--declarationDir".toList,
    dir.toText]

/-- The words of a command, with options given as a line. -/
def commandOf (executable : Text) (dir : Path) (options : Text) : Except WordsFault (List Text) :=
  if Text.isAllBlank options then .ok (baseCommand executable dir)
  else
    match Words.split options with
    | .ok ws => .ok (baseCommand executable dir ++ ws)
    | .error e => .error e

/-- The words of a command, with options of any kind. -/
def command (executable : Text) (dir : Path) : Value → Except Fault (List Text)
  | .text options =>
      match commandOf executable dir options with
      | .ok ws => .ok ws
      | .error e => .error (.words e)
  | _ => .error (.misuse .operation)

/-- The directory of the programs that a package installs. -/
def localPrograms (dir : Path) : Path := (dir.child "node_modules".toList).child ".bin".toList

/-- The search path for a package: its own programs first. -/
def searchPath (dir : Path) (outer : Option Text) : Text :=
  match outer with
  | none => (localPrograms dir).toText
  | some [] => (localPrograms dir).toText
  | some path => (localPrograms dir).toText ++ ':' :: path

/-- Start the program and keep a note of it. -/
def launch (c : Compiler) (l : Launch) : Action Outcome := do
  modify fun s => { s with launches := s.launches ++ [l] }
  Action.ofExcept (← Action.onTree c.voice.host (c.launcher l))

/-- Form the command that writes declarations into a directory, and report it. -/
def announce (c : Compiler) (dir : Path) (options : Value) : Action (List Text) := do
  let words ← Action.ofExcept (command c.executable dir options)
  c.voice.verbose "Generating per-file typings using TSC..."
  c.voice.debug (Text.toString (Words.join words))
  pure words

/-- The launch of a command in a directory. -/
def launchIn (c : Compiler) (cwd : Path) (words : List Text) : Launch :=
  ⟨words, cwd, searchPath cwd c.voice.host.searchPath⟩

/-- What the end of the program amounts to. -/
def conclude (c : Compiler) (o : Outcome) : Action Outcome := do
  if !o.success then throw (.compiler (.exited o.code o.output))
  if !Text.isAllBlank o.output then c.voice.info (Text.toString (Text.stripEnd o.output))
  c.voice.verbose "Per-file typings have been generated using TSC!"
  pure o

/-- Start the program and wait for its end. -/
def run (c : Compiler) (l : Launch) : Action Outcome := do
  let o ← c.launch l
  c.conclude o

/-- Have declarations written into a directory. -/
def compile (c : Compiler) (cwd dir : Path) (options : Value) : Action Outcome := do
  let words ← c.announce dir options
  c.run (c.launchIn cwd words)

end Compiler
end AmbientBundle
