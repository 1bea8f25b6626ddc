import AmbientBundle.Fault

/-!
# Launches

Starting a program takes the words of its command, the directory it runs in and
the search path it is found on.  What comes back is an exit code and everything it
wrote.  A launcher is any way to do this; it sees the working directory and the file
tree and leaves a file tree, and nothing else is assumed of it.
-/

namespace AmbientBundle

/-- A program to be started. -/
structure Launch where
  /-- The program and its arguments. -/
  words : List Text
  /-- The directory it runs in. -/
  cwd : Path
  /-- The directories programs are looked for in, with colons between them. -/
  searchPath : Text
  deriving DecidableEq, Repr

/-- How a program ended. -/
structure Outcome where
  /-- The exit code, or the number of the signal that ended it with a minus sign. -/
  code : Int
  /-- What it wrote. -/
  output : Text
  deriving DecidableEq, Repr

/-- Whether a program ended well. -/
def Outcome.success (o : Outcome) : Bool := o.code = 0

/-- A way to start programs. -/
abbrev Launcher := Launch → Spot → Folder → Except Fault Outcome × Folder

/-- Why a program cannot be started at all: its directory and its words have to be such that the
system can be asked for them. -/
def Launch.fault? (halves : Halves) (l : Launch) : Option Fault :=
  Text.fault? halves (l.cwd.toText ++ l.words.flatten)

/-- The first directory of the search path. -/
def Launch.firstDirectory (l : Launch) : Text := l.searchPath.takeWhile (· ≠ ':')

end AmbientBundle
