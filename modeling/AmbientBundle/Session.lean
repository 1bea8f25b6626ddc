import AmbientBundle.Compiler.Launch
import AmbientBundle.FileTree.Depth
import AmbientBundle.Journal
import AmbientBundle.Manifest

/-!
# Sessions

A session is what a run reads and changes: the file tree, the journal, the scratch
directory in use, the manifest once it has been read, and five counts of what
cannot be seen in the tree.  An *action* goes from session to session and gives a
result or a fault; the session is kept in either case, since a failed step may have
changed something.

A run holds on to its working directory and to its log file.  Whenever the tree
changes, the session notices which of them have gone; neither comes back.

A *host* is what a run finds and cannot change: its directories, the search path,
the time, and what others do to the tree while the run pauses.  It also says how texts
of settings are read and which characters stand for halves of pairs, and how deep
directories may lie in one another for a run to make and to remove them.  That depends on
how much the run is in the middle of, which shows in the number of its records so far.
-/

namespace AmbientBundle

/-- How many levels of directories a run can make or remove, unless a host says otherwise. -/
def usualDepth : Nat := 960

/-- What a run finds and cannot change. -/
structure Host where
  /-- The working directory. -/
  cwd : Path
  /-- The home directory. -/
  home : Path
  /-- The home directories of other users. -/
  users : List (Text × Path) := []
  /-- The search path, if there is one. -/
  searchPath : Option Text := none
  /-- The directory that holds the tool itself. -/
  tool : Path
  /-- The directory in which temporary directories are made. -/
  temporary : Path
  /-- The time, as log files show it. -/
  stamp : String := ""
  /-- What happens to the tree during the pause with a number. -/
  pause : Nat → Folder → Folder := fun _ tree => tree
  /-- The characters that stand for halves of pairs. -/
  halves : Halves := .spare
  /-- The value that the text of a project file stands for. -/
  reader : Text → Except ReadingFault Value := fun _ => .ok .null
  /-- How many levels of directories can be removed at a moment, if there is a limit. -/
  room : Nat → Option Nat := fun _ => some usualDepth
  /-- How many missing directories can be made above another at a moment, if there is a limit. -/
  rungs : Nat → Option Nat := fun _ => some usualDepth

/-- The working directory as a run starts. -/
def Host.spot (h : Host) : Spot := ⟨h.cwd.parts, 0⟩

/-- A scratch directory in use. -/
structure Scratch where
  /-- Where it is. -/
  path : Path
  /-- Whether it has been cleared since it was made. -/
  emptied : Bool := true
  deriving DecidableEq, Repr

/-- What a run reads and changes. -/
structure Session where
  /-- The file tree. -/
  tree : Folder
  /-- How many of the last names of the working directory have gone. -/
  lost : Nat := 0
  /-- The journal. -/
  journal : Journal := {}
  /-- The scratch directory in use. -/
  scratch : Option Scratch := none
  /-- The manifest, once it has been read. -/
  manifest : Option Manifest := none
  /-- The programs that were started, oldest first. -/
  launches : List Launch := []
  /-- How many temporary directories were made. -/
  temporaries : Nat := 0
  /-- How many pauses were made. -/
  pauses : Nat := 0
  /-- How often a step stopped because something lay too deep. -/
  stops : Nat := 0

namespace Session

/-- The moment of a session: the number of its records. -/
def moment (s : Session) : Nat := s.journal.records.length

/-- The working directory as it is now. -/
def spot (s : Session) (host : Host) : Spot := { host.spot with lost := s.lost }

/-- The session with another file tree. -/
def withTree (s : Session) (host : Host) (tree : Folder) : Session :=
  { s with
    tree
    lost := max s.lost (tree.missing host.cwd.parts)
    journal := s.journal.follow tree }

/-- The session in which one more step has stopped because something lay too deep. -/
def stopped (s : Session) : Session := { s with stops := s.stops + 1 }

end Session

/-- A step of a run. -/
abbrev Action := ExceptT Fault (StateM Session)

namespace Action

/-- Run an action. -/
def outcome {α : Type} (act : Action α) (s : Session) : Except Fault α × Session :=
  (ExceptT.run act).run s

/-- Stop unless there is a result. -/
def ofExcept {α : Type} : Except Fault α → Action α
  | .ok a => pure a
  | .error e => throw e

/-- Change the file tree, given the working directory; the tree is kept also where the change
fails. -/
def onTree {α : Type} (host : Host) (f : Spot → Folder → α × Folder) : Action α := do
  let s ← get
  let (result, tree) := f (s.spot host) s.tree
  set (s.withTree host tree)
  pure result

/-- Stop if no file system can be asked for a path. -/
def checkPath (host : Host) (p : Path) : Action Unit :=
  match p.fault? host.halves with
  | some f => throw f
  | none => pure ()

/-- Stop because something lies too deep. -/
def tooDeep {α : Type} : Action α := do
  modify Session.stopped
  throw (.misuse .depth)

/-- Make a directory and those above it.  If too many are missing, none is made. -/
def makeDirs (host : Host) (p : Path) : Action (Except OsFault Unit) := do
  let s ← get
  if (host.rungs s.moment).any (· < s.tree.climb (s.spot host) p) then tooDeep
  else onTree host fun cwd tree => tree.makeDirs cwd p

/-- Remove a directory with everything below it, or as much of it as can be removed before
something lies too deep. -/
def removeTree (host : Host) (p : Path) : Action (Except OsFault Unit) := do
  let s ← get
  match (host.room s.moment).bind fun room => s.tree.stuck? room (s.spot host) p with
  | some left => do
      set (s.withTree host left)
      tooDeep
  | none => onTree host fun cwd tree => tree.removeTree cwd p

/-- Stop if the working directory is needed and has gone. -/
def needWorkingDir (needed : Bool) : Action Unit := do
  if needed && (← get).lost ≠ 0 then throw (.os OsFault.adrift)

end Action

/-- A part that keeps the journal: its host and its full name. -/
structure Voice where
  /-- The host. -/
  host : Host
  /-- The full name of the part. -/
  part : String

namespace Voice

/-- The voice of a part below the tool. -/
def named (host : Host) (part : String) : Voice := ⟨host, partName part⟩

/-- Record a message. -/
def say (v : Voice) (level : Level) (message : String) : Action Unit :=
  modify fun s =>
    let (journal, tree) :=
      s.journal.write v.host.halves v.host.stamp ⟨level, v.part, message⟩ s.tree
    { s with journal, tree }

/-- Record a detail. -/
def debug (v : Voice) (message : String) : Action Unit := v.say Level.debug message

/-- Record progress. -/
def verbose (v : Voice) (message : String) : Action Unit := v.say Level.verbose message

/-- Record what a user wants to know. -/
def info (v : Voice) (message : String) : Action Unit := v.say Level.info message

/-- Record what is not as it should be. -/
def warning (v : Voice) (message : String) : Action Unit := v.say Level.warning message

/-- Record a failure. -/
def error (v : Voice) (message : String) : Action Unit := v.say Level.error message

end Voice
end AmbientBundle
