import AmbientBundle.Shell.Image
import AmbientBundle.Shell.Script

/-!
# Finding programs

A name without a slash is looked for in the directories of the search path.  The first
file there that can be run is the program.  A path is taken as it is, and it shows only
when it is started whether it can be run.

A file that is no program and no script with a first line is taken for a script of the
shell.
-/

namespace AmbientBundle
namespace Shell
namespace Locate

/-- The search path if none is set. -/
def standardPath : Octets := "/usr/local/sbin:/usr/local/bin:/usr/sbin:/usr/bin:/sbin:/bin".toList

/-- The search path. -/
def searchPath : Run Octets := do
  match ← Run.variableOf? "PATH".toList with
  | some v => return v.value.getD []
  | none => return if (← Run.shell).dialect = .bash then standardPath else []

/-- The first of some files that can be run, or why there is none. -/
def firstFile (tree : Folder) (cwd : Spot) : Errno → List Octets → Except Errno Octets
  | e, [] => .error e
  | e, c :: rest =>
      match tree.statText cwd (Octets.toText c) with
      | .error .noEntry => firstFile tree cwd e rest
      | .error .notDirectory => firstFile tree cwd e rest
      | .error other => firstFile tree cwd other rest
      | .ok (_, .file _ .program) => .ok c
      | .ok _ => firstFile tree cwd .denied rest

/-- The file of a program, looked for in some directories. -/
def inPath (path name : Octets) : Run (Except Errno Octets) := do
  if name.contains '/' then return .ok name
  else
    let s ← Run.shell
    return firstFile (← Run.machine).tree s.cwd .noEntry (Image.candidates path name)

/-- The file of a program. -/
def file (name : Octets) : Run (Except Errno Octets) := do inPath (← searchPath) name

/-- What is said of a program that cannot be started, and the status for it. -/
def startFault (dialect : Dialect) (isDirectory found : Bool) (name : Octets) (e : Errno) :
    Octets × Nat :=
  let missing := e = .noEntry || e = .notDirectory
  let status := if missing || e = .nameTooLong then 127 else 126
  match dialect with
  | .plain => (name ++ ": ".toList ++ (if missing then "not found" else e.text).toList, status)
  | .bash =>
      let reason :=
        if !name.contains '/' then "command not found"
        else if isDirectory then "Is a directory"
        else if missing && found then "cannot execute: required file not found"
        else e.text
      (name ++ ": ".toList ++ reason.toList, if name.contains '/' then status else 127)

/-- Run the file at a path in place of the shell.  A name that was asked for stands in
complaints. -/
def start (r : Runner) (name path : Octets) (words : List Octets) : Run Unit := do
  let s ← Run.shell
  let tree := (← Run.machine).tree
  match Image.ofPath tree s.cwd path words with
  | .ok image => r.program image.program image.words
  | .error .notProgram =>
      let shell := if s.dialect = .bash then "bash" else "sh"
      r.program shell (shell.toList :: path :: words.tail)
  | .error e =>
      let entry := tree.statText s.cwd (Octets.toText path)
      let isDirectory := match entry with
        | .ok (_, .dir _) => true
        | _ => false
      let found := match entry with
        | .ok _ => true
        | _ => false
      let (t, status) := startFault s.dialect isDirectory found name e
      Run.warn t
      Run.setStatus status
      throw .exit

end Locate
end Shell
end AmbientBundle
