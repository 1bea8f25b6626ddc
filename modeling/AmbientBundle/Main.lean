import AmbientBundle.CommandLine.Run
import AmbientBundle.Compiler.Program
import AmbientBundle.FileTree.Changes
import AmbientBundle.Settings.Yaml
import Std.Time

/-!
# The program

Reads the directories that a command line is about, runs the command line on that copy,
and writes back what has changed.  Nothing is decided here.

Two limits come from working on a copy.  Of an installed package only the directory of
its programs is read, and a file counts as executable if it starts with the line of a
script.
-/

namespace AmbientBundle
namespace Machine

/-- The bytes of a file. -/
def bytesOf (path : String) : IO Bytes := do
  return (← IO.FS.readBinFile path).data.toList

/-- Whether bytes start with the line of a script. -/
def isScript : Bytes → Bool
  | 35 :: 33 :: _ => true
  | _ => false

/-- Where packages are installed, and where their programs are. -/
def installed : String := "node_modules"

/-- The entries of a directory.  Links to directories are not followed. -/
partial def readFolder (dir : String) : IO Folder := do
  let mut entries ← (← IO.FS.realPath dir).readDir
  if dir.endsWith ("/" ++ installed) then
    entries := entries.filter fun e => e.fileName == ".bin"
  let mut folder := Folder.nil
  for e in entries do
    let path := e.path.toString
    let name := e.fileName.toList
    if ← e.path.isDir then
      if (← IO.FS.realPath path).toString == path then
        folder := .dir name (← readFolder path) folder
    else if ← e.path.pathExists then
      let content ← bytesOf path
      folder := .file name content (if isScript content then .program else .data) folder
  return folder

/-- The directories that a command line is about. -/
def places (host : Host) (argv : List Text) : List Path :=
  match CommandLine.Arguments.parse argv with
  | .error _ => []
  | .ok a =>
      let named := ([some a.root, a.tmp].filterMap id).filterMap CommandLine.Given.path?
      host.cwd :: named.filterMap fun p => (Settings.absolute host p).toOption

/-- The file tree, as far as some directories go. -/
def readTree (host : Host) : List Path → IO Folder
  | [] => return .nil
  | p :: ps => do
      let tree ← readTree host ps
      try
        let inner ← readFolder p.toString
        return ((tree.makeDirs host.spot p).2).put p.parts (.dir inner)
      catch _ => return tree

/-- The path of a place. -/
def pathOf (place : List Text) : String := (Path.mk .root place).toString

/-- Carry out a change. -/
def carryOut : Change → IO Unit
  | .remove place true => IO.FS.removeDirAll (pathOf place)
  | .remove place false => IO.FS.removeFile (pathOf place)
  | .makeDir place => IO.FS.createDirAll (pathOf place)
  | .write place content => IO.FS.writeBinFile (pathOf place) ⟨content.toArray⟩

/-- The path that a variable of the environment holds. -/
def variablePath (name dflt : String) : IO Path := do
  return Path.parse ((← IO.getEnv name).getD dflt).toList

/-- What the program finds. -/
def host : IO Host := do
  return {
    cwd := Path.parse (← IO.currentDir).toString.toList
    home := ← variablePath "HOME" "/"
    searchPath := (← IO.getEnv "PATH").map String.toList
    tool := (Path.parse (← IO.appPath).toString.toList).parent
    temporary := ← variablePath "TMPDIR" "/tmp"
    stamp := (← Std.Time.PlainDateTime.now).format "uuuu-MM-dd HH:mm:ss,SSS"
    reader := Settings.yaml .spare }

/-- Say how a run ended and give its exit status. -/
def conclude (console : String) : Except Fault CommandLine.Ending → IO UInt32
  | .ok e => do
      IO.print e.output
      IO.eprint (console ++ e.reminder ++ e.complaint)
      return e.status.toUInt32
  | .error f => do
      IO.eprintln (console ++ f.kind ++ ((f.message?.map (": " ++ ·)).getD ""))
      return 1

/-- Run a command line and give its exit status. -/
def start (args : List String) : IO UInt32 := do
  let here ← host
  let argv := args.map String.toList
  let before := Shell.equip (← readTree here (places here argv))
  let compiler : Compiler :=
    { voice := Voice.named here "generator.tsc", launcher := Program.launcher here }
  let (result, after) := (CommandLine.run here compiler argv).outcome { tree := before }
  for change in before.changes after.tree do
    carryOut change
  conclude after.journal.console result

end Machine
end AmbientBundle

/-- The program. -/
def main (args : List String) : IO UInt32 := AmbientBundle.Machine.start args
