import AmbientBundle.FileTree.Access
import AmbientBundle.Shell.Source

/-!
# The state of a shell

A *machine* is what all programs share: the file tree, the pipes between them, and the
channels that lead to files and pipes.  A channel that is handed on is shared, with how
far it was read or written.

A *shell* is what one shell has for itself: its variables, its functions, its
arguments, where its channels lead.  A subshell starts with a copy, and nothing of what
it changes comes back.

*Running* goes from world to world and may stop: the shell ends, a signal ends it, a
loop is left or a function is.
-/

namespace AmbientBundle
namespace Shell

/-! ## Channels -/

/-- Where the bytes of a channel come from or go to. -/
inductive Target where
  /-- A file. -/
  | file (place : List Text)
  /-- A pipe. -/
  | pipe (number : Nat)
  /-- Nowhere. -/
  | nowhere
  deriving DecidableEq, Repr

/-- An open file or pipe. -/
structure Channel where
  /-- What it leads to. -/
  target : Target
  /-- How far it was read or written. -/
  offset : Nat := 0
  /-- Whether it always writes at the end. -/
  append : Bool := false
  /-- Whether it can be read. -/
  reads : Bool := false
  /-- Whether it can be written. -/
  writes : Bool := false
  deriving Repr

/-- What is in a pipe. -/
structure Pipe where
  /-- How many bytes. -/
  size : Nat := 0
  /-- The bytes, last part first. -/
  chunks : List Octets := []
  deriving Repr

/-- The bytes that a pipe holds before its reader is thought to have gone. -/
def pipeLimit : Nat := 300000

/-! ## Shells -/

/-- A variable. -/
structure Variable where
  /-- Its value. -/
  value : Option Octets := none
  /-- Whether programs see it. -/
  exported : Bool := false
  /-- Whether it cannot be changed. -/
  fixed : Bool := false
  /-- Whether it holds a number. -/
  whole : Bool := false
  /-- Its elements, if it is an array, by index. -/
  elements : Option (List (Octets × Octets)) := none
  /-- Whether its indices are texts. -/
  keyed : Bool := false
  deriving Repr

/-- The value of a variable.  An array stands for its first element. -/
def Variable.text? (v : Variable) : Option Octets :=
  match v.elements with
  | none => v.value
  | some es => es.lookup ['0']

/-- What a shell can be told to do. -/
structure Flags where
  /-- End at the first failure. -/
  errexit : Bool := false
  /-- Complain about parameters that are not set. -/
  nounset : Bool := false
  /-- Show commands. -/
  xtrace : Bool := false
  /-- Do not look for files that match. -/
  noglob : Bool := false
  /-- Do not run commands. -/
  noexec : Bool := false
  /-- Show what is read. -/
  verbose : Bool := false
  /-- Do not write over files. -/
  noclobber : Bool := false
  /-- Let programs see every variable that is set. -/
  allexport : Bool := false
  /-- Let a pipe fail with any of its commands. -/
  pipefail : Bool := false
  /-- Drop patterns that no file matches. -/
  nullglob : Bool := false
  /-- Commands come from the input. -/
  stdin : Bool := false
  deriving Repr

/-- A shell. -/
structure State where
  /-- The way commands are written. -/
  dialect : Dialect := .plain
  /-- The name it goes by. -/
  name : Octets
  /-- Its arguments. -/
  args : List Octets := []
  /-- Its variables. -/
  bindings : List (Octets × Variable) := []
  /-- What variables were before functions made them their own, innermost function first. -/
  locals : List (List (Octets × Option Variable)) := []
  /-- Its functions. -/
  functions : List (Octets × Command) := []
  /-- Words that stand for other texts. -/
  aliases : List (Octets × Octets) := []
  /-- What it was told to do. -/
  flags : Flags := {}
  /-- The status of the last command. -/
  status : Nat := 0
  /-- The status of the last command whose output was taken. -/
  taken : Nat := 0
  /-- The statuses of the last pipe. -/
  piped : List Nat := []
  /-- The line that complaints name. -/
  line : Nat := 0
  /-- The builtin that complaints name. -/
  builtin : Option Octets := none
  /-- Where its channels lead. -/
  channels : List (Nat × Nat) := []
  /-- The directory it is in. -/
  cwd : Spot
  /-- The name of that directory. -/
  pwd : Octets
  /-- What it does on signals; zero stands for its end. -/
  traps : List (Nat × Octets) := []
  /-- Its process. -/
  process : Nat
  /-- The process of the shell that it was copied from. -/
  owner : Nat
  /-- The status it is about to end with, while it does what it does at its end. -/
  ending : Option Nat := none
  /-- The last process that nobody waits for. -/
  background : Option Nat := none
  /-- The line up to which its commands have been read. -/
  upTo : Nat := 0
  /-- How many loops it is in. -/
  loops : Nat := 0
  /-- How many functions it is in. -/
  calls : Nat := 0
  /-- How many functions and files it is in. -/
  depth : Nat := 0
  /-- How far the letters of an argument were taken for options. -/
  optionAt : Option Nat := none
  /-- Whether the output of a builtin was lost. -/
  lost : Bool := false
  /-- The programs that were looked for and found, with their files, last one first. -/
  located : List (Octets × Octets) := []
  /-- The permissions that new files do not get. -/
  mask : Nat := 18

/-- A redirection whose words were replaced. -/
inductive Link where
  /-- To a file. -/
  | file (fd : Nat) (opening : Opening) (name : Octets)
  /-- Where another channel leads, or nowhere. -/
  | copy (fd : Nat) (source : Option Nat)
  /-- To a text. -/
  | supply (fd : Nat) (text : Octets)
  /-- Output and complaints to a file. -/
  | all (append : Bool) (name : Octets)
  deriving Repr

/-- A command that nobody waited for yet. -/
structure Job where
  /-- Its process. -/
  process : Nat
  /-- The process of the shell that it was started by. -/
  parent : Nat
  /-- The copy of that shell that runs it. -/
  state : State
  /-- The command. -/
  body : Command
  /-- Where its channels lead. -/
  links : List Link

/-- What all programs share. -/
structure Machine where
  /-- The file tree. -/
  tree : Folder
  /-- The channels that were opened. -/
  channels : Array Channel := #[]
  /-- The pipes. -/
  pipes : Array Pipe := #[]
  /-- The documents of scripts. -/
  documents : List (Nat × Word) := []
  /-- The number of the next document. -/
  nextDocument : Nat := 0
  /-- The last process that was started. -/
  lastProcess : Nat
  /-- Jobs that wait to be run, oldest first. -/
  jobs : List Job := []
  /-- The jobs that ended, with their statuses and the signals that ended them. -/
  ended : List (Nat × Nat × Option Nat) := []
  /-- Signals that were sent and not yet seen. -/
  signals : List (Nat × Nat) := []

/-- A machine and a shell on it. -/
structure World where
  /-- The machine. -/
  machine : Machine
  /-- The shell. -/
  shell : State

/-- Why running stops. -/
inductive Stop where
  /-- The shell ends. -/
  | exit
  /-- An error ends the command, or the shell. -/
  | failed
  /-- A signal ends the shell. -/
  | killed (signal : Nat)
  /-- Some loops are left. -/
  | leave (loops : Nat)
  /-- Some loops are left, and the last one goes on. -/
  | again (loops : Nat)
  /-- A function or a file is left. -/
  | back
  /-- There are no steps left. -/
  | spent
  deriving DecidableEq, Repr

/-- Running. -/
abbrev Run := ExceptT Stop (StateM World)

namespace Run

/-- The shell. -/
def shell : Run State := return (← get).shell

/-- The machine. -/
def machine : Run Machine := return (← get).machine

/-- Change the shell. -/
def onShell (f : State → State) : Run Unit := modify fun w => { w with shell := f w.shell }

/-- Change the machine. -/
def onMachine (f : Machine → Machine) : Run Unit :=
  modify fun w => { w with machine := f w.machine }

/-- Set the status. -/
def setStatus (n : Nat) : Run Unit := onShell fun s => { s with status := n }

/-- The status. -/
def status : Run Nat := return (← shell).status

/-- Run something and see how it stopped. -/
def observe (act : Run Unit) : Run (Option Stop) := fun w =>
  match act w with
  | (.ok (), w) => (.ok none, w)
  | (.error stop, w) => (.ok (some stop), w)

/-- How often a loop may go round. -/
def roundLimit : Nat := 1000000

/-! ## Channels -/

/-- Open a channel. -/
def openChannel (c : Channel) : Run Nat := do
  let m ← machine
  onMachine fun m => { m with channels := m.channels.push c }
  return m.channels.size

/-- Make a pipe. -/
def newPipe : Run Nat := do
  let m ← machine
  onMachine fun m => { m with pipes := m.pipes.push {} }
  return m.pipes.size

/-- The channel with a number in this shell. -/
def channelOf? (fd : Nat) : Run (Option (Nat × Channel)) := do
  match (← shell).channels.lookup fd with
  | none => return none
  | some id => return ((← machine).channels[id]?).map (id, ·)

/-- Lead a channel somewhere. -/
def lead (fd id : Nat) : Run Unit :=
  onShell fun s => { s with channels := (fd, id) :: s.channels.filter (·.1 ≠ fd) }

/-- Close a channel. -/
def close (fd : Nat) : Run Unit :=
  onShell fun s => { s with channels := s.channels.filter (·.1 ≠ fd) }

/-- Put a text into bytes at a place. -/
def splice (old : Bytes) (offset : Nat) (new : Bytes) : Bytes :=
  let front := old.take offset
  front ++ List.replicate (offset - front.length) 0 ++ new ++ old.drop (offset + new.length)

/-- Write to an open channel. -/
def writeChannel (id : Nat) (c : Channel) (t : Octets) : Run Unit := do
  match c.target with
  | .nowhere => pure ()
  | .pipe n =>
      let m ← machine
      let p := (m.pipes[n]?).getD {}
      if n ≠ 0 && p.size > pipeLimit then throw (.killed 13)
      let filled : Pipe := ⟨p.size + t.length, t :: p.chunks⟩
      onMachine fun m => { m with pipes := m.pipes.setIfInBounds n filled }
  | .file place =>
      let m ← machine
      match m.tree.get? place with
      | some (.file old mode) =>
          let bytes := Octets.toBytes t
          let offset := if c.append then old.length else c.offset
          let new := if offset = old.length then old ++ bytes else splice old offset bytes
          onMachine fun m =>
            { m with
              tree := m.tree.put place (.file (mode.kept new) mode)
              channels := m.channels.setIfInBounds id { c with offset := offset + bytes.length } }
      | _ => pure ()

/-- Write to a channel; whether it is open. -/
def write (fd : Nat) (t : Octets) : Run Bool := do
  match ← channelOf? fd with
  | some (id, c) =>
      if c.writes then
        writeChannel id c t
        return true
      else return false
  | none => return false

/-- Write a complaint as it stands. -/
def complain (t : Octets) : Run Unit := do let _ ← write 2 t

/-- Everything that an open channel still holds. -/
def remaining (c : Channel) : Run Octets := do
  let m ← machine
  match c.target with
  | .nowhere => return []
  | .pipe n => return (((m.pipes[n]?).getD {}).chunks.reverse.flatten).drop c.offset
  | .file place =>
      match m.tree.get? place with
      | some (.file bytes _) => return Octets.ofBytes (bytes.drop c.offset)
      | _ => return []

/-- Go forward on an open channel. -/
def advance (id : Nat) (n : Nat) : Run Unit :=
  onMachine fun m =>
    match m.channels[id]? with
    | some c => { m with channels := m.channels.setIfInBounds id { c with offset := c.offset + n } }
    | none => m

/-! ## Complaints -/

/-- Where a complaint comes from. -/
def place : Run Octets := do
  let s ← shell
  let builtin := (s.builtin.map (· ++ [':', ' '])).getD []
  let line := Octets.ofNat s.line
  match s.dialect with
  | .plain => return s.name ++ ": ".toList ++ line ++ ": ".toList ++ builtin
  | .bash => return s.name ++ ": line ".toList ++ line ++ ": ".toList ++ builtin

/-- Complain. -/
def warn (t : Octets) : Run Unit := do complain ((← place) ++ t ++ ['\n'])

/-- Complain and stop the command, or the shell. -/
def fault {α : Type} (t : Octets) (status : Nat := 2) : Run α := do
  warn t
  setStatus status
  throw .failed

/-! ## Variables -/

/-- A variable. -/
def variableOf? (name : Octets) : Run (Option Variable) := return (← shell).bindings.lookup name

/-- The value of a variable. -/
def valueOf? (name : Octets) : Run (Option Octets) := return (← variableOf? name).bind Variable.text?

/-- Put a variable in place. -/
def putVariable (name : Octets) (v : Variable) : Run Unit :=
  onShell fun s => { s with bindings := (name, v) :: s.bindings.filter (·.1 ≠ name) }

/-- Drop a variable. -/
def dropVariable (name : Octets) : Run Unit :=
  onShell fun s => { s with bindings := s.bindings.filter (·.1 ≠ name) }

/-- Stop if a variable cannot be changed. -/
def checkFixed (name : Octets) (v : Variable) : Run Unit := do
  if v.fixed then
    match (← shell).dialect with
    | .plain => fault (name ++ ": is read only".toList)
    | .bash =>
        warn (name ++ ": readonly variable".toList)
        setStatus 1
        throw .failed

/-- Set a variable. -/
def setVariable (name value : Octets) (export? : Bool := false) : Run Unit := do
  let s ← shell
  let old := (s.bindings.lookup name).getD {}
  checkFixed name old
  let exported := old.exported || export? || s.flags.allexport
  match old.elements with
  | none => putVariable name { old with value := some value, exported }
  | some es =>
      putVariable name { old with elements := some ((['0'], value) :: es.filter (·.1 ≠ ['0'])) }
  if name = "OPTIND".toList then onShell fun s => { s with optionAt := none }

/-- The environment that programs see. -/
def environment : Run (List (Octets × Octets)) := do
  return (← shell).bindings.filterMap fun (n, v) =>
    if v.exported then v.value.map (n, ·) else none

end Run
end Shell
end AmbientBundle
