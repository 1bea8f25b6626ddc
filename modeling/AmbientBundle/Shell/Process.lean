import AmbientBundle.Shell.Redirection
import AmbientBundle.Shell.Script
import AmbientBundle.Shell.Signal

/-!
# Processes

A subshell is a *child*: a copy of the shell that ends with a status or by a signal,
and of which nothing is left but what it did to the machine.  What a shell does on
signals its child forgets, unless it is to do nothing.

Commands that nobody waits for are put off until somebody does, or until time passes,
or until nothing else is to be done.

A signal is seen by a shell between its commands.
-/

namespace AmbientBundle
namespace Shell

/-- How a process ended. -/
inductive Ending where
  /-- With a status. -/
  | status (n : Nat)
  /-- By a signal. -/
  | signal (n : Nat)
  deriving DecidableEq, Repr

/-- The status that stands for an ending. -/
def Ending.code : Ending → Nat
  | .status n => n
  | .signal n => 128 + n

/-- The signal of an ending. -/
def Ending.signal? : Ending → Option Nat
  | .status _ => none
  | .signal n => some n

namespace Process

/-! ## Ends and signals -/

/-- Run a text for a signal.  The status stays what it was. -/
def react (r : Runner) (text : Octets) : Run Unit := do
  let before ← Run.status
  Script.run r false text
  Run.setStatus before

/-- Run what a shell does at its end, and give the status it ends with. -/
def atEnd (r : Runner) : Run Ending := do
  let s ← Run.shell
  match s.traps.lookup 0 with
  | none => return .status (s.status % 256)
  | some text =>
      Run.onShell fun s =>
        { s with traps := s.traps.filter (·.1 ≠ 0), ending := some s.status, builtin := none }
      match ← Run.observe (react r text) with
      | some .spent => throw .spent
      | some (.killed n) => return .signal n
      | some .exit => return .status ((← Run.status) % 256)
      | _ => return .status (s.status % 256)

/-- Run something to the end of the process. -/
def toEnd (r : Runner) (act : Run Unit) : Run Ending := do
  match ← Run.observe act with
  | some .spent => throw .spent
  | some (.killed n) => return .signal n
  | _ => atEnd r

/-- See the signals that were sent to this shell. -/
def deliver (r : Runner) : Run Unit := do
  let m ← Run.machine
  if m.signals.isEmpty then pure ()
  else
    let me := (← Run.shell).process
    let mine := m.signals.filter (·.1 = me)
    Run.onMachine fun m => { m with signals := m.signals.filter (·.1 ≠ me) }
    mine.forM fun (_, n) => do
      match (← Run.shell).traps.lookup n with
      | some text => if text.isEmpty then pure () else react r text
      | none => if Signal.isHarmless n then pure () else throw (.killed n)

/-! ## Children -/

/-- The number of a new process. -/
def fresh : Run Nat := do
  let n := (← Run.machine).lastProcess + 1
  Run.onMachine fun m => { m with lastProcess := n }
  return n

/-- A shell as its child has it. -/
def copied (process : Nat) (s : State) : State :=
  { s with process, traps := s.traps.filter (·.2.isEmpty) }

/-- The directory of a shell after others have worked on the tree. -/
def settled (tree : Folder) (s : State) : State :=
  if s.cwd.lost = 0 then { s with cwd := ⟨s.cwd.place, tree.missing s.cwd.place⟩ } else s

/-- Run something in a child. -/
def inChild (r : Runner) (act : Run Unit) : Run Ending := do
  let parent ← Run.shell
  let process ← fresh
  Run.onShell (copied process)
  let ending ← toEnd r act
  let tree := (← Run.machine).tree
  Run.onShell fun _ => settled tree parent
  return ending

/-- Take note of how a child ended.  A signal is told, unless it is a common one. -/
def note (e : Ending) : Run Unit := do
  match e with
  | .signal n =>
      if (← Run.shell).dialect = .plain then
        match Signal.titles.lookup n with
        | some title => Run.complain (title.toList ++ ['\n'])
        | none => pure ()
  | .status _ => pure ()
  Run.setStatus e.code

/-- Make links for good and do something; without them the process ends. -/
def linked (links : List Link) (act : Run Unit) : Run Unit := do
  if ← Redirection.tryLinks links then act else throw .exit

/-! ## Jobs -/

/-- Run a job to its end. -/
def runJob (r : Runner) (j : Job) : Run Unit := do
  let here ← Run.shell
  Run.onShell fun _ => j.state
  let ending ← toEnd r (linked j.links (r.command false j.body))
  let tree := (← Run.machine).tree
  Run.onShell fun _ => settled tree here
  Run.onMachine fun m => { m with ended := (j.process, ending.code, ending.signal?) :: m.ended }

/-- Run the jobs that pass a test, oldest first, and those that they start. -/
def runJobs (r : Runner) (p : Job → Bool) : Nat → Run Unit
  | 0 => throw .spent
  | n + 1 => do
      match (← Run.machine).jobs.find? p with
      | none => pure ()
      | some j =>
          Run.onMachine fun m =>
            { m with jobs := m.jobs.filter fun k => k.process ≠ j.process }
          runJob r j
          runJobs r p n

/-- How many jobs may be run. -/
def jobLimit : Nat := 10000

/-- Put a command off. -/
def putOff (body : Command) (links : List Link) : Run Unit := do
  let s ← Run.shell
  let process ← fresh
  let input ← Run.openChannel { target := .nowhere, reads := true }
  let state := copied process s
  let state :=
    { state with
      channels := (0, input) :: state.channels.filter (·.1 ≠ 0)
      background := some process }
  let job : Job := ⟨process, s.process, state, body, links⟩
  Run.onMachine fun m => { m with jobs := m.jobs ++ [job] }
  Run.onShell fun s => { s with background := some process, status := 0 }

/-! ## Output -/

/-- What something writes to a pipe, and how it ended. -/
def captured (r : Runner) (act : Run Unit) : Run (Octets × Ending) := do
  let n ← Run.newPipe
  let id ← Run.openChannel { target := .pipe n, writes := true }
  let ending ← inChild r do
    Run.lead 1 id
    act
  runJobs r (fun j => j.state.channels.any (·.2 = id)) jobLimit
  let p := ((← Run.machine).pipes[n]?).getD {}
  return (p.chunks.reverse.flatten, ending)

/-- The output of commands without the line ends at its end. -/
def output (r : Runner) (body : Command) : Run Octets := do
  if !Script.isSomething body then
    Run.onShell fun s => { s with taken := 0 }
    return []
  else
    let (t, ending) ← captured r (r.command false body)
    let before ← Run.status
    note ending
    Run.onShell fun s => { s with taken := ending.code, status := before }
    let t := t.filter (· ≠ '\x00')
    return (t.reverse.dropWhile (· = '\n')).reverse

/-- A file that holds the output of commands.  Commands that read from a file are given one that
keeps nothing. -/
def conduit (r : Runner) (body : Command) (reads : Bool) : Run Octets := do
  let n := 63 - (← Run.machine).pipes.size % 50
  let name := "/dev/fd/".toList ++ Octets.ofNat n
  let place : List Text := ["dev".toList, "fd".toList, Octets.ofNat n]
  let fill (e : Entry) : Run Unit :=
    Run.onMachine fun m =>
      let tree := if m.tree.hasDir (place.take 2) then m.tree else m.tree.put (place.take 2) (.dir .nil)
      { m with tree := tree.put place e }
  if reads then
    let (t, _) ← captured r (r.command false body)
    fill (.file (Octets.toBytes t))
  else fill (.file [] .sink)
  return name

/-- What expansion needs. -/
def helper (r : Runner) : Helper := ⟨output r, conduit r⟩

end Process
end Shell
end AmbientBundle
