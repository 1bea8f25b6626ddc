import AmbientBundle.Shell.Builtin.Basic
import AmbientBundle.Shell.Format
import AmbientBundle.Shell.Locate

/-!
# Builtins that control the shell

Loops and functions are left, the shell is ended, texts and files are run as commands,
a program takes the place of the shell.  What is to be done on signals is set, and
signals are sent.  Jobs are waited for.
-/

namespace AmbientBundle
namespace Shell
namespace Builtin

/-- Do nothing with success. -/
def succeed : Builtin := fun _ _ => Run.setStatus 0

/-- Do nothing without success. -/
def failing : Builtin := fun _ _ => Run.setStatus 1

/-! ## Leaving -/

/-- How many loops are to be left. -/
def loopCount (args : List Octets) : Run Nat := do
  match args with
  | [] => return 1
  | a :: _ =>
      let n ← number a
      if n = 0 then Run.fault ("Illegal number: ".toList ++ a) else return n

/-- Leave loops in some way. -/
def leaveWith (stop : Nat → Stop) : Builtin := fun _ args => do
  let n ← loopCount args
  let loops := (← Run.shell).loops
  Run.setStatus 0
  if loops = 0 then
    if ← hasMore then
      Run.warn "only meaningful in a `for', `while', or `until' loop".toList
  else throw (stop (min n loops))

/-- Leave loops. -/
def breakLoops : Builtin := leaveWith .leave

/-- Leave loops and go on with the last one. -/
def continueLoops : Builtin := leaveWith .again

/-- The number that an argument gives for a status. -/
def statusOf (a : Octets) : Run Nat := do
  if ← hasMore then
    match Format.leadingInt a with
    | some (i, []) => return (i % 256).toNat
    | _ =>
        Run.warn (a ++ ": numeric argument required".toList)
        return 2
  else number a

/-- Leave a function or a file. -/
def returnBack : Builtin := fun _ args => do
  match args with
  | [] => pure ()
  | a :: _ => Run.setStatus (← statusOf a)
  let s ← Run.shell
  if s.dialect = .bash && s.depth = 0 then
    Run.fault "can only `return' from a function or sourced script".toList 2
  else throw .back

/-- End the shell. -/
def exitShell : Builtin := fun _ args => do
  match args with
  | [] => Run.onShell fun s => { s with status := s.ending.getD s.status }
  | a :: _ => Run.setStatus (← statusOf a)
  throw .exit

/-! ## Running texts and files -/

/-- Do something one level deeper, and catch what leaves that level. -/
def oneDeeper (act : Run Unit) : Run Unit := do
  Run.onShell fun s => { s with depth := s.depth + 1 }
  let stop ← Run.observe act
  Run.onShell fun s => { s with depth := s.depth - 1 }
  match stop with
  | none => pure ()
  | some .back => pure ()
  | some stop => throw stop

/-- Run arguments as commands. -/
def eval (tested : Bool) : Builtin := fun r args => Script.run r tested (List.intercalate [' '] args)

/-- Run a file as commands. -/
def dot : Builtin := fun r args => do
  let more ← hasMore
  match args with
  | [] =>
      if more then
        Run.warn "filename argument required".toList
        Run.fault ".: usage: . filename [arguments]".toList
      else Run.setStatus 0
  | name :: rest =>
      let s ← Run.shell
      let tree := (← Run.machine).tree
      let isFile (p : Octets) : Bool :=
        match tree.statText s.cwd (Octets.toText p) with
        | .ok (_, .file ..) => true
        | _ => false
      let path? :=
        if name.contains '/' then some name
        else
          let found := (Image.candidates (((s.bindings.lookup "PATH".toList).bind
            Variable.text?).getD []) name).find? isFile
          if more then found <|> some name else found
      match path? with
      | none => Run.fault (name ++ ": not found".toList)
      | some path =>
          match tree.statText s.cwd (Octets.toText path) with
          | .error e =>
              if more then
                let here := { s with builtin := none }
                Run.onShell fun _ => here
                Run.fault (path ++ ": ".toList ++ e.text.toList) 1
              else
                let missing := e = .noEntry || e = .notDirectory
                Run.fault ("cannot open ".toList ++ path ++ ": ".toList ++
                  (if missing then "No such file" else e.text).toList)
          | .ok (_, .dir _) =>
              if more then Run.fault (path ++ ": is a directory".toList) 1 else Run.setStatus 0
          | .ok (_, .file content _) =>
              Run.onShell fun s =>
                { s with
                  builtin := if more then none else some path
                  name := if more then path else s.name
                  args := if more && !rest.isEmpty then rest else s.args }
              let stop ← Run.observe (oneDeeper (Script.runFile r (Octets.ofBytes content)))
              Run.onShell fun after =>
                { after with
                  name := s.name
                  args := if more && !rest.isEmpty then s.args else after.args }
              match stop with
              | none => pure ()
              | some stop => throw stop

/-- Let a program take the place of the shell. -/
def execProgram : Builtin := fun r args => do
  match args with
  | [] => Run.setStatus 0
  | name :: _ =>
      match ← Locate.file name with
      | .error e =>
          let (t, status) := Locate.startFault (← Run.shell).dialect false false name e
          let t := if (← hasMore) then name ++ ": not found".toList else t
          Run.warn t
          Run.setStatus (if e = .denied then 126 else status)
          throw .exit
      | .ok path =>
          Run.onShell fun s => { s with traps := s.traps.filter (·.2.isEmpty) }
          Locate.start r name path args
          throw .exit

/-! ## Signals -/

/-- Set what is done on signals, or list it. -/
def trap : Builtin := fun _ args => do
  let more ← hasMore
  let (_, args) ← if more then pure ([], args) else letters "" args.length args
  let args := if args.head? = some ['-', '-'] then args.tail else args
  let show' : Run Unit := do
    ((← Run.shell).traps.mergeSort fun a b => a.1 ≤ b.1).forM fun (n, t) =>
      sayLine ("trap -- ".toList ++ listed t ++
        ' ' :: (if more && n ≠ 0 && n ≠ Signal.failure then "SIG".toList else []) ++ Signal.nameOf n)
  let known (t : Octets) : Option Nat :=
    let upper := t.map Char.toUpper
    if more && upper = "ERR".toList then some Signal.failure
    else if !more && Text.startsWith upper "SIG".toList then none
    else Signal.number? t
  let (action, names) :=
    match args with
    | [] => (none, [])
    | [a] => (none, [a])
    | a :: rest => if (Octets.toNat? a).isSome then (none, a :: rest) else (some a, rest)
  let action := if action = some ['-'] then none else action
  Run.setStatus 0
  if args.isEmpty || (more && args = [['-', 'p']]) then show'
  else
    for name in names do
      if (← Run.status) = 0 then
        match known name with
        | none =>
            if more then Run.warn (name ++ ": invalid signal specification".toList)
            else Run.complain ("trap: ".toList ++ name ++ ": bad trap\n".toList)
            Run.setStatus 1
        | some n =>
            let old := (← Run.shell).traps.filter (·.1 ≠ n)
            let traps :=
              match action with
              | some text => (n, text) :: old
              | none => old
            Run.onShell fun s => { s with traps }

/-- Send a signal to a process, and tell whether there is one. -/
def send (process signal : Nat) : Run Bool := do
  let s ← Run.shell
  let m ← Run.machine
  if process = s.process || process = s.owner then
    if signal = 0 then return true
    else if Signal.isCertain signal && process = s.process then throw (.killed signal)
    else
      Run.onMachine fun m => { m with signals := m.signals ++ [(process, signal)] }
      return true
  else if m.jobs.any (·.process = process) then
    if signal = 0 || Signal.isHarmless signal then return true
    else
      Run.onMachine fun m =>
        { m with
          jobs := m.jobs.filter (·.process ≠ process)
          ended := (process, 128 + signal, some signal) :: m.ended }
      return true
  else if process ≤ m.lastProcess && !m.ended.any (·.1 = process) && process ≥ 1000 then
    Run.onMachine fun m => { m with signals := m.signals ++ [(process, signal)] }
    return true
  else return false

/-- The signal of an option. -/
def signalOption? (more : Bool) (t : Octets) : Option Nat :=
  if !more && Text.startsWith (t.map Char.toUpper) "SIG".toList then none
  else
    match Signal.number? t with
    | some 0 => if t = ['0'] then some 0 else none
    | r => r

/-- How `kill` is called. -/
def killUsage (more : Bool) : Octets :=
  if more then
    "usage: kill [-s sigspec | -n signum | -sigspec] pid | jobspec ... or kill -l [sigspec]".toList
  else
    "Usage: kill [-s sigspec | -signum | -sigspec] [pid | job]... or\nkill -l [exitstatus]".toList

/-- Send signals to processes, or list the signals. -/
def kill : Builtin := fun _ args => do
  let more ← hasMore
  let (listing, signal, targets) ←
    (match args with
    | ('-' :: t) :: rest => do
        match signalOption? more t with
        | some n => return (false, n, rest)
        | none =>
            let (os, rest) ← options "ls:n:" args
            match os.getLast? with
            | some ('l', _) => return (true, 0, rest)
            | some (_, name) =>
                match signalOption? more name with
                | some n => return (false, n, rest)
                | none =>
                    if more then
                      Run.fault (name ++ ": invalid signal specification".toList) 1
                    else
                      Run.fault ("invalid signal number or name: ".toList ++ name)
            | none => return (false, 15, rest)
    | _ => return (false, 15, args) : Run (Bool × Nat × List Octets))
  Run.setStatus 0
  if listing then
    match targets with
    | [] => say (Octets.unlines (['0'] :: (List.range 64).map fun i => Signal.nameOf (i + 1)))
    | t :: _ =>
        let n ← number t
        let n := if n > 128 then n - 128 else n
        if 0 < n && n ≤ 64 then sayLine (Signal.nameOf n)
        else Run.fault ("invalid signal number or exit status: ".toList ++ t)
  else if targets.isEmpty then Run.fault (killUsage more)
  else
    let mut failed := false
    for t in targets do
      let shell ← Run.shell
      let digits := match t with
        | '-' :: ds => ds
        | '%' :: _ => Octets.ofNat (shell.background.getD 0)
        | ds => ds
      let process ← number digits
      if ← send process signal then pure ()
      else
        failed := true
        if more then Run.warn (['('] ++ t ++ ") - No such process".toList)
        else Run.warn "No such process\n".toList
    if failed then Run.setStatus 1

/-! ## Jobs -/

/-- Tell how a job ended. -/
def noteEnded (status : Nat) (signal : Option Nat) : Run Unit := do
  match signal with
  | some n =>
      if (← hasMore) then pure ()
      else
        match Signal.titles.lookup n with
        | some title => Run.complain (title.toList ++ ['\n'])
        | none => pure ()
  | none => pure ()
  Run.setStatus status

/-- Wait for jobs. -/
def wait : Builtin := fun r args => do
  let me := (← Run.shell).process
  let mine (j : Job) : Bool := j.parent = me
  if args.isEmpty then
    Process.runJobs r mine Process.jobLimit
    Run.setStatus 0
  else
    args.forM fun a => do
      let process ←
        (match a with
        | '%' :: _ => do
            match (← Run.shell).background with
            | some p => return p
            | none => Run.fault ("No such job: ".toList ++ a)
        | _ => number a : Run Nat)
      let m ← Run.machine
      if m.jobs.any fun j => j.process = process then
        Process.runJobs r (fun j => mine j && j.process ≤ process) Process.jobLimit
      match (← Run.machine).ended.lookup process with
      | some (status, signal) =>
          noteEnded status signal
          Run.onMachine fun m => { m with ended := m.ended.map fun e =>
            if e.1 = process then (e.1, e.2.1, none) else e }
      | none => do
          if ← hasMore then
            Run.warn ("pid ".toList ++ a ++ " is not a child of this shell".toList)
          Run.setStatus 127

/-- Bring a job to the front, which is never possible. -/
def noJob : Builtin := fun _ _ => do
  if ← hasMore then Run.fault "no job control".toList 1 else Run.fault "No current job".toList

/-- The time that was used. -/
def times : Builtin := fun _ _ => do
  Run.setStatus 0
  let more ← hasMore
  let row := if more then "0m0.000s 0m0.000s\n" else "0m0.000000s 0m0.000000s\n"
  say (row ++ row).toList

/-! ## Permissions -/

/-- A number in octal digits, at least four of them. -/
def octal (n : Nat) : Octets :=
  let ds := Nat.toDigits 8 n
  List.replicate (4 - ds.length) '0' ++ ds

/-- The letters of three permissions. -/
def permissionLetters (n : Nat) : Octets :=
  (if n / 4 % 2 = 1 then ['r'] else []) ++ (if n / 2 % 2 = 1 then ['w'] else []) ++
    (if n % 2 = 1 then ['x'] else [])

/-- Show or set the permissions that new files do not get. -/
def umask : Builtin := fun _ args => do
  let (os, rest) ← options "S" args
  Run.setStatus 0
  let mask := (← Run.shell).mask
  match rest with
  | [] =>
      if has os 'S' then
        let kept := 511 - mask
        sayLine ("u=".toList ++ permissionLetters (kept / 64 % 8) ++ ",g=".toList ++
          permissionLetters (kept / 8 % 8) ++ ",o=".toList ++ permissionLetters (kept % 8))
      else sayLine (octal mask)
  | t :: _ =>
      if t.all isOctal then Run.onShell fun s => { s with mask := digitsValue 8 t % 512 }
      else if (t.head?.map Char.isDigit).getD true then Run.fault ("Illegal number: ".toList ++ t)
      else if t.contains '=' || t.contains '+' || t.contains '-' then pure ()
      else Run.fault ("Illegal mode: ".toList ++ t)

/-- The limits of a process. -/
def ulimit : Builtin := fun _ _ => do
  Run.setStatus 0
  sayLine "unlimited".toList

end Builtin
end Shell
end AmbientBundle
