import AmbientBundle.Shell.Evaluation
import AmbientBundle.Shell.Find

/-!
# Starting shells and programs

A shell is started with options, and takes its commands from an argument, a file or the
input.  It knows nothing of the shell that started it but the environment.

`runnerOf` ties the knot: commands run commands and programs, programs run programs, and
a number bounds how deep this goes.  `Shell.launch` runs a program from outside, with one
pipe for output and complaints.
-/

namespace AmbientBundle
namespace Shell
namespace Start

/-- The search path of a shell that is not given one. -/
def usualPath : Octets := "/usr/local/sbin:/usr/local/bin:/usr/sbin:/usr/bin:/sbin:/bin".toList

/-- The variables that a shell starts with. -/
def startVariables (dialect : Dialect) (environment : List (Octets × Octets)) (pwd : Octets)
    (parent : Nat) : List (Octets × Variable) :=
  let given := environment.map fun (n, v) => (n, ({ value := some v, exported := true } : Variable))
  let own : List (Octets × Variable) :=
    [("IFS".toList, { value := some [' ', '\t', '\n'] }), ("OPTIND".toList, { value := some ['1'] }),
      ("PPID".toList, { value := some (Octets.ofNat parent) }),
      ("PS4".toList, { value := some ['+', ' '] })] ++
      (if dialect = .plain then
        [("PS1".toList, { value := some ['#', ' '] }), ("PS2".toList, { value := some ['>', ' '] })]
      else []) ++
      (if (given.lookup "PATH".toList).isSome then []
      else [("PATH".toList, { value := some usualPath })])
  ("PWD".toList, { value := some pwd, exported := true }) :: own ++
    given.filter fun v => v.1 ≠ "PWD".toList && v.1 ≠ "PPID".toList && v.1 ≠ "IFS".toList &&
      v.1 ≠ "OPTIND".toList

/-- Make this process a new shell. -/
def becomeShell (dialect : Dialect) (name : Octets) : Run Unit := do
  let environment ← Run.environment
  Run.onShell fun s =>
    let pwd := Utility.pathOf s.cwd.place
    { dialect, name, bindings := startVariables dialect environment pwd s.owner
      channels := s.channels, cwd := s.cwd, pwd, process := s.process, owner := s.process
      traps := s.traps.filter (·.2.isEmpty), mask := s.mask }

/-- What the options of a shell ask for. -/
structure Asked where
  /-- Commands in an argument. -/
  command : Bool := false
  /-- The arguments that are left. -/
  rest : List Octets := []

/-- Take the options of a shell. -/
def takeOptions (dialect : Dialect) : Nat → Asked → List Octets → Run Asked
  | 0, asked, args => return { asked with rest := args }
  | _, asked, [] => return { asked with rest := [] }
  | n + 1, asked, a :: args => do
      let letters (on : Bool) (cs : Octets) : Run Asked := do
        let mut asked := asked
        for c in cs do
          if c = 'c' then asked := { asked with command := true }
          else if c = 'l' || c = 'o' then pure ()
          else
            let f := (← Run.shell).flags
            match if dialect = .bash then Builtin.turnMore on f c else Builtin.turn on f c with
            | some flags => Run.onShell fun s => { s with flags }
            | none =>
                if dialect = .bash then
                  Run.complain ((← Run.shell).name ++ ": ".toList ++ a ++ ": invalid option\n".toList)
                  Run.setStatus 2
                  throw .exit
                else Run.fault ("Illegal option ".toList ++ [if on then '-' else '+', c])
        if cs.contains 'o' then
          match args with
          | name :: args =>
              Builtin.turnByName on name
              takeOptions dialect n asked args
          | [] => return { asked with rest := [] }
        else takeOptions dialect n asked args
      match a with
      | ['-'] => return { asked with rest := args }
      | ['-', '-'] => return { asked with rest := args }
      | '-' :: '-' :: word =>
          if dialect = .bash then
            if ["norc", "noprofile", "posix", "login"].contains (String.ofList word) then
              takeOptions dialect n asked args
            else
              Run.complain ((← Run.shell).name ++ ": ".toList ++ a ++ ": invalid option\n".toList)
              Run.setStatus 2
              throw .exit
          else letters true ('-' :: word)
      | '-' :: cs => letters true cs
      | '+' :: cs => letters false cs
      | _ => return { asked with rest := a :: args }

/-- Take commands from a file. -/
def fromFile (r : Runner) (dialect : Dialect) (path : Octets) (args : List Octets) : Run Unit := do
  let s ← Run.shell
  match (← Run.machine).tree.statText s.cwd (Octets.toText path) with
  | .error e =>
      if dialect = .bash then
        Run.complain (s.name ++ ": ".toList ++ path ++ ": ".toList ++ e.text.toList ++ ['\n'])
        Run.setStatus 127
        throw .exit
      else
        let missing := e = .noEntry || e = .notDirectory
        Run.fault ("cannot open ".toList ++ path ++ ": ".toList ++
          (if missing then "No such file" else e.text).toList)
  | .ok (_, .dir _) =>
      if dialect = .bash then
        Run.complain (path ++ ": ".toList ++ path ++ ": Is a directory\n".toList)
        Run.setStatus 126
        throw .exit
      else Run.setStatus 0
  | .ok (_, .file content _) =>
      Run.onShell fun s => { s with name := path, args }
      Script.runFile r (Octets.ofBytes content)

/-- Run a shell in this process. -/
def shell (r : Runner) (dialect : Dialect) (words : List Octets) : Run Unit := do
  becomeShell dialect (words.headD [])
  let asked ← takeOptions dialect (words.length + 1) {} words.tail
  match asked.command, asked.rest with
  | true, [] =>
      if dialect = .bash then
        Run.complain ((words.headD []) ++ ": -c: option requires an argument\n".toList)
        Run.setStatus 2
        throw .exit
      else Run.fault "-c requires an argument".toList
  | true, text :: rest =>
      Run.onShell fun s =>
        match rest with
        | [] => s
        | name :: args => { s with name, args }
      Script.run r false text
  | false, path :: args =>
      if (← Run.shell).flags.stdin then
        Run.onShell fun s => { s with args := path :: args }
        fromInput
      else fromFile r dialect path args
  | false, [] =>
      Run.onShell fun s => { s with flags := { s.flags with stdin := true } }
      fromInput
where
  /-- Take commands from the input. -/
  fromInput : Run Unit := do
    match ← Run.channelOf? 0 with
    | none => pure ()
    | some (id, c) =>
        let t ← Run.remaining c
        Run.advance id t.length
        Script.runFile r t

/-- The programs that start others or wait, by name. -/
def starters : List (String × (Runner → Octets → List Octets → Run Unit)) :=
  [("bash", fun r name args => shell r .bash (name :: args)),
    ("dash", fun r name args => shell r .plain (name :: args)),
    ("env", fun r name args => Launch.env r (args.length + 100) name args),
    ("find", Find.run),
    ("nice", Launch.through),
    ("nohup", Launch.through),
    ("setsid", Launch.through),
    ("sh", fun r name args => shell r .plain (name :: args)),
    ("sleep", Launch.sleep),
    ("timeout", Launch.timeout),
    ("xargs", Launch.xargs)]

/-- Run a program in place of the shell. -/
def program (r : Runner) (name : String) (words : List Octets) : Run Unit := do
  match starters.lookup name, Utility.find? name with
  | some go, _ => go r (words.headD []) words.tail
  | none, some t => Launch.tool t (words.headD []) words.tail
  | none, none => Run.setStatus 127

/-- Runners that go some levels deep. -/
def runnerOf : Nat → Runner
  | 0 => ⟨fun _ _ => throw .spent, fun _ _ => throw .spent⟩
  | n + 1 => ⟨Evaluation.command (runnerOf n), program (runnerOf n)⟩

/-- How deep commands and programs may lie in one another. -/
def depthLimit : Nat := 12000

end Start

/-- The names of all standard programs. -/
def standardPrograms : List String := Start.starters.map (·.1) ++ Utility.table.map (·.1)

/-- The directories in which programs are usually looked for, those with the standard programs
first. -/
def usualDirectories : List Path :=
  ["/usr/bin", "/bin", "/usr/local/bin", "/usr/local/sbin", "/usr/sbin", "/sbin"].map fun d =>
    Path.parse d.toList

/-- A tree with the standard programs in their directories. -/
def equip (tree : Folder) : Folder :=
  let bare := usualDirectories.foldl (fun t d => (t.makeDirs ⟨[], 0⟩ d).2) tree
  (usualDirectories.take 2).foldl
    (fun t d => t.put d.parts (.dir (Image.folder standardPrograms))) bare

/-- What came of a program. -/
structure Outcome where
  /-- Its status, or the signal that ended it below zero. -/
  code : Int
  /-- What it wrote. -/
  output : Octets
  /-- The tree as it left it. -/
  tree : Folder

/-- Run a program in a directory with an environment. -/
def launch (image : Image) (environment : List (Octets × Octets)) (tree : Folder) (cwd : Spot) :
    Outcome :=
  let machine : Machine :=
    { tree
      channels := #[{ target := .nowhere, reads := true }, { target := .pipe 0, writes := true }]
      pipes := #[{}], lastProcess := 1000 }
  let shell : State :=
    { name := image.words.headD []
      bindings := environment.map fun (n, v) =>
        (n, ({ value := some v, exported := true } : Variable))
      channels := [(0, 0), (1, 1), (2, 1)], cwd, pwd := Utility.pathOf cwd.place, process := 1000
      owner := 999 }
  let r := Start.runnerOf Start.depthLimit
  let act : Run Ending := do
    let ending ← Process.toEnd r (r.program image.program image.words)
    Process.runJobs r (fun _ => true) Process.jobLimit
    return ending
  let (result, world) := act ⟨machine, shell⟩
  let code : Int :=
    match result with
    | .ok (.status n) => n
    | .ok (.signal n) => -(n : Int)
    | .error _ => 1
  let pipe := (world.machine.pipes[0]?).getD {}
  ⟨code, pipe.chunks.reverse.flatten, world.machine.tree⟩

end Shell
end AmbientBundle
