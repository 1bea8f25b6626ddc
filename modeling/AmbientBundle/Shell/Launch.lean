import AmbientBundle.Shell.Locate
import AmbientBundle.Shell.Process
import AmbientBundle.Utility.Table

/-!
# Programs that run in place of a shell

A utility works on the tree, the input and the environment of its process, and what it
wrote goes to its channels in the order in which it was written.

Other programs start programs: with another environment, for some time, or once for
every few words of the input.
-/

namespace AmbientBundle
namespace Shell
namespace Launch

/-! ## Utilities -/

/-- The place of the file that a channel leads to. -/
def fileOf (c : Option (Nat × Channel)) : Option (List Text) :=
  match c with
  | some (_, { target := .file place, .. }) => some place
  | _ => none

/-- Write what a utility wrote; whether all of its output could be written. -/
def writeAll : List (Bool × Octets) → Run Bool
  | [] => return true
  | (isComplaint, t) :: rest => do
      let done ← Run.write (if isComplaint then 2 else 1) t
      let others ← writeAll rest
      return others && (done || isComplaint)

/-- Run a utility. -/
def tool (t : Utility.Tool) (name : Octets) (args : List Octets) : Run Unit := do
  let s ← Run.shell
  let m ← Run.machine
  let input ← Run.channelOf? 0
  let content ←
    match input with
    | some (_, c) => if c.reads then Run.remaining c else pure []
    | none => pure []
  let desk : Utility.Desk :=
    { tree := m.tree, cwd := s.cwd, input := content, inputFile := fileOf input
      outputFile := fileOf (← Run.channelOf? 1), environment := ← Run.environment }
  let after := ((t name args).run desk).2
  Run.onMachine fun m => { m with tree := after.tree }
  match input with
  | some (id, _) => Run.advance id (content.length - after.input.length)
  | none => pure ()
  Run.setStatus after.status
  if ← writeAll after.written.reverse then pure ()
  else
    Run.complain (name ++ ": write error: Bad file descriptor\n".toList)
    Run.setStatus 1

/-! ## Starting others -/

/-- Run another program in place of this one, or tell why that is not possible. -/
def other (r : Runner) (words : List Octets) : Run (Option Errno) := do
  let s ← Run.shell
  let tree := (← Run.machine).tree
  let name := words.headD []
  let path := ((s.bindings.lookup "PATH".toList).bind Variable.text?).getD "/bin:/usr/bin".toList
  match Image.firstOf tree s.cwd words none .noEntry (Image.candidates path name) with
  | .ok image =>
      r.program image.program image.words
      return none
  | .error .notProgram =>
      let file := ((Image.candidates path name).find? fun p =>
        tree.isFileText s.cwd (Octets.toText p)).getD name
      r.program "sh" ("sh".toList :: file :: words.tail)
      return none
  | .error e => return some e

/-- Run another program in place of this one.  A complaint says why that is not possible. -/
def otherOr (r : Runner) (words : List Octets) (complaint : Errno → Octets) : Run Unit := do
  match ← other r words with
  | none => pure ()
  | some e =>
      Run.complain (complaint e)
      Run.setStatus (if e = .noEntry then 127 else 126)

/-- Write what a utility says about the way it was called. -/
def misused (name t : Octets) (status : Nat) : Run Unit := do
  let pointer := "Try '".toList ++ name ++ " --help' for more information.\n".toList
  Run.complain ((if t.isEmpty then [] else name ++ ": ".toList ++ t ++ ['\n']) ++ pointer)
  Run.setStatus status

/-- Make a variable part of the environment. -/
def putEnvironment (t : Octets) : Run Unit :=
  let name := t.takeWhile (· ≠ '=')
  Run.putVariable name { value := some (t.drop (name.length + 1)), exported := true }

/-- Keep only the environment of a shell. -/
def onlyEnvironment (keep : Octets → Bool) : Run Unit :=
  Run.onShell fun s =>
    { s with bindings := s.bindings.filter fun v => v.2.exported && keep v.1 }

/-- Run a program with another environment, or show the environment. -/
def env (r : Runner) : Nat → Octets → List Octets → Run Unit
  | 0, _, _ => throw .spent
  | n + 1, name, args => do
      match args with
      | [] => (← Run.environment).forM fun (k, v) => do
          let _ ← Run.write 1 (k ++ '=' :: v ++ ['\n'])
      | a :: rest =>
          let clear (rest : List Octets) : Run Unit := do
            onlyEnvironment fun _ => false
            env r n name rest
          let option (letter : Char) (value : Octets) (rest : List Octets) : Run Unit := do
            match letter with
            | 'u' =>
                onlyEnvironment (· ≠ value)
                env r n name rest
            | 'S' =>
                let words := (Text.splitOn ' ' value).filter (· ≠ [])
                env r n name (words ++ rest)
            | _ =>
                let s ← Run.shell
                match (← Run.machine).tree.statText s.cwd (Octets.toText value) with
                | .ok (spot, .dir _) =>
                    Run.onShell fun s => { s with cwd := spot }
                    env r n name rest
                | .ok _ => refuse name ("cannot change directory to ".toList ++
                    Utility.quoted value ++ ": Not a directory".toList)
                | .error e => refuse name ("cannot change directory to ".toList ++
                    Utility.quoted value ++ ": ".toList ++ e.text.toList)
          match a with
          | ['-'] => clear rest
          | ['-', 'i'] => clear rest
          | ['-', '-'] => command name rest
          | '-' :: '-' :: word =>
              if word = "ignore-environment".toList then clear rest
              else if Text.startsWith word "unset=".toList then option 'u' (word.drop 6) rest
              else if Text.startsWith word "split-string=".toList then option 'S' (word.drop 13) rest
              else if Text.startsWith word "chdir=".toList then option 'C' (word.drop 6) rest
              else misused name ("unrecognized option '--".toList ++ word ++ ['\'']) 125
          | '-' :: c :: cs =>
              if c = 'u' || c = 'S' || c = 'C' then
                match cs, rest with
                | [], [] => misused name ("option requires an argument -- '".toList ++ [c, '\'']) 125
                | [], v :: rest => option c v rest
                | _, _ => option c cs rest
              else if c = 'i' then
                onlyEnvironment fun _ => false
                env r n name (('-' :: cs) :: rest)
              else misused name ("invalid option -- '".toList ++ [c, '\'']) 125
          | _ =>
              if a.contains '=' then
                putEnvironment a
                env r n name rest
              else command name (a :: rest)
where
  /-- Complain. -/
  refuse (name t : Octets) : Run Unit := do
    Run.complain (name ++ ": ".toList ++ t ++ ['\n'])
    Run.setStatus 125
  /-- Start the program. -/
  command (name : Octets) (words : List Octets) : Run Unit := do
    let program := words.headD []
    otherOr r words fun e =>
      name ++ ": ".toList ++ Utility.curled program ++ ": ".toList ++ e.text.toList ++ ['\n'] ++
        (if e = .noEntry && program.contains ' ' then
          name ++ ": use -[v]S to pass options in shebang lines\n".toList else [])

/-- A time in seconds. -/
def seconds? (t : Octets) : Option Utility.Decimal :=
  let body := match t.getLast? with
    | some 's' => t.dropLast
    | some 'm' => t.dropLast
    | some 'h' => t.dropLast
    | some 'd' => t.dropLast
    | _ => t
  match Utility.decimal? body with
  | some d => if d.units < 0 then none else some d
  | none => none

/-- Let time pass: everything that was put off is done meanwhile. -/
def sleep (r : Runner) (name : Octets) (args : List Octets) : Run Unit := do
  if args.isEmpty then misused name "missing operand".toList 1
  else
    match args.find? fun a => (seconds? a).isNone with
    | some a => misused name ("invalid time interval ".toList ++ Utility.curled a) 1
    | none =>
        Run.setStatus 0
        Process.runJobs r (fun _ => true) Process.jobLimit

/-- Whether a time is longer than another. -/
def isLonger (a b : Octets) : Bool :=
  match seconds? a, seconds? b with
  | some x, some y => x.at (max x.places y.places) > y.at (max x.places y.places)
  | _, _ => false

/-- Run a program for some time. -/
def timeout (r : Runner) (name : Octets) (args : List Octets) : Run Unit := do
  let args := args.dropWhile fun a => a.head? = some '-'
  match args with
  | time :: program :: rest =>
      match seconds? time with
      | none => misused name ("invalid time interval ".toList ++ Utility.curled time) 125
      | some _ =>
          if program = "sleep".toList && isLonger (rest.headD ['0']) time then Run.setStatus 124
          else
            otherOr r (program :: rest) fun e =>
              name ++ ": failed to run command ".toList ++ Utility.curled program ++ ": ".toList ++
                e.text.toList ++ ['\n']
  | _ => misused name [] 125

/-- Run a program as it is, after options. -/
def through (r : Runner) (name : Octets) (args : List Octets) : Run Unit := do
  let args :=
    match args with
    | ['-', 'n'] :: _ :: rest => rest
    | _ => args.dropWhile fun a => a.head? = some '-'
  if args.isEmpty then misused name "missing operand".toList 125
  else
    otherOr r args fun e =>
      name ++ ": ".toList ++ Utility.curled (args.headD []) ++ ": ".toList ++ e.text.toList ++ ['\n']

/-! ## Once for every few words -/

/-- The words of an input, where quotes and backslashes keep blanks; nothing if a quote is not
closed. -/
def inputWords : Nat → Option Octets → Octets → Except Char (List Octets)
  | 0, _, _ => .ok []
  | n + 1, word, t =>
      let add (c : Char) : Option Octets := some (c :: word.getD [])
      match t with
      | [] => .ok (word.map List.reverse).toList
      | '\\' :: c :: rest => inputWords n (add c) rest
      | c :: rest =>
          if c = '\'' || c = '"' then
            let body := rest.takeWhile fun d => d ≠ c && d ≠ '\n'
            match rest.drop body.length with
            | d :: after =>
                if d = c then inputWords n (some (body.reverse ++ word.getD [])) after else .error c
            | [] => .error c
          else if c = ' ' || c = '\t' || c = '\n' then
            (inputWords n none rest).map fun ws => (word.map List.reverse).toList ++ ws
          else inputWords n (add c) rest

/-- Replace a mark in a word. -/
def replaceMark (mark new : Octets) : Nat → Octets → Octets
  | 0, t => t
  | _, [] => []
  | n + 1, c :: t =>
      if !mark.isEmpty && Text.startsWith (c :: t) mark then
        new ++ replaceMark mark new n ((c :: t).drop mark.length)
      else c :: replaceMark mark new n t

/-- Words in groups of a size. -/
def groupsOf (size : Nat) : Nat → List Octets → List (List Octets)
  | 0, _ => []
  | _, [] => []
  | n + 1, ws => ws.take (max size 1) :: groupsOf size n (ws.drop (max size 1))

/-- Run programs one after the other, and keep the worst status. -/
def runGroups (r : Runner) (name : Octets) (shows : Bool) : List (List Octets) → Nat → Run Nat
  | [], worst => return worst
  | words :: rest, worst => do
      if shows then Run.complain (List.intercalate [' '] (words.map Utility.shown) ++ ['\n'])
      let ending ← Process.inChild r do
        otherOr r words fun e =>
          name ++ ": ".toList ++ words.headD [] ++ ": ".toList ++ e.text.toList ++ ['\n']
      match ending with
      | .signal n =>
          Run.complain (name ++ ": ".toList ++ words.headD [] ++ ": terminated by signal ".toList ++
            Octets.ofNat n ++ ['\n'])
          return 125
      | .status 0 => runGroups r name shows rest worst
      | .status 255 =>
          Run.complain (name ++ ": ".toList ++ words.headD [] ++
            ": exited with status 255; aborting\n".toList)
          return 124
      | .status 126 => return 126
      | .status 127 => return 127
      | .status _ => runGroups r name shows rest 123

/-- The options of `xargs`. -/
def xargsOptions : Utility.Options :=
  { Utility.Options.of "0d:E:I:L:l::n:P:prs:tx"
      [("null", '0', .none), ("delimiter", 'd', .one), ("replace", 'I', .one),
        ("max-lines", 'L', .one), ("max-args", 'n', .one), ("max-procs", 'P', .one),
        ("no-run-if-empty", 'r', .none), ("verbose", 't', .none), ("exit", 'x', .none),
        ("arg-file", 'a', .one)] with strict := true }

/-- Run a program once for every few words of the input. -/
def xargs (r : Runner) (name : Octets) (args : List Octets) : Run Unit := do
  match xargsOptions.parse args with
  | .error t => misused name t 1
  | .ok (gs, ops) =>
      let input ← Run.channelOf? 0
      let text ←
        match input with
        | some (id, c) => do
            let t ← Run.remaining c
            Run.advance id t.length
            pure t
        | none => pure []
      let command := if ops.isEmpty then ["echo".toList] else ops
      let mark := Utility.argumentOf? gs 'I'
      let delimiter : Option Char :=
        if Utility.given gs '0' then some '\x00'
        else
          match Utility.argumentOf? gs 'd' with
          | some ['\\', 'n'] => some '\n'
          | some ['\\', 't'] => some '\t'
          | some ['\\', '0'] => some '\x00'
          | some (c :: _) => some c
          | _ => none
      let apart (c : Char) (t : Octets) : List Octets :=
        match (Text.splitOn c t).reverse with
        | [] :: rest => rest.reverse
        | ws => ws.reverse
      let words : Except Char (List Octets) :=
        match delimiter, mark with
        | some c, _ => .ok (apart c text)
        | none, some _ =>
            ((Octets.lines text).mapM fun row =>
              (inputWords (row.length + 1) none (row.flatMap fun c =>
                if c = ' ' || c = '\t' then ['\\', c] else [c])).map fun ws =>
                  (ws.flatten).dropWhile fun c => c = ' ' || c = '\t').map fun ws =>
                    ws.filter (· ≠ [])
        | none, none => inputWords (text.length + 1) none text
      match words with
      | .error c =>
          let kind := if c = '"' then "double" else "single"
          Run.complain (name ++ ": unmatched ".toList ++ kind.toList ++
            " quote; by default quotes are special to xargs unless you use the -0 option\n".toList)
          Run.setStatus 1
      | .ok words =>
          let groups : List (List Octets) :=
            match mark with
            | some m =>
                words.map fun w => command.map fun c => replaceMark m w (c.length + 1) c
            | none =>
                let size := (Utility.argumentOf? gs 'n').bind Octets.toNat?
                let height := (Utility.argumentOf? gs 'L').bind Octets.toNat?
                let cut :=
                  match size, height with
                  | some n, _ => groupsOf n (words.length + 1) words
                  | none, some n =>
                      let rows := ((Octets.lines text).map fun row =>
                        match inputWords (row.length + 1) none row with
                        | .ok ws => ws
                        | .error _ => []).filter (!·.isEmpty)
                      (groupsOf n (rows.length + 1) (rows.map fun ws =>
                        List.intercalate ['\n'] ws)).map fun g => g.flatMap (Text.splitOn '\n')
                  | none, none => if words.isEmpty then [] else [words]
                let cut := if cut.isEmpty && !Utility.given gs 'r' then [[]] else cut
                cut.map (command ++ ·)
          -- What is started reads nothing.
          let nothing ← Run.openChannel { target := .nowhere, reads := true }
          Run.lead 0 nothing
          Run.setStatus (← runGroups r name (Utility.given gs 't') groups 0)

end Launch
end Shell
end AmbientBundle
