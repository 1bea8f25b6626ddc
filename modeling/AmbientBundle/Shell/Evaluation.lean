import AmbientBundle.Shell.Builtin.Lookup
import AmbientBundle.Utility.Regex

/-!
# Running commands

Each kind of command has its definition here.  All of them take a *runner* for the
commands that they are made of; the runner is tied elsewhere, with a bound on how deep
commands may lie in one another.

A failure ends a shell that was told so, unless the status of the command is tested: by
a branch, by a loop, by what follows it, or because it is turned around.
-/

namespace AmbientBundle
namespace Shell
namespace Evaluation

/-! ## Settings -/

/-- Set a variable as a setting says. -/
def assign (h : Helper) (exported : Bool) : Setting → Run Unit
  | .mk name none more (.word w) => do
      let value ← Expansion.settingText h w
      let old := ((← Run.variableOf? name)).getD {}
      if old.whole then
        let i ← Expansion.arithmetic value
        let before ← if more then Expansion.arithmetic ((old.text?).getD ['0']) else pure 0
        Run.setVariable name (Octets.ofInt (before + i)) exported
      else
        Run.setVariable name ((if more then (old.text?).getD [] else []) ++ value) exported
  | .mk name (some index) more (.word w) => do
      let old := ((← Run.variableOf? name)).getD {}
      Run.checkFixed name old
      let key ← Expansion.text h index
      let value ← Expansion.settingText h w
      let key ← if old.keyed then pure key else Octets.ofInt <$> Expansion.arithmetic key
      let es := old.elements.getD ((old.value.map fun v => [(['0'], v)]).getD [])
      let value := (if more then (es.lookup key).getD [] else []) ++ value
      Run.putVariable name
        { old with value := none, elements := some (es.filter (·.1 ≠ key) ++ [(key, value)]) }
  | .mk name _ more (.array ws) => do
      let old := ((← Run.variableOf? name)).getD {}
      Run.checkFixed name old
      let before := if more then
        old.elements.getD ((old.value.map fun v => [(['0'], v)]).getD []) else []
      let next := (before.map fun e => (Octets.toNat? e.1).getD 0 + 1).foldl max 0
      let es ← arrayFrom h old.keyed next ws before
      Run.putVariable name { old with value := none, elements := some es }
where
  /-- Elements of an array that are written one after the other. -/
  arrayFrom (h : Helper) (keyed : Bool) :
      Nat → List Word → List (Octets × Octets) → Run (List (Octets × Octets))
    | _, [], es => return es
    | next, w :: rest, es => do
        let indexed :=
          match w with
          | .text ('[' :: t) false :: more => cutAtIndexEnd (.text t false :: more)
          | _ => none
        match indexed with
        | some (index, _, value) =>
            let key ← Expansion.text h index
            let value ← Expansion.settingText h value
            let i ← if keyed then pure 0 else Expansion.arithmetic key
            let key := if keyed then key else Octets.ofInt i
            arrayFrom h keyed (i.toNat + 1) rest (es.filter (·.1 ≠ key) ++ [(key, value)])
        | none =>
            let vs ← Expansion.words h [w]
            let new := vs.zipIdx.map fun (v, i) => (Octets.ofNat (next + i), v)
            arrayFrom h keyed (next + vs.length) rest (es ++ new)

/-- The name that a setting sets. -/
def settingName : Setting → Octets
  | .mk name _ _ _ => name

/-! ## Words -/

/-- Whether the arguments of a command can be settings. -/
def isDeclaring (dialect : Dialect) (name : Octets) : Bool :=
  let shown := String.ofList name
  shown = "export" || shown = "readonly" || shown = "local" ||
    (dialect = .bash && (shown = "declare" || shown = "typeset"))

/-- An argument that is a setting, whose value is not cut; any other argument as usual. -/
def argument (h : Helper) (dialect : Dialect) (w : Word) : Run (List Octets) := do
  match setting? dialect w with
  | some (.mk name none more (.word value)) =>
      let t ← Expansion.settingText h value
      return [name ++ (if more then ['+'] else []) ++ '=' :: t]
  | _ => Expansion.words h [w]

/-- The fields of the words of a command. -/
def fieldsOf (h : Helper) : List Word → Run (List Octets)
  | [] => return []
  | w :: rest => do
      let fs ← Expansion.words h [w]
      match fs with
      | [] => fieldsOf h rest
      | name :: _ =>
          let dialect := (← Run.shell).dialect
          if isDeclaring dialect name then return fs ++ (← rest.mapM (argument h dialect)).flatten
          else return fs ++ (← Expansion.words h rest)

/-! ## Simple commands -/

/-- What a simple command turned out to be. -/
inductive Call where
  /-- Settings and redirections only. -/
  | nothing
  /-- A function. -/
  | function (body : Command)
  /-- A builtin, and whether its faults end the shell. -/
  | builtin (run : Builtin) (special : Bool)
  /-- A program. -/
  | program

/-- What words call. -/
def callOf (tested functions : Bool) (name : Octets) : Run Call := do
  let s ← Run.shell
  match if functions then s.functions.lookup name else none with
  | some body => return .function body
  | none =>
      match Builtin.find? s.dialect name with
      | some b =>
          let b := if name = "eval".toList then Builtin.eval tested else b
          return .builtin b (Builtin.isSpecial name)
      | none => return .program

/-- The words after `command`, with its options taken off; nothing if it is asked what a command
is. -/
def afterCommand : Nat → List Octets → Option (List Octets)
  | 0, _ => none
  | _, [] => none
  | n + 1, a :: rest =>
      match a with
      | ['-', '-'] => if rest.isEmpty then none else some rest
      | ['-', 'p'] => afterCommand n rest
      | '-' :: _ :: _ => none
      | _ => some (a :: rest)

/-- What fields call, and the fields that it is called with. -/
def resolveCall (tested : Bool) : Nat → Bool → List Octets → Run (Call × List Octets)
  | 0, _, fields => return (.nothing, fields)
  | _, _, [] => return (.nothing, [])
  | n + 1, functions, name :: args => do
      let bash : Bool := (← Run.shell).dialect = .bash
      let plain : Run (Call × List Octets) := do
        match ← callOf tested functions name with
        | .builtin b special => return (.builtin b (special && functions), name :: args)
        | c => return (c, name :: args)
      if (name = "command".toList || (bash && name = "builtin".toList)) &&
          !((← Run.shell).functions.any fun f => functions && f.1 = name) then
        match afterCommand (args.length + 1) args with
        | some rest => resolveCall tested n false rest
        | none => plain
      else plain

/-- Run a builtin.  Only the faults of a special one go on. -/
def runBuiltin (r : Runner) (b : Builtin) (special : Bool) (name : Octets) (args : List Octets) :
    Run Unit := do
  let before := (← Run.shell).builtin
  Run.onShell fun s => { s with builtin := some name, lost := false }
  let stop ← Run.observe (b r args)
  let s ← Run.shell
  if s.lost then
    Run.onShell fun s => { s with builtin := some name }
    Run.warn (if s.dialect = .bash then "write error: Bad file descriptor".toList
      else name ++ ": I/O error".toList)
    Run.setStatus (if s.status % 2 = 0 then s.status + 1 else s.status)
  Run.onShell fun s => { s with builtin := before, lost := false }
  match stop with
  | none => pure ()
  | some .failed => if special && s.dialect = .plain then throw .failed else pure ()
  | some stop => throw stop

/-- How many functions may call one another. -/
def callLimit : Nat := 1000

/-- Call a function. -/
def callFunction (r : Runner) (tested : Bool) (body : Command) (args : List Octets) : Run Unit := do
  let s ← Run.shell
  if s.calls ≥ callLimit && s.dialect = .plain then
    Run.fault ("Maximum function recursion depth (".toList ++ Octets.ofNat callLimit ++
      ") reached".toList)
  Run.onShell fun s => { s with args, loops := 0, optionAt := none, calls := s.calls + 1 }
  let stop ← Run.observe (Builtin.inFrame (Builtin.oneDeeper (r.command tested body)))
  Run.onShell fun after =>
    { after with args := s.args, loops := s.loops, optionAt := s.optionAt, calls := s.calls }
  match stop with
  | none => pure ()
  | some stop => throw stop

/-- Run a program in a child. -/
def callProgram (r : Runner) (name : Octets) (fields : List Octets) : Run Unit := do
  match ← Locate.file name with
  | .error e =>
      let s ← Run.shell
      Run.warn (Locate.startFault s.dialect false false name e).1
      Run.setStatus 127
  | .ok path =>
      if !name.contains '/' then
        Run.onShell fun s => { s with located := (name, path) :: s.located.filter (·.1 ≠ name) }
      let ending ← Process.inChild r (Locate.start r name path fields)
      Process.note ending

/-- A field as it is shown before a command is run. -/
def traced (dialect : Dialect) (t : Octets) : Octets :=
  if dialect = .plain || (!t.isEmpty && t.all Expansion.isSafe) then t
  else Expansion.singleQuoted t

/-- Show a command before it is run. -/
def trace (target : Option Nat) (settings : List Octets) (fields : List Octets) : Run Unit := do
  let s ← Run.shell
  if s.flags.xtrace && !(settings.isEmpty && fields.isEmpty) then
    let mark := (← Run.valueOf? "PS4".toList).getD "+ ".toList
    let row (ts : List Octets) : Octets := mark ++ List.intercalate [' '] ts ++ ['\n']
    let text :=
      match s.dialect with
      | .plain => row (settings ++ fields)
      | .bash =>
          (settings.flatMap fun t => row [t]) ++
            if fields.isEmpty then [] else row (fields.map (traced .bash))
    match target with
    | some id =>
        match (← Run.machine).channels[id]? with
        | some c => Run.writeChannel id c text
        | none => pure ()
    | none => pure ()

/-- Set variables for a command, and show them as they are. -/
def assignAll (h : Helper) (temporary : Bool) (settings : List Setting) : Run (List Octets) :=
  settings.mapM fun s => do
    let name := settingName s
    if temporary then Builtin.remember name
    assign h temporary s
    let v ← Run.valueOf? name
    return name ++ '=' :: v.getD []

/-- Run what was called. -/
def perform (r : Runner) (tested : Bool) (call : Call) (fields : List Octets) : Run Unit := do
  match call with
  | .nothing => Run.onShell fun s => { s with status := s.taken }
  | .function body => callFunction r tested body fields.tail
  | .builtin b special => runBuiltin r b special (fields.headD []) fields.tail
  | .program => callProgram r (fields.headD []) fields

/-- Run a simple command. -/
def simple (r : Runner) (tested : Bool) (line : Nat) (settings : List Setting) (words : List Word)
    (redirects : List Redirect) : Run Unit := do
  Run.onShell fun s => { s with line, taken := 0 }
  let h := Process.helper r
  let fields ← fieldsOf h words
  let (call, fields) ← resolveCall tested (fields.length + 1) true fields
  let s ← Run.shell
  let complaints := s.channels.lookup 2
  let links ← redirects.mapM (Redirection.resolve h)
  let plain : Bool := s.dialect = .plain
  let (special, lasting) :=
    match call with
    | .builtin _ special => (special && plain, special && plain)
    | .nothing => (false, true)
    | _ => (false, false)
  let act : Run Unit := do
    if ← Redirection.tryLinks links then
      if lasting || settings.isEmpty then
        let shown ← assignAll h false settings
        trace complaints shown fields
        perform r tested call fields
      else
        Builtin.inFrame do
          let shown ← assignAll h true settings
          trace complaints shown fields
          perform r tested call fields
    else if special then throw .failed
  let isExec := fields = ["exec".toList]
  if links.isEmpty then act
  else if isExec then act
  else Redirection.keepingChannels act

/-! ## Joined commands -/

/-- Whether a loop goes on. -/
inductive Going where
  /-- It goes on as usual. -/
  | on
  /-- It goes on with the next round. -/
  | again
  /-- It is left. -/
  | left
  deriving DecidableEq, Repr

/-- Run a part of a loop. -/
def inLoop (act : Run Unit) : Run Going := do
  Run.onShell fun s => { s with loops := s.loops + 1 }
  let stop ← Run.observe act
  Run.onShell fun s => { s with loops := s.loops - 1 }
  match stop with
  | none => return .on
  | some (.leave n) => if n ≤ 1 then return .left else throw (.leave (n - 1))
  | some (.again n) => if n ≤ 1 then return .again else throw (.again (n - 1))
  | some stop => throw stop

/-- Go round a loop with a test. -/
def loopFrom (r : Runner) (tested untilTrue : Bool) (test body : Command) : Nat → Nat → Run Unit
  | 0, _ => throw .spent
  | n + 1, last => do
      match ← inLoop (r.command true test) with
      | .left => Run.setStatus last
      | .again => loopFrom r tested untilTrue test body n last
      | .on =>
          if ((← Run.status) = 0) = untilTrue then Run.setStatus last
          else
            match ← inLoop (r.command tested body) with
            | .left => pure ()
            | _ => loopFrom r tested untilTrue test body n (← Run.status)

/-- Go through the words of a loop. -/
def eachFrom (r : Runner) (tested : Bool) (name : Octets) (body : Command) :
    List Octets → Run Unit
  | [] => pure ()
  | v :: rest => do
      Run.setVariable name v
      match ← inLoop (r.command tested body) with
      | .left => pure ()
      | _ => eachFrom r tested name body rest

/-- Go round a counted loop. -/
def countFrom (r : Runner) (h : Helper) (tested : Bool) (test step : Word) (body : Command) :
    Nat → Run Unit
  | 0 => throw .spent
  | n + 1 => do
      let t ← Expansion.text h test
      let go ← if (Arithmetic.trimmed t).isEmpty then pure 1 else Expansion.arithmetic t
      if go = 0 then pure ()
      else
        match ← inLoop (r.command tested body) with
        | .left => pure ()
        | _ =>
            let _ ← Expansion.arithmetic (← Expansion.text h step)
            countFrom r h tested test step body n

/-- Run the cases whose patterns match.  It is known whether a case was run already, and whether
the next one is run in any case. -/
def chooseFrom (r : Runner) (h : Helper) (tested : Bool) (value : Octets) :
    Bool → Bool → List (List Word × Command × Char) → Run Unit
  | ran, _, [] => if ran then pure () else Run.setStatus 0
  | ran, through, (patterns, body, next) :: rest => do
      let hit ← if through then pure true else matchesAny patterns
      if hit then
        if Script.isSomething body then r.command tested body else Run.setStatus 0
        if next = '&' then chooseFrom r h tested value true true rest
        else if next = ';' then chooseFrom r h tested value true false rest
        else pure ()
      else chooseFrom r h tested value ran false rest
where
  /-- Whether one of some patterns matches. -/
  matchesAny : List Word → Run Bool
    | [] => return false
    | w :: rest => do
        if Pattern.fits (← Expansion.pattern h w) value then return true else matchesAny rest

/-- Run the commands of a pipe one after the other, each with the output of the one before it. -/
def pipeFrom (r : Runner) (tested : Bool) : Option Nat → List Command → Run (List Ending)
  | _, [] => return []
  | input, c :: rest => do
      let pipe ← Run.newPipe
      let out ← Run.openChannel { target := .pipe pipe, writes := true }
      let last := rest.isEmpty
      let ending ← Process.inChild r do
        match input with
        | some n => Run.lead 0 (← Run.openChannel { target := .pipe n, reads := true })
        | none => pure ()
        if last then pure () else Run.lead 1 out
        r.command tested c
      if last then pure ()
      else Process.runJobs r (fun j => j.state.channels.any (·.2 = out)) Process.jobLimit
      return ending :: (← pipeFrom r tested (some pipe) rest)

/-- Run a pipe. -/
def pipe (r : Runner) (tested : Bool) (cs : List Command) : Run Unit := do
  let endings ← pipeFrom r tested none cs
  endings.forM Process.note
  let codes := endings.map Ending.code
  let failed := (codes.reverse.find? (· ≠ 0)).getD 0
  Run.onShell fun s =>
    { s with piped := codes, status := if s.flags.pipefail then failed else s.status }

/-! ## Conditions -/

/-- The number that a word of a condition is. -/
def conditionNumber (h : Helper) (w : Word) : Run Int := do
  let t ← Expansion.text h w
  if (Arithmetic.trimmed t).isEmpty then return 0 else Expansion.arithmetic t

/-- Whether a condition holds. -/
def holds (h : Helper) : Condition → Run Bool
  | .word w => return !(← Expansion.text h w).isEmpty
  | .negate c => return !(← holds h c)
  | .both a b => do if ← holds h a then holds h b else return false
  | .either a b => do if ← holds h a then return true else holds h b
  | .unary t w => do
      let fs ← Builtin.filesOf
      return Utility.Test.ofWord fs (String.ofList t) (← Expansion.text h w)
  | .binary t a b => do
      let numbers (f : Int → Int → Bool) : Run Bool :=
        return f (← conditionNumber h a) (← conditionNumber h b)
      match String.ofList t with
      | "-eq" => numbers fun i j => i = j
      | "-ne" => numbers fun i j => i ≠ j
      | "-lt" => numbers fun i j => i < j
      | "-le" => numbers fun i j => i ≤ j
      | "-gt" => numbers fun i j => j < i
      | "-ge" => numbers fun i j => j ≤ i
      | "=" => matching a b
      | "==" => matching a b
      | "!=" => return !(← matching a b)
      | "=~" => searching a b
      | test =>
          let x ← Expansion.text h a
          let y ← Expansion.text h b
          match Utility.Test.ofWords (← Builtin.filesOf) test x y with
          | .ok v => return v
          | .error _ => return false
where
  /-- Whether a word matches a pattern. -/
  matching (a b : Word) : Run Bool := do
    let x ← Expansion.text h a
    return Pattern.fits (← Expansion.pattern h b) x
  /-- Whether an expression is found in a word.  The stretches it was found at are kept. -/
  searching (a b : Word) : Run Bool := do
    let t := (Octets.toText (← Expansion.text h a)).toArray
    match Utility.Regex.parse true (Octets.toText (← Expansion.expression h b)) with
    | .error _ => throw .failed
    | .ok e =>
        let stretch (i j : Nat) : Octets := Octets.ofText (t.toList.drop i |>.take (j - i))
        let (hit, found) :=
          match e.search false t 0 with
          | none => (false, [])
          | some (i, f) =>
              (true, stretch i f.stop :: (List.range e.groupCount).map fun k =>
                ((f.groups.lookup (k + 1)).map fun (x, y) => stretch x y).getD [])
        Run.putVariable "BASH_REMATCH".toList
          { elements := some (found.zipIdx.map fun (t, k) => (Octets.ofNat k, t)) }
        return hit

/-! ## Any command -/

/-- The commands of a sequence. -/
def sequence : Command → List Command
  | .next a b => sequence a ++ [b]
  | c => [c]

/-- Whether a failure of a command ends a shell that was told so. -/
def endsShell (dialect : Dialect) : Command → Bool
  | .simple .. => true
  | .pipe _ => true
  | .subshell .. => true
  | .background .. => true
  | .weigh .. => dialect = .bash
  | .judge .. => dialect = .bash
  | _ => false

/-- Run a command, but for what signals and failures do afterwards. -/
def body (r : Runner) (tested : Bool) (c : Command) : Run Unit := do
  let h := Process.helper r
  match c with
  | .nothing => pure ()
  | .simple line settings words redirects => simple r tested line settings words redirects
  | .pipe cs => pipe r tested cs
  | .all a b => do
      r.command true a
      if (← Run.status) = 0 then r.command tested b
  | .any a b => do
      r.command true a
      if (← Run.status) ≠ 0 then r.command tested b
  | .next a b => (sequence (.next a b)).forM (r.command tested)
  | .negate c => do
      r.command true c
      Run.setStatus (if (← Run.status) = 0 then 1 else 0)
  | .background line c redirects => do
      Run.onShell fun s => { s with line }
      Process.putOff c (← redirects.mapM (Redirection.resolve h))
  | .subshell line c redirects => do
      Run.onShell fun s => { s with line }
      let links ← redirects.mapM (Redirection.resolve h)
      let ending ← Process.inChild r (Process.linked links (r.command tested c))
      Process.note ending
  | .redirected line c redirects => do
      Run.onShell fun s => if line = 0 then s else { s with line }
      Redirection.around h redirects (r.command tested c)
  | .branch test yes no => do
      r.command true test
      if (← Run.status) = 0 then r.command tested yes
      else if Script.isSomething no then r.command tested no
      else Run.setStatus 0
  | .loop untilTrue test b => loopFrom r tested untilTrue test b Run.roundLimit 0
  | .each line name words b => do
      Run.onShell fun s => { s with line }
      let vs ← Expansion.words h words
      if vs.isEmpty then Run.setStatus 0
      eachFrom r tested name b vs
  | .counted line start test step b => do
      Run.onShell fun s => { s with line }
      let t ← Expansion.text h start
      if (Arithmetic.trimmed t).isEmpty then pure ()
      else
        let _ ← Expansion.arithmetic t
      Run.setStatus 0
      countFrom r h tested test step b Run.roundLimit
  | .choose line w cases => do
      Run.onShell fun s => { s with line }
      let value ← Expansion.text h w
      chooseFrom r h tested value false false cases
  | .define _ name b =>
      Run.onShell fun s =>
        { s with functions := (name, b) :: s.functions.filter (·.1 ≠ name), status := 0 }
  | .weigh line w => do
      Run.onShell fun s => { s with line, builtin := some ['(', '('] }
      let stop ← Run.observe do
        let i ← Expansion.arithmetic (← Expansion.text h w)
        Run.setStatus (if i = 0 then 1 else 0)
      Run.onShell fun s => { s with builtin := none }
      match stop with
      | none => pure ()
      | some .failed => pure ()
      | some stop => throw stop
  | .judge line condition => do
      Run.onShell fun s => { s with line }
      Run.setStatus (if ← holds h condition then 0 else 1)

/-- Whether a command is a pipe of its own. -/
def isStage : Command → Bool
  | .simple .. => true
  | .subshell .. => true
  | .weigh .. => true
  | .judge .. => true
  | _ => false

/-- Run a command. -/
def command (r : Runner) (tested : Bool) (c : Command) : Run Unit := do
  Process.deliver r
  body r tested c
  if isStage c then Run.onShell fun s => { s with piped := [s.status] }
  let s ← Run.shell
  if !tested && s.status ≠ 0 && endsShell s.dialect c then
    match if s.locals.isEmpty then s.traps.lookup Signal.failure else none with
    | some text => Process.react r text
    | none => pure ()
    if s.flags.errexit then throw .exit
  Process.deliver r

end Evaluation
end Shell
end AmbientBundle
