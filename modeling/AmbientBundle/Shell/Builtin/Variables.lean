import AmbientBundle.Shell.Builtin.Basic

/-!
# Builtins about variables

Variables are exported, fixed, made local to a function, dropped and listed.  `set`
tells the shell what to do and gives it new arguments.  `read` cuts a line of the input
into values; `getopts` takes options from arguments one at a time.
-/

namespace AmbientBundle
namespace Shell
namespace Builtin

/-! ## Marks -/

/-- The variables that pass a test, by name. -/
def sorted (p : Variable → Bool) : Run (List (Octets × Variable)) := do
  return ((← Run.shell).bindings.filter fun v => p v.2).mergeSort fun a b => Text.le a.1 b.1

/-- List variables with a word in front of each. -/
def listWith (word : Octets) (more : Octets) (p : Variable → Bool) : Run Unit := do
  let isMore ← hasMore
  let front := if isMore then more else word
  (← sorted p).forM fun (name, v) => do
    let value :=
      match v.value with
      | none => []
      | some t => '=' :: if isMore then '"' :: t ++ ['"'] else listed t
    sayLine (front ++ ' ' :: name ++ value)

/-- Set a variable if a value is given, and mark it. -/
def mark (f : Variable → Variable) (t : Octets) : Run Unit := do
  let (name, value) := cutSetting t
  checkName name
  match value with
  | some v => Run.setVariable name v
  | none => pure ()
  let v := ((← Run.variableOf? name)).getD {}
  Run.putVariable name (f v)

/-- Let programs see variables. -/
def exportVariables : Builtin := fun _ args => do
  let (os, names) ← options (if ← hasMore then "fnp" else "p") args
  Run.setStatus 0
  if names.isEmpty || has os 'p' then
    listWith "export".toList "declare -x".toList (·.exported)
  else
    names.forM (mark fun v => { v with exported := !has os 'n' })

/-- Fix variables. -/
def fixVariables : Builtin := fun _ args => do
  let (os, names) ← options (if ← hasMore then "afp" else "p") args
  Run.setStatus 0
  if names.isEmpty || has os 'p' then
    listWith "readonly".toList "declare -r".toList (·.fixed)
  else names.forM (mark fun v => { v with fixed := true })

/-- Drop variables or functions. -/
def unset : Builtin := fun _ args => do
  let (os, names) ← options "vf" args
  Run.setStatus 0
  names.forM fun name => do
    let dropFunction : Run Unit :=
      Run.onShell fun s => { s with functions := s.functions.filter (·.1 ≠ name) }
    if has os 'f' then dropFunction
    else
      let bare := name.takeWhile (· ≠ '[')
      checkName bare
      let v := ((← Run.variableOf? bare)).getD {}
      if v.fixed then
        if ← hasMore then
          Run.warn (name ++ ": cannot unset: readonly variable".toList)
          Run.setStatus 1
        else Run.fault (name ++ ": is read only".toList)
      else if bare ≠ name then
        let key := (name.drop (bare.length + 1)).takeWhile (· ≠ ']')
        Run.putVariable bare { v with elements := v.elements.map fun es => es.filter (·.1 ≠ key) }
      else if (← Run.variableOf? name).isSome then Run.dropVariable name
      else if (← hasMore) && !has os 'v' then dropFunction

/-! ## Variables of a function -/

/-- Remember a variable for the end of the function. -/
def remember (name : Octets) : Run Unit := do
  let old ← Run.variableOf? name
  Run.onShell fun s =>
    match s.locals with
    | [] => s
    | frame :: rest =>
        if frame.any (·.1 = name) then s else { s with locals := ((name, old) :: frame) :: rest }

/-- Put variables back. -/
def restore (frame : List (Octets × Option Variable)) : Run Unit :=
  frame.forM fun (name, old) =>
    match old with
    | some v => Run.putVariable name v
    | none => Run.dropVariable name

/-- Do something with variables of its own. -/
def inFrame (act : Run Unit) : Run Unit := do
  Run.onShell fun s => { s with locals := [] :: s.locals }
  let stop ← Run.observe act
  match (← Run.shell).locals with
  | [] => pure ()
  | frame :: rest =>
      Run.onShell fun s => { s with locals := rest }
      restore frame
  match stop with
  | none => pure ()
  | some stop => throw stop

/-- The elements of an array that is written in parentheses. -/
def elementsOf (t : Octets) : List (Octets × Octets) :=
  let words := (Text.splitOn ' ' (t.drop 1).dropLast).filter (· ≠ [])
  words.zipIdx.map fun (w, i) =>
    match w with
    | '[' :: rest =>
        let key := rest.takeWhile (· ≠ ']')
        (key, rest.drop (key.length + 2))
    | _ => (Octets.ofNat i, w)

/-- Declare a variable with some letters of options. -/
def declareOne (os : List (Char × Octets)) (isLocal : Bool) (t : Octets) : Run Unit := do
  let (name, value) := cutSetting t
  let more := name.getLast? = some '+'
  let name := if more then name.dropLast else name
  checkName name
  if isLocal then
    remember name
    if ← hasMore then Run.dropVariable name
  let old := ((← Run.variableOf? name)).getD {}
  let kinded := has os 'a' || has os 'A'
  let base : Variable :=
    { old with
      elements := if kinded && old.elements.isNone then some [] else old.elements
      keyed := old.keyed || has os 'A'
      whole := old.whole || has os 'i' }
  if kinded || has os 'i' then Run.putVariable name base
  match value with
  | none =>
      if isLocal && !kinded then
        Run.putVariable name base
      else pure ()
  | some v =>
      if v.head? = some '(' && (← hasMore) then
        let es := if more then base.elements.getD [] else []
        let start := es.length
        let new := (elementsOf v).map fun (k, w) =>
          if more then ((Octets.toNat? k).map fun n => (Octets.ofNat (n + start), w)).getD (k, w)
          else (k, w)
        Run.putVariable name { base with elements := some (es ++ new), value := none }
      else if base.whole then
        Run.setVariable name (Octets.ofInt (← Expansion.arithmetic v))
      else Run.setVariable name ((if more then old.value.getD [] else []) ++ v)
  let v := ((← Run.variableOf? name)).getD {}
  if has os 'x' || has os 'r' then
    Run.putVariable name
      { v with exported := v.exported || has os 'x', fixed := v.fixed || has os 'r' }

/-- Make variables local. -/
def localVariables : Builtin := fun _ args => do
  let more ← hasMore
  if (← Run.shell).locals.isEmpty then
    if more then Run.fault "can only be used in a function".toList 1
    else Run.fault "not in a function".toList
  else
    Run.setStatus 0
    if more then
      let (os, names) ← options "aAirxgpn" args
      names.forM (declareOne os true)
    else
      args.forM fun t => do
        if t = ['-'] then pure ()
        else
          let (name, value) := cutSetting t
          checkName name
          remember name
          match value with
          | some v => Run.setVariable name v
          | none =>
              if (← Run.variableOf? name).isNone then Run.putVariable name {}

/-- Declare variables. -/
def declare : Builtin := fun _ args => do
  let (os, names) ← options "aAirxgpfFn" args
  Run.setStatus 0
  let isLocal := !(← Run.shell).locals.isEmpty && !has os 'g'
  if has os 'p' || names.isEmpty then
    let chosen ← sorted fun _ => true
    let chosen := if names.isEmpty then chosen else chosen.filter fun v => names.contains v.1
    chosen.forM fun (name, v) => do
      let marks := (if v.exported then ['x'] else []) ++ (if v.fixed then ['r'] else [])
      let value := (v.value.map fun t => '=' :: '"' :: t ++ ['"']).getD []
      sayLine ("declare -".toList ++ (if marks.isEmpty then ['-'] else marks) ++ ' ' :: name ++ value)
  else names.forM (declareOne os isLocal)

/-! ## Options and arguments -/

/-- The names of what a shell can be told, with their letters. -/
def optionNames : List (String × Char) :=
  [("errexit", 'e'), ("noglob", 'f'), ("ignoreeof", 'I'), ("interactive", 'i'), ("monitor", 'm'),
    ("noexec", 'n'), ("stdin", 's'), ("xtrace", 'x'), ("verbose", 'v'), ("vi", 'V'),
    ("emacs", 'E'), ("noclobber", 'C'), ("allexport", 'a'), ("notify", 'b'), ("nounset", 'u'),
    ("nolog", '1'), ("debug", '2')]

/-- Whether a letter is on. -/
def isOn (f : Flags) : Char → Bool
  | 'e' => f.errexit
  | 'f' => f.noglob
  | 'n' => f.noexec
  | 's' => f.stdin
  | 'x' => f.xtrace
  | 'v' => f.verbose
  | 'C' => f.noclobber
  | 'a' => f.allexport
  | 'u' => f.nounset
  | _ => false

/-- Turn a letter on or off. -/
def turn (on : Bool) (f : Flags) : Char → Option Flags
  | 'e' => some { f with errexit := on }
  | 'f' => some { f with noglob := on }
  | 'n' => some { f with noexec := on }
  | 's' => some { f with stdin := on }
  | 'x' => some { f with xtrace := on }
  | 'v' => some { f with verbose := on }
  | 'C' => some { f with noclobber := on }
  | 'a' => some { f with allexport := on }
  | 'u' => some { f with nounset := on }
  | c => if "IimVEb".toList.contains c then some f else none

/-- Turn a letter of the way with more forms on or off. -/
def turnMore (on : Bool) (f : Flags) (c : Char) : Option Flags :=
  if "hkptBEHPTl".toList.contains c then some f else turn on f c

/-- Turn something on or off by its name. -/
def turnByName (on : Bool) (name : Octets) : Run Unit := do
  let s ← Run.shell
  let more := s.dialect = .bash
  let shown := String.ofList name
  let flags :=
    if more && shown = "pipefail" then some { s.flags with pipefail := on }
    else if more && ["posix", "errtrace", "functrace", "history", "braceexpand", "hashall",
        "histexpand", "physical", "privileged", "onecmd", "keyword"].contains shown then
      some s.flags
    else
      match optionNames.lookup shown with
      | some '1' => some s.flags
      | some '2' => some s.flags
      | some c => turn on s.flags c
      | none => none
  match flags with
  | some flags => Run.onShell fun s => { s with flags }
  | none =>
      if more then Run.fault (name ++ ": invalid option name".toList)
      else Run.fault ("Illegal option ".toList ++ (if on then '-' else '+') :: "o ".toList ++ name)

/-- List what the shell was told. -/
def listOptions : Run Unit := do
  let f := (← Run.shell).flags
  if ← hasMore then pure () else sayLine "Current option settings".toList
  optionNames.forM fun (name, c) =>
    sayLine (name.toList ++ List.replicate (16 - name.length) ' ' ++
      (if isOn f c then "on" else "off").toList)

/-- Take options from the front of arguments.  Whether the arguments are to be replaced, and what
is left of them, comes out. -/
def takeOptions : Nat → List Octets → Run (Bool × List Octets)
  | 0, args => return (!args.isEmpty, args)
  | _, [] => return (false, [])
  | n + 1, a :: args => do
      let apply (on : Bool) (cs : Octets) : Run (Bool × List Octets) := do
        let more ← hasMore
        let wantsName := cs.contains 'o'
        for c in cs do
          if c ≠ 'o' then
            let f := (← Run.shell).flags
            match if more then turnMore on f c else turn on f c with
            | some flags => Run.onShell fun s => { s with flags }
            | none =>
                if more then
                  Run.warn ((if on then '-' else '+') :: c :: ": invalid option".toList)
                  Run.fault "usage: set [-abefhkmnptuvxBCEHPT] [-o option-name] [--] [-] [arg ...]".toList
                else Run.fault ("Illegal option ".toList ++ [if on then '-' else '+', c])
        if wantsName then
          match args with
          | [] => do
              listOptions
              return (false, [])
          | name :: args => do
              turnByName on name
              takeOptions n args
        else takeOptions n args
      match a with
      | ['-'] =>
          Run.onShell fun s => { s with flags := { s.flags with xtrace := false, verbose := false } }
          return (!args.isEmpty, args)
      | ['-', '-'] => return (true, args)
      | '-' :: cs => apply true cs
      | '+' :: cs => apply false cs
      | _ => return (true, a :: args)

/-- Tell the shell what to do, give it new arguments, or list its variables. -/
def set : Builtin := fun _ args => do
  if args.isEmpty then
    let more ← hasMore
    (← sorted fun v => v.text?.isSome).forM fun (name, v) => do
      let t := (v.text?).getD []
      let shown := if more && t.all Expansion.isSafe then t else listed t
      sayLine (name ++ '=' :: shown)
    Run.setStatus 0
  else
    let (replaced, args) ← takeOptions (args.length + 1) args
    if replaced then Run.onShell fun s => { s with args, optionAt := none }
    Run.setStatus 0

/-- Drop arguments from the front. -/
def shift : Builtin := fun _ args => do
  let n ←
    match args with
    | [] => pure 1
    | a :: _ => number a
  let s ← Run.shell
  if n > s.args.length then
    if s.dialect = .bash then Run.setStatus 1
    else Run.fault "can't shift that many".toList
  else
    Run.onShell fun s => { s with args := s.args.drop n, optionAt := none }
    Run.setStatus 0

/-- Take the next option from arguments. -/
def getopts : Builtin := fun _ args => do
  match args with
  | known :: target :: rest =>
      let s ← Run.shell
      let more := s.dialect = .bash
      let words := if rest.isEmpty then s.args else rest
      let index := (((← Run.valueOf? "OPTIND".toList).bind Octets.toNat?).getD 1)
      let index := if index = 0 then 1 else index
      let quiet := known.head? = some ':'
      let current : Octets :=
        match s.optionAt with
        | some off => if index ≤ 1 then [] else ((words[index - 2]?).getD []).drop off
        | none => []
      -- The letters that are left of a word, and the number of the next word.
      let start : Option (Octets × Nat) :=
        if !current.isEmpty then some (current, index)
        else
          match words[index - 1]? with
          | some ('-' :: c :: cs) => some (c :: cs, index + 1)
          | _ => none
      let finish (index : Nat) (letter : Char) (left : Option Octets) (done : Bool) :
          Run Unit := do
        Run.setVariable "OPTIND".toList (Octets.ofNat index)
        Run.setVariable target [letter]
        let word := (words[index - 2]?).getD []
        Run.onShell fun s => { s with optionAt := left.map fun l => word.length - l.length }
        Run.setStatus (if done then 1 else 0)
      let complain (plain : String) (bash : String) (c : Char) (after : String) : Run Unit := do
        if more then
          Run.complain (s.name ++ ": ".toList ++ bash.toList ++ c :: ['\n'])
        else Run.complain (plain.toList ++ c :: after.toList ++ ['\n'])
      match start with
      | none => finish index '?' none true
      | some (['-'], index) => finish index '?' none true
      | some ([], index) => finish index '?' none true
      | some (c :: cs, index) =>
          let after := known.dropWhile (· ≠ c)
          if c = ':' || after.isEmpty then
            if quiet then Run.setVariable "OPTARG".toList [c]
            else
              complain "Illegal option -" "illegal option -- " c ""
              Run.dropVariable "OPTARG".toList
            finish index '?' (some cs) false
          else if after.tail.head? = some ':' then
            match cs, words[index - 1]? with
            | [], none =>
                if quiet then
                  Run.setVariable "OPTARG".toList [c]
                  finish index ':' (some cs) false
                else
                  complain "No arg for -" "option requires an argument -- " c " option"
                  Run.dropVariable "OPTARG".toList
                  finish index '?' (some cs) false
            | [], some word =>
                Run.setVariable "OPTARG".toList word
                finish (index + 1) c none false
            | _, _ =>
                Run.setVariable "OPTARG".toList cs
                finish index c none false
          else
            Run.setVariable "OPTARG".toList []
            finish index c (some cs) false
  | _ =>
      if ← hasMore then Run.fault "usage: getopts optstring name [arg ...]".toList
      else Run.fault "Usage: getopts optstring var [arg...]".toList

/-! ## Reading -/

/-- A line of the input, each character with whether it was escaped; how many bytes it took and
whether it had an end. -/
def lineOf (raw : Bool) (stop : Char) : Octets → List (Char × Bool) × Nat × Bool
  | [] => ([], 0, false)
  | ['\\'] => if raw then ([('\\', false)], 1, false) else ([], 1, false)
  | '\\' :: c :: rest =>
      if raw then
        if c = stop then ([('\\', false)], 2, true)
        else
          let (t, n, done) := lineOf raw stop (c :: rest)
          (('\\', false) :: t, n + 1, done)
      else
        let (t, n, done) := lineOf raw stop rest
        if c = '\n' then (t, n + 2, done) else ((c, true) :: t, n + 2, done)
  | c :: rest =>
      if c = stop then ([], 1, true)
      else
        let (t, n, done) := lineOf raw stop rest
        if c = '\x00' then (t, n + 1, done) else ((c, false) :: t, n + 1, done)

/-- Characters that may be escaped. -/
abbrev Marked := List (Char × Bool)

/-- Whether a character separates values, and whether it is a blank. -/
def separates (separators : Octets) (c : Char × Bool) : Bool :=
  !c.2 && separators.contains c.1

/-- Whether a character is a blank that separates values. -/
def separatesBlank (separators : Octets) (c : Char × Bool) : Bool :=
  separates separators c && isFieldBlank c.1

/-- What is left after a separator and the blanks around it. -/
def afterSeparator (separators : Octets) (t : Marked) : Marked :=
  match t.dropWhile (separatesBlank separators) with
  | c :: rest =>
      if separates separators c then rest.dropWhile (separatesBlank separators) else c :: rest
  | [] => []

/-- The value of the last variable: everything, without blanks at its end.  If it is a single
field, its separator goes too. -/
def lastValue (separators : Octets) (t : Marked) : Octets :=
  let field := t.takeWhile (!separates separators ·)
  if (afterSeparator separators (t.drop field.length)).isEmpty then field.map (·.1)
  else ((t.reverse.dropWhile (separatesBlank separators)).reverse).map (·.1)

/-- Cut a line into as many values as there are variables. -/
def valuesOf (separators : Octets) : Nat → Marked → List Octets
  | 0, _ => []
  | 1, t => [lastValue separators t]
  | n + 1, t =>
      let field := t.takeWhile (!separates separators ·)
      field.map (·.1) :: valuesOf separators n (afterSeparator separators (t.drop field.length))

/-- Cut a line into all its values. -/
def allValues (separators : Octets) : Nat → Marked → List Octets
  | 0, _ => []
  | n + 1, t =>
      if t.isEmpty then []
      else
        let field := t.takeWhile (!separates separators ·)
        field.map (·.1) :: allValues separators n (afterSeparator separators (t.drop field.length))

/-- Read a line. -/
def read : Builtin := fun _ args => do
  let more ← hasMore
  let (os, names) ← options (if more then "rsep:a:d:n:N:t:u:i:" else "p:r") args
  let names := if names.isEmpty && more then ["REPLY".toList] else names
  if names.isEmpty then Run.fault "arg count".toList
  let fd := ((os.lookup 'u').bind Octets.toNat?).getD 0
  match ← Run.channelOf? fd with
  | none => Run.setStatus (if more then 1 else 2)
  | some (id, c) =>
      let input ← Run.remaining c
      let stop := ((os.lookup 'd').map fun d => d.headD '\x00').getD '\n'
      let limited := match (os.lookup 'n').bind Octets.toNat? with
        | some n => input.take n
        | none => input
      let (line, used, done) := lineOf (has os 'r') stop limited
      Run.advance id used
      let separators ← Expansion.separators
      let trimmed := line.dropWhile (separatesBlank separators)
      match os.lookup 'a' with
      | some name =>
          let values := allValues separators (trimmed.length + 1) trimmed
          Run.putVariable name
            { elements := some (values.zipIdx.map fun (v, i) => (Octets.ofNat i, v)) }
      | none =>
          let whole := more && args.length = (args.filter fun a => a.head? = some '-').length
          let values := if whole then [line.map (·.1)] else valuesOf separators names.length trimmed
          (names.zip values).forM fun (name, value) => do
            checkName name
            Run.setVariable name value
      Run.setStatus (if done || (limited.length < input.length) then 0 else 1)

/-- Read all lines into an array. -/
def readAll : Builtin := fun _ args => do
  let (os, names) ← options "tn:d:s:u:O:c:C:" args
  let name := names.headD "MAPFILE".toList
  match ← Run.channelOf? 0 with
  | none => Run.setStatus 1
  | some (id, c) =>
      let input ← Run.remaining c
      Run.advance id input.length
      let rows := Octets.lines input
      let rows := if has os 't' then rows else rows.map (· ++ ['\n'])
      Run.putVariable name { elements := some (rows.zipIdx.map fun (v, i) => (Octets.ofNat i, v)) }
      Run.setStatus 0

/-- Work out arithmetic expressions. -/
def arithmeticOf : Builtin := fun _ args => do
  let mut last : Int := 0
  for a in args do
    last ← Expansion.arithmetic a
  Run.setStatus (if last = 0 then 1 else 0)

/-! ## Words that stand for others -/

/-- Set or list words that stand for others. -/
def aliases : Builtin := fun _ args => do
  Run.setStatus 0
  let shown (name value : Octets) : Octets := name ++ '=' :: listed value
  if args.isEmpty then
    ((← Run.shell).aliases.mergeSort fun a b => Text.le a.1 b.1).forM fun (n, v) =>
      sayLine (shown n v)
  else
    args.forM fun a => do
      match cutSetting a with
      | (name, some value) =>
          Run.onShell fun s =>
            { s with aliases := (name, value) :: s.aliases.filter (·.1 ≠ name) }
      | (name, none) =>
          match (← Run.shell).aliases.lookup name with
          | some value => sayLine (shown name value)
          | none =>
              if ← hasMore then Run.warn (name ++ ": not found".toList)
              else Run.complain ("alias: ".toList ++ name ++ " not found\n".toList)
              Run.setStatus 1

/-- Forget words that stand for others. -/
def unaliases : Builtin := fun _ args => do
  let (os, names) ← options "a" args
  Run.setStatus 0
  if has os 'a' then Run.onShell fun s => { s with aliases := [] }
  names.forM fun name => do
    if (← Run.shell).aliases.any (·.1 = name) then
      Run.onShell fun s => { s with aliases := s.aliases.filter (·.1 ≠ name) }
    else
      if ← hasMore then Run.warn (name ++ ": not found".toList)
      else Run.complain ("unalias: ".toList ++ name ++ " not found\n".toList)
      Run.setStatus 1

end Builtin
end Shell
end AmbientBundle
