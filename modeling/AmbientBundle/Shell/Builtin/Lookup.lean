import AmbientBundle.Shell.Builtin.Control
import AmbientBundle.Shell.Builtin.Directory
import AmbientBundle.Shell.Builtin.Output
import AmbientBundle.Shell.Builtin.Variables

/-!
# The table of builtins

`Builtin.find?` is the table.  The builtins that ask what a command is stand here as
well, since they look into it.
-/

namespace AmbientBundle
namespace Shell
namespace Builtin

/-- The builtins but for those that look into the table. -/
def plainTable : List (String × Builtin) :=
  [(".", dot), (":", succeed), ("[", test), ("alias", aliases), ("bg", noJob),
    ("break", breakLoops), ("cd", cd), ("chdir", cd), ("continue", continueLoops), ("echo", echo),
    ("eval", eval false), ("exec", execProgram), ("exit", exitShell), ("export", exportVariables),
    ("false", failing), ("fg", noJob), ("getopts", getopts), ("jobs", succeed), ("kill", kill),
    ("local", localVariables), ("printf", printf), ("pwd", pwd), ("read", read),
    ("readonly", fixVariables), ("return", returnBack), ("set", set), ("shift", shift),
    ("test", test), ("times", times), ("trap", trap), ("true", succeed), ("ulimit", ulimit),
    ("umask", umask), ("unalias", unaliases), ("unset", unset), ("wait", wait)]

/-- Turn something on or off that only the way with more forms has. -/
def shopt : Builtin := fun _ args => do
  let (os, names) ← options "suqpo" args
  Run.setStatus 0
  if names.contains "nullglob".toList then
    Run.onShell fun s => { s with flags := { s.flags with nullglob := has os 's' } }

/-- The builtins of the way with more forms. -/
def moreTable : List (String × Builtin) :=
  [("source", dot), ("declare", declare), ("typeset", declare), ("let", arithmeticOf),
    ("mapfile", readAll), ("readarray", readAll), ("shopt", shopt), ("disown", succeed),
    ("enable", succeed)]

/-- The names of the builtins that look into the table. -/
def lookupNames : List String := ["command", "hash", "type"]

/-- Whether a name is that of a builtin. -/
def isBuiltin (dialect : Dialect) (name : Octets) : Bool :=
  let shown := String.ofList name
  (plainTable.any (·.1 = shown) && !(dialect = .bash && shown = "chdir")) ||
    lookupNames.contains shown ||
    (dialect = .bash && (shown = "builtin" || moreTable.any (·.1 = shown)))

/-- The special builtins. -/
def isSpecial (name : Octets) : Bool :=
  specialBuiltins.contains (String.ofList name) || name = "local".toList

/-- What a name stands for as a command. -/
inductive Meaning where
  /-- A word of the language. -/
  | keyword
  /-- Another text. -/
  | another (text : Octets)
  /-- A function. -/
  | function
  /-- A builtin. -/
  | builtin
  /-- A file. -/
  | file (path : Octets)
  /-- Nothing. -/
  | nothing

/-- What a name stands for. -/
def meaningOf (name : Octets) : Run Meaning := do
  let s ← Run.shell
  let shown := String.ofList name
  if reservedWords.contains shown ||
      (s.dialect = .bash && moreReservedWords.contains shown) then return .keyword
  else
    match s.aliases.lookup name with
    | some t => return .another t
    | none =>
        if s.functions.any (·.1 = name) then return .function
        else if isBuiltin s.dialect name then return .builtin
        else if name.contains '/' then
          match (← Run.machine).tree.statText s.cwd (Octets.toText name) with
          | .ok (_, .file _ .program) => return .file name
          | .ok (_, .dir _) => return if s.dialect = .bash then .nothing else .file name
          | _ => return .nothing
        else
          match ← Locate.file name with
          | .ok p => return .file p
          | .error _ => return .nothing

/-- Describe a command in a sentence. -/
def describe (name : Octets) : Run Nat := do
  let more ← hasMore
  match ← meaningOf name with
  | .keyword => sayLine (name ++ " is a shell keyword".toList); return 0
  | .another t =>
      if more then sayLine (name ++ " is aliased to `".toList ++ t ++ ['\''])
      else sayLine (name ++ " is an alias for ".toList ++ t)
      return 0
  | .function => sayLine (name ++ (if more then " is a function" else " is a shell function").toList)
                 return 0
  | .builtin =>
      let kind := if isSpecial name && !more && name ≠ "local".toList then " is a special shell builtin"
        else " is a shell builtin"
      sayLine (name ++ kind.toList)
      return 0
  | .file p =>
      let tracked := (← Run.shell).located.any (·.1 = name)
      if tracked then
        if more then sayLine (name ++ " is hashed (".toList ++ p ++ [')'])
        else sayLine (name ++ " is a tracked alias for ".toList ++ p)
      else sayLine (name ++ " is ".toList ++ p)
      return 0
  | .nothing =>
      if more then
        Run.warn (name ++ ": not found".toList)
        return 1
      else
        sayLine (name ++ ": not found".toList)
        return 127

/-- Describe commands. -/
def typeOf : Builtin := fun _ args => do
  let (os, names) ← options (if ← hasMore then "afptP" else "") args
  let mut status := 0
  for name in names do
    if has os 't' || has os 'p' || has os 'P' then
      match ← meaningOf name with
      | .keyword => if has os 't' then sayLine "keyword".toList
      | .another _ => if has os 't' then sayLine "alias".toList
      | .function => if has os 't' then sayLine "function".toList
      | .builtin => if has os 't' then sayLine "builtin".toList
      | .file p => if has os 't' then sayLine "file".toList else sayLine p
      | .nothing => status := 1
    else
      let s ← describe name
      if s ≠ 0 then status := s
  Run.setStatus status

/-- Say in a word what a command is. -/
def nameCommand (name : Octets) : Run Nat := do
  match ← meaningOf name with
  | .another t => sayLine ("alias ".toList ++ name ++ '=' :: listed t); return 0
  | .file p => sayLine p; return 0
  | .nothing => return if ← hasMore then 1 else 127
  | _ => sayLine name; return 0

/-- Ask what a command is. -/
def commandQuery : Builtin := fun _ args => do
  let (os, names) ← options "pvV" args
  match names with
  | [] => Run.setStatus 0
  | first :: _ =>
      let names := if ← hasMore then names else [first]
      let mut status := 0
      for name in names do
        let s ← if has os 'V' then describe name else nameCommand name
        if s ≠ 0 then status := s
      Run.setStatus status

/-- Remember where programs are. -/
def hash : Builtin := fun _ args => do
  let (os, names) ← options "r" args
  Run.setStatus 0
  if has os 'r' then Run.onShell fun s => { s with located := [] }
  else if names.isEmpty then
    (← Run.shell).located.forM fun (_, p) => sayLine p
  else
    for name in names do
      match ← Locate.file name with
      | .ok p =>
          Run.onShell fun s => { s with located := (name, p) :: s.located.filter (·.1 ≠ name) }
      | .error _ =>
          Run.warn (name ++ ": not found".toList)
          Run.setStatus 1

/-- The builtin with a name. -/
def find? (dialect : Dialect) (name : Octets) : Option Builtin :=
  if isBuiltin dialect name then
    match String.ofList name with
    | "command" => some commandQuery
    | "hash" => some hash
    | "type" => some typeOf
    | shown =>
        match if dialect = .bash then moreTable.lookup shown else none with
        | some b => some b
        | none => plainTable.lookup shown
  else none

end Builtin
end Shell
end AmbientBundle
