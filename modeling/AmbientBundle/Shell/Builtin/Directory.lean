import AmbientBundle.Shell.Builtin.Basic

/-!
# Builtins about directories

The name of the directory that a shell is in is kept as it came about: `..` takes the
last part of it away, whatever that part is.
-/

namespace AmbientBundle
namespace Shell
namespace Builtin

/-- The parts of a path after each other, with `..` taking the last one away. -/
def tidyParts (acc : List Octets) : List Octets → List Octets
  | [] => acc
  | p :: rest =>
      if p.isEmpty || p = ['.'] then tidyParts acc rest
      else if p = ['.', '.'] then tidyParts acc.dropLast rest
      else tidyParts (acc ++ [p]) rest

/-- A path from the root, seen from a directory. -/
def tidyPath (pwd p : Octets) : Octets :=
  let start := if p.head? = some '/' then [] else tidyParts [] (Text.splitOn '/' pwd)
  '/' :: List.intercalate ['/'] (tidyParts start (Text.splitOn '/' p))

/-- Go to a directory by its name from the root; whether that was possible. -/
def goTo (path : Octets) : Run (Except Errno Unit) := do
  let s ← Run.shell
  match (← Run.machine).tree.statText s.cwd (Octets.toText path) with
  | .error e => return .error e
  | .ok (_, .file ..) => return .error .notDirectory
  | .ok (spot, .dir _) =>
      let old := s.pwd
      Run.onShell fun s => { s with cwd := spot, pwd := path }
      Run.setVariable "OLDPWD".toList old
      Run.setVariable "PWD".toList path
      return .ok ()

/-- Go to another directory. -/
def cd : Builtin := fun _ args => do
  let more ← hasMore
  let (_, rest) ← options (if more then "LPe@" else "LP") args
  let s ← Run.shell
  if more && rest.length > 1 then Run.fault "too many arguments".toList 1
  let back := rest.head? = some ['-']
  let home ← Run.valueOf? "HOME".toList
  let previous ← Run.valueOf? "OLDPWD".toList
  if more && rest.isEmpty && home.isNone then Run.fault "HOME not set".toList 1
  if more && back && previous.isNone then Run.fault "OLDPWD not set".toList 1
  let target :=
    match rest with
    | [] => home.getD []
    | t :: _ => if back then previous.getD [] else t
  let tree := (← Run.machine).tree
  let isDir (p : Octets) : Bool :=
    match tree.statText s.cwd (Octets.toText p) with
    | .ok (_, .dir _) => true
    | _ => false
  -- A relative path may start at other directories.
  let dotted := target.takeWhile (· ≠ '/')
  let direct := target.head? = some '/' || dotted = ['.'] || dotted = ['.', '.']
  let starts := if direct || target.isEmpty then [] else
    match (s.bindings.lookup "CDPATH".toList).bind Variable.text? with
    | some t => (Text.splitOn ':' t).filter (· ≠ [])
    | none => []
  let found := (starts.map fun d => (if d.getLast? = some '/' then d else d ++ ['/']) ++ target).find?
    isDir
  let path := tidyPath s.pwd (found.getD target)
  match ← goTo path with
  | .ok () =>
      Run.setStatus 0
      if back || found.isSome then sayLine path
  | .error e =>
      if more then Run.fault (target ++ ": ".toList ++ e.text.toList) 1
      else Run.fault ("can't cd to ".toList ++ target)

/-- Show the directory that the shell is in. -/
def pwd : Builtin := fun _ args => do
  let _ ← options "LP" args
  Run.setStatus 0
  sayLine (← Run.shell).pwd

end Builtin
end Shell
end AmbientBundle
