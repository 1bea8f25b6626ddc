import AmbientBundle.Shell.Builtin.Basic
import AmbientBundle.Shell.Format
import AmbientBundle.Utility.Test

/-!
# Builtins that write and test

`echo` replaces escapes, or does so only if it is told to.  `printf` writes its
arguments as a format says; its complaints come before its output.  `test` answers with
its status.
-/

namespace AmbientBundle
namespace Shell
namespace Builtin

/-- Write arguments. -/
def echo : Builtin := fun _ args => do
  Run.setStatus 0
  if ← hasMore then say (Format.echoText .more args)
  else
    let (ends, args) :=
      match args with
      | ['-', 'n'] :: rest => (false, rest)
      | _ => (true, args)
    let (t, stop) := Format.escapedLine .plain args
    say (t ++ if ends && !stop then ['\n'] else [])

/-- What `printf` says about arguments in the way with more forms. -/
def moreManner : Format.Manner :=
  { hex := true, sizes := true
    quotes := true
    quote := Expansion.backslashed
    noNumber := fun t => t ++ ": invalid number".toList
    halfNumber := fun t => t ++ ": invalid number".toList
    badDirective := fun t =>
      '`' :: t.drop (t.length - 1) ++ "': invalid format character".toList
    noLetter := fun t => '`' :: t ++ "': missing format character".toList }

/-- Write arguments as a format says. -/
def printf : Builtin := fun _ args => do
  let more ← hasMore
  let target :=
    match more, args with
    | true, ['-', 'v'] :: name :: rest => (some name, rest)
    | _, _ => (none, args)
  let (_, args) ← options "" target.2
  match args with
  | [] =>
      if more then Run.fault "usage: printf [-v var] format [arguments]".toList
      else Run.fault "usage: printf format [arg ...]".toList
  | format :: args =>
      let p := Format.run (if more then moreManner else {}) format args
      p.complaints.reverse.forM Run.warn
      Run.setStatus
        (if p.broken then (if more then 1 else 2) else if p.complaints.isEmpty then 0 else 1)
      match target.1 with
      | some name => Run.setVariable name p.text
      | none => say p.text

/-- What tests ask about files. -/
def filesOf : Run Utility.Test.Files := do
  let s ← Run.shell
  let tree := (← Run.machine).tree
  let stat (p : Octets) : Option (Spot × Entry) :=
    match tree.statText s.cwd (Octets.toText p) with
    | .ok r => some r
    | .error _ => none
  return {
    look := fun p => (stat p).map (·.2)
    same := fun a b =>
      match stat a, stat b with
      | some (x, _), some (y, _) => x = y
      | _, _ => false
    isSet := fun name => ((s.bindings.lookup name).bind Variable.text?).isSome }

/-- Answer a test. -/
def test : Builtin := fun _ args => do
  let s ← Run.shell
  let bracket := s.builtin = some ['[']
  let more := s.dialect = .bash
  let args ←
    if bracket then
      let closed := match args.getLast? with
        | some (']' :: rest) => !more || rest.isEmpty
        | _ => false
      if closed then pure args.dropLast
      else if more then Run.fault "missing `]'".toList
      else Run.fault "missing ]".toList
    else pure args
  let fs ← filesOf
  let result :=
    if more then
      (Utility.Test.byNumber fs (args.length + 2) args).mapError Utility.Test.Trouble.message
    else Utility.Test.fromLeft fs (args.length + 2) false args
  match result with
  | .ok r => Run.setStatus (if r then 0 else 1)
  | .error t => Run.fault t

end Builtin
end Shell
end AmbientBundle
