import AmbientBundle.Shell.Process

/-!
# Builtins

A builtin is a command that the shell carries out itself.  It is given its arguments
and leaves a status.  The *special* ones end the shell with their faults, and settings
in front of them stay.

Options of builtins are letters after a hyphen.
-/

namespace AmbientBundle
namespace Shell

/-- A builtin. -/
abbrev Builtin := Runner → List Octets → Run Unit

namespace Builtin

/-- Whether the way with more forms is spoken. -/
def hasMore : Run Bool := return (← Run.shell).dialect = .bash

/-- Write output. -/
def say (t : Octets) : Run Unit := do
  if t.isEmpty then pure ()
  else if ← Run.write 1 t then pure ()
  else Run.onShell fun s => { s with lost := true }

/-- Write a line. -/
def sayLine (t : Octets) : Run Unit := say (t ++ ['\n'])

/-- The number that an argument is. -/
def number (t : Octets) : Run Nat := do
  match Octets.toNat? t with
  | some n => return n
  | none => Run.fault ("Illegal number: ".toList ++ t)

/-- The options among the letters of a word, and the arguments that are left. -/
def lettersOf (known : String) :
    Octets → List Octets → Run (List (Char × Octets) × List Octets)
  | [], args => return ([], args)
  | c :: cs, args => do
      let after := known.toList.dropWhile (· ≠ c)
      if c = ':' || after.isEmpty then
        if ← hasMore then Run.fault ('-' :: c :: ": invalid option".toList)
        else Run.fault ("Illegal option -".toList ++ [c])
      else if after.tail.head? = some ':' then
        match cs, args with
        | [], [] =>
            if ← hasMore then Run.fault ('-' :: c :: ": option requires an argument".toList)
            else Run.fault ("No arg for -".toList ++ c :: " option".toList)
        | [], a :: args => return ([(c, a)], args)
        | _, _ => return ([(c, cs)], args)
      else
        let (more, args) ← lettersOf known cs args
        return ((c, []) :: more, args)

/-- Take arguments apart into options and the others.  A letter with a colon has an argument. -/
def letters (known : String) : Nat → List Octets → Run (List (Char × Octets) × List Octets)
  | 0, args => return ([], args)
  | _, [] => return ([], [])
  | n + 1, a :: args => do
      match a with
      | ['-', '-'] => return ([], args)
      | '-' :: c :: cs =>
          let (here, args) ← lettersOf known (c :: cs) args
          let (more, args) ← letters known n args
          return (here ++ more, args)
      | _ => return ([], a :: args)

/-- Take arguments apart into options and the others. -/
def options (known : String) (args : List Octets) : Run (List (Char × Octets) × List Octets) :=
  letters known (args.length + 1) args

/-- Whether an option was given. -/
def has (os : List (Char × Octets)) (c : Char) : Bool := os.any (·.1 = c)

/-- The name and the value of a setting. -/
def cutSetting (t : Octets) : Octets × Option Octets :=
  let name := t.takeWhile (· ≠ '=')
  (name, if name.length < t.length then some (t.drop (name.length + 1)) else none)

/-- Stop unless a text is a name. -/
def checkName (t : Octets) : Run Unit := do
  if isName t then pure ()
  else if ← hasMore then
    Run.fault ('`' :: t ++ "': not a valid identifier".toList) 1
  else Run.fault (t ++ ": bad variable name".toList)

/-- A value in quotes, as it is listed: quotes of one kind stand in quotes of the other. -/
def listedFrom : Nat → Octets → Octets
  | 0, _ => []
  | _, [] => []
  | n + 1, t =>
      let plain := t.takeWhile (· ≠ '\'')
      let rest := t.drop plain.length
      let marks := rest.takeWhile (· = '\'')
      let after := rest.drop marks.length
      (if plain.isEmpty then [] else '\'' :: plain ++ ['\'']) ++
        (if marks.isEmpty then [] else '"' :: marks ++ ['"']) ++ listedFrom n after

/-- A value in quotes, as it is listed. -/
def listed (t : Octets) : Octets :=
  if t.isEmpty then ['\'', '\''] else listedFrom (t.length + 1) t

end Builtin
end Shell
end AmbientBundle
