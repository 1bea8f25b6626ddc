import AmbientBundle.FileTree.Listing
import AmbientBundle.Octets
import AmbientBundle.Text.Printable

/-!
# The work of a utility

A utility is started with some words.  It reads its input and the file tree, changes
the tree, writes output and complaints, and ends with a status.  *Work* is a step of
this: what a utility has around it goes in, and comes out changed.

Complaints name the utility as it was called.  Names of files in them stand in quotes,
always or only where a shell would need quotes; other words stand in quotes that open
and close.

Options are letters after a hyphen or words after two.  A word may be cut short as long
as it is clear which one is meant.
-/

namespace AmbientBundle
namespace Utility

/-- What a utility has around it. -/
structure Desk where
  /-- The file tree. -/
  tree : Folder
  /-- The directory it works in. -/
  cwd : Spot
  /-- What is left of its input. -/
  input : Octets := []
  /-- Whether its input is a file, and where. -/
  inputFile : Option (List Text) := none
  /-- Whether its output goes to a file, and where. -/
  outputFile : Option (List Text) := none
  /-- Its environment. -/
  environment : List (Octets × Octets) := []
  /-- What it wrote, last part first, each with whether it is a complaint. -/
  written : List (Bool × Octets) := []
  /-- Its status. -/
  status : Nat := 0

/-- A step of a utility. -/
abbrev Work := StateM Desk

/-- A utility: what it does, given how it was called and its arguments. -/
abbrev Tool := Octets → List Octets → Work Unit

namespace Work

/-- Write output. -/
def write (t : Octets) : Work Unit :=
  modify fun d => if t.isEmpty then d else { d with written := (false, t) :: d.written }

/-- Write a line. -/
def writeLine (t : Octets) : Work Unit := write (t ++ ['\n'])

/-- Write a complaint as it stands. -/
def rawComplaint (t : Octets) : Work Unit :=
  modify fun d => { d with written := (true, t) :: d.written }

/-- Complain. -/
def complain (name t : Octets) : Work Unit :=
  rawComplaint (name ++ ':' :: ' ' :: t ++ ['\n'])

/-- End with a status other than success. -/
def fail (status : Nat := 1) : Work Unit := modify fun d => { d with status }

/-- Complain and fail. -/
def refuse (name t : Octets) (status : Nat := 1) : Work Unit := do
  complain name t
  fail status

/-- Take all of the input. -/
def takeInput : Work Octets := modifyGet fun d => (d.input, { d with input := [] })

/-- Change the tree if that is possible. -/
def change (f : Folder → Spot → Except Errno Folder) : Work (Except Errno Unit) := do
  let d ← get
  match f d.tree d.cwd with
  | .ok tree => set { d with tree }; return .ok ()
  | .error e => return .error e

/-- What is at a path.  A slash at the end asks for a directory. -/
def stat (p : Octets) : Work (Except Errno (Spot × Entry)) := do
  let d ← get
  return d.tree.statText d.cwd (Octets.toText p)

/-- The content of a file, or of the input for a hyphen. -/
def read (p : Octets) : Work (Except Errno Octets) := do
  if p = ['-'] || p = "/dev/stdin".toList then
    let d ← get
    match d.inputFile.bind d.tree.get? with
    | some (.dir _) => return .error .isDirectory
    | _ => return .ok (← takeInput)
  else
    match ← stat p with
    | .error e => return .error e
    | .ok (_, .dir _) => return .error .isDirectory
    | .ok (_, .file c _) => return .ok (Octets.ofBytes c)

/-- Write a file. -/
def save (p : Octets) (content : Octets) : Work (Except Errno Unit) :=
  change fun tree cwd =>
    match tree.filePlace cwd (Octets.toText p) with
    | .error e => .error e
    | .ok place =>
        match tree.get? place with
        | some (.file _ mode) => .ok (tree.put place (.file (mode.kept (Octets.toBytes content)) mode))
        | _ => .ok (tree.put place (.file (Octets.toBytes content)))

end Work

/-! ## Quotes -/

/-- A reason in words. -/
def reason (e : Errno) : Octets := e.text.toList

/-- Whether a byte is shown as it is between quotes. -/
def isShown (c : Char) : Bool := c.toNat ≥ 32 && c.toNat ≠ 127

/-- A byte that is not shown as it is, in quotes. -/
def escapedByte (c : Char) : Octets :=
  match c with
  | '\n' => ['\\', 'n']
  | '\t' => ['\\', 't']
  | '\r' => ['\\', 'r']
  | '\x07' => ['\\', 'a']
  | '\x08' => ['\\', 'b']
  | '\x0b' => ['\\', 'v']
  | '\x0c' => ['\\', 'f']
  | _ =>
      let ds := Nat.toDigits 8 c.toNat
      '\\' :: List.replicate (3 - ds.length) '0' ++ ds

/-- The inside of single quotes.  Bytes that are not shown leave the quotes. -/
def singleInside (special : Bool) : Octets → Octets
  | [] => if special then ['\'', '\''] else []
  | c :: rest =>
      if isShown c then
        let body := if c = '\'' then "'\\''".toList else [c]
        (if special then ['\'', '\''] else []) ++ body ++ singleInside false rest
      else (if special then [] else "'$'".toList) ++ escapedByte c ++ singleInside true rest

/-- A name in quotes. -/
def quoted (t : Octets) : Octets :=
  let risky (c : Char) : Bool := c = '"' || c = '$' || c = '`' || c = '\\' || !isShown c
  if t.contains '\'' && !t.any risky then '"' :: t ++ ['"']
  else
    '\'' :: singleInside false t ++ ['\'']

/-- Whether a shell would need quotes around a name. -/
def needsQuotes (t : Octets) : Bool :=
  t.isEmpty || t.any (fun c => " \t\n\"'$&()*;<=>?[^`|\\!:".toList.contains c || !isShown c) ||
    t.head? = some '#' || t.head? = some '~'

/-- A name, in quotes if a shell would need them. -/
def shown (t : Octets) : Octets := if needsQuotes t then quoted t else t

/-- A word in quotes that open and close. -/
def curled (t : Octets) : Octets :=
  let inside := t.flatMap fun c =>
    if c = '\\' then ['\\', '\\'] else if isShown c then [c] else escapedByte c
  Octets.ofString "‘" ++ inside ++ Octets.ofString "’"

/-! ## Options -/

/-- Whether an option has an argument. -/
inductive Has where
  /-- It has none. -/
  | none
  /-- It has one. -/
  | one
  /-- It may have one. -/
  | maybe
  deriving DecidableEq, Repr

/-- The options of a utility. -/
structure Options where
  /-- The letters. -/
  letters : List (Char × Has) := []
  /-- The words, with the letter each stands for. -/
  words : List (String × Char × Has) := []
  /-- Whether options end at the first argument that is none. -/
  strict : Bool := false

/-- An option that was given, with its argument. -/
abbrev GivenOption := Char × Octets

/-- The words that a word can be short for. -/
def Options.candidates (o : Options) (name : Octets) : List (String × Char × Has) :=
  match o.words.find? fun w => w.1.toList = name with
  | some w => [w]
  | none => o.words.filter fun w => Text.startsWith w.1.toList name

/-- The options among the letters of an argument; the next argument may belong to the last. -/
def Options.lettersOf (o : Options) :
    Octets → List Octets → Except Octets (List GivenOption × List Octets)
  | [], rest => .ok ([], rest)
  | c :: cs, rest =>
      match o.letters.lookup c with
      | none => .error ("invalid option -- '".toList ++ [c, '\''])
      | some .none => do
          let (more, rest) ← o.lettersOf cs rest
          .ok ((c, []) :: more, rest)
      | some .maybe => .ok ([(c, cs)], rest)
      | some .one =>
          match cs, rest with
          | [], [] => .error ("option requires an argument -- '".toList ++ [c, '\''])
          | [], a :: rest => .ok ([(c, a)], rest)
          | _, _ => .ok ([(c, cs)], rest)

/-- The option of a word; the next argument may belong to it. -/
def Options.wordOf (o : Options) (t : Octets) (rest : List Octets) :
    Except Octets (GivenOption × List Octets) :=
  let name := t.takeWhile (· ≠ '=')
  let value := if t.contains '=' then some (t.drop (name.length + 1)) else none
  let dashed (w : Octets) : Octets := "'--".toList ++ w ++ ['\'']
  match o.candidates name with
  | [] => .error ("unrecognized option ".toList ++ dashed (if value.isSome then t else name))
  | first :: others =>
      if !others.all fun w => w.2 = first.2 then
        let all := (first :: others).flatMap fun w => ' ' :: dashed w.1.toList
        .error ("option ".toList ++ dashed t ++ " is ambiguous; possibilities:".toList ++ all)
      else
        let (word, c, has) := first
        match has, value, rest with
        | .none, some _, _ =>
            .error ("option ".toList ++ dashed word.toList ++
              " doesn't allow an argument".toList)
        | .none, none, _ => .ok ((c, []), rest)
        | .maybe, v, _ => .ok ((c, v.getD []), rest)
        | .one, some v, _ => .ok ((c, v), rest)
        | .one, none, a :: rest => .ok ((c, a), rest)
        | .one, none, [] =>
            .error ("option ".toList ++ dashed word.toList ++ " requires an argument".toList)

/-- Take arguments apart into options and the others. -/
def Options.parseFrom (o : Options) :
    Nat → List Octets → Except Octets (List GivenOption × List Octets)
  | 0, args => .ok ([], args)
  | _, [] => .ok ([], [])
  | n + 1, a :: rest =>
      match a with
      | ['-', '-'] => .ok ([], rest)
      | '-' :: '-' :: t => do
          let (g, rest) ← o.wordOf t rest
          let (more, ops) ← o.parseFrom n rest
          .ok (g :: more, ops)
      | '-' :: c :: cs => do
          let (gs, rest) ← o.lettersOf (c :: cs) rest
          let (more, ops) ← o.parseFrom n rest
          .ok (gs ++ more, ops)
      | _ =>
          if o.strict then .ok ([], a :: rest)
          else do
            let (gs, ops) ← o.parseFrom n rest
            .ok (gs, a :: ops)

/-- Take arguments apart into options and the others. -/
def Options.parse (o : Options) (args : List Octets) :
    Except Octets (List GivenOption × List Octets) :=
  o.parseFrom (args.length + 1) args

/-- Options that are letters without arguments, or with one after a colon. -/
def lettersFrom : List Char → List (Char × Has)
  | c :: ':' :: ':' :: rest => (c, .maybe) :: lettersFrom rest
  | c :: ':' :: rest => (c, .one) :: lettersFrom rest
  | c :: rest => (c, .none) :: lettersFrom rest
  | [] => []

/-- Options with some letters and words. -/
def Options.of (letters : String) (words : List (String × Char × Has) := []) : Options :=
  { letters := lettersFrom letters.toList, words }

/-- Point to the help of a utility. -/
def pointToHelp (name : Octets) : Work Unit :=
  Work.rawComplaint ("Try '".toList ++ name ++ " --help' for more information.\n".toList)

/-- Complain about the way a utility was called. -/
def misused (name t : Octets) (status : Nat := 1) : Work Unit := do
  Work.complain name t
  pointToHelp name
  Work.fail status

/-- Take arguments apart and go on, or complain. -/
def Options.handle (o : Options) (name : Octets) (args : List Octets)
    (go : List GivenOption → List Octets → Work Unit) (status : Nat := 1) : Work Unit :=
  match o.parse args with
  | .error t => misused name t status
  | .ok (gs, ops) => go gs ops

/-- Whether an option was given. -/
def given (gs : List GivenOption) (c : Char) : Bool := gs.any (·.1 = c)

/-- Whether one of some options was given. -/
def givenAny (gs : List GivenOption) (cs : String) : Bool := gs.any fun g => cs.toList.contains g.1

/-- The last argument of an option. -/
def argumentOf? (gs : List GivenOption) (c : Char) : Option Octets :=
  (gs.reverse.find? (·.1 = c)).map (·.2)

/-- The last of some options that was given. -/
def lastOf? (gs : List GivenOption) (cs : String) : Option Char :=
  (gs.reverse.find? fun g => cs.toList.contains g.1).map (·.1)

/-- The last name of a path, as a utility takes it: without slashes at its end. -/
def lastName (p : Octets) : Octets :=
  let body := (p.reverse.dropWhile (· = '/'))
  if body.isEmpty then (if p.isEmpty then [] else ['/'])
  else (body.takeWhile (· ≠ '/')).reverse

/-- A name in a directory. -/
def inDirectory (dir name : Octets) : Octets :=
  if dir.getLast? = some '/' then dir ++ name else dir ++ '/' :: name

/-- A path without slashes at its end. -/
def withoutSlashes (p : Octets) : Octets :=
  let body := (p.reverse.dropWhile (· = '/')).reverse
  if body.isEmpty then p.take 1 else body

end Utility
end AmbientBundle
