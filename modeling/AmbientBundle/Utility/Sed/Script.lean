import AmbientBundle.Octets
import AmbientBundle.Utility.Regex

/-!
# Scripts of the stream editor

A script is a row of steps.  A step has an action and says for which lines it is taken:
for a line, for lines that match, or for all lines from one to another.

Blocks are laid out flat: the step that opens a block knows where it ends, and labels
are places in the row.
-/

namespace AmbientBundle
namespace Utility
namespace Sed

/-- What a line is chosen by. -/
inductive Address where
  /-- Its number. -/
  | line (n : Nat)
  /-- A first number and every so many after it. -/
  | step (first by' : Nat)
  /-- It is the last one. -/
  | last
  /-- It matches; without an expression the last one that was used. -/
  | regex (r : Option (Regex × Bool))

/-- Where a range of lines ends. -/
inductive Until where
  /-- At a line that is chosen. -/
  | address (a : Address)
  /-- So many lines later. -/
  | plus (n : Nat)
  /-- At the next multiple. -/
  | multiple (n : Nat)

/-- The lines that a step is taken for. -/
structure Choice where
  /-- The first line, if not all are chosen. -/
  first : Option Address := none
  /-- The end of a range. -/
  upTo : Option Until := none
  /-- Whether the other lines are meant. -/
  negated : Bool := false

/-- A part of a replacement. -/
inductive Piece where
  /-- A text. -/
  | text (t : Text)
  /-- A group; zero stands for the whole match. -/
  | group (n : Nat)
  /-- A change of letters from here on. -/
  | letters (kind : Char)
  deriving Repr

/-- A replacement of matches. -/
structure Replacement where
  /-- What is replaced; without an expression the last one that was used. -/
  regex : Option (Regex × Bool)
  /-- What it is replaced by. -/
  pieces : List Piece
  /-- Whether all matches are replaced. -/
  all : Bool := false
  /-- The first match that is replaced. -/
  number : Nat := 1
  /-- Whether the line is written if something was replaced. -/
  prints : Bool := false
  /-- A file it is written to as well. -/
  file : Option Octets := none

/-- An action. -/
inductive Action where
  /-- Open a block that ends at a step. -/
  | block (stop : Nat)
  /-- A letter without arguments. -/
  | letter (c : Char)
  /-- A text for after the line, before it or in its place. -/
  | text (c : Char) (t : Octets)
  /-- Replace matches. -/
  | replace (r : Replacement)
  /-- Replace characters. -/
  | swap (table : List (Char × Char))
  /-- Go to a label, always or by what was replaced. -/
  | jump (c : Char) (label : Octets)
  /-- Stop with a status. -/
  | quit (c : Char) (status : Nat)
  /-- Read or write a file. -/
  | file (c : Char) (name : Octets)
  /-- Nothing. -/
  | nothing

/-- A step. -/
structure Step where
  /-- The lines it is taken for. -/
  choice : Choice
  /-- What is done. -/
  action : Action

/-- A script. -/
structure Script where
  /-- Its steps. -/
  steps : Array Step := #[]
  /-- Its labels and where they lead. -/
  labels : List (Octets × Nat) := []

/-! ## Reading -/

/-- Where reading stands. -/
structure Source where
  /-- What is left. -/
  rest : Octets
  /-- The script so far. -/
  script : Script := {}
  /-- The blocks that are open. -/
  opened : List Nat := []
  /-- Whether expressions are extended. -/
  extended : Bool := false

/-- Reading; a message says what is wrong, and whether it is about the end of the script. -/
abbrev Read := StateT Source (Except (String × Octets × Bool))

/-- Complain; what is left tells how far reading got. -/
def wrong {α : Type} (t : String) : Read α := do throw (t, (← get).rest, false)

/-- The next character. -/
def peek : Read (Option Char) := return (← get).rest.head?

/-- Go on. -/
def skip (n : Nat := 1) : Read Unit := modify fun s => { s with rest := s.rest.drop n }

/-- Skip what passes a test. -/
def skipWhile (p : Char → Bool) : Read Unit := modify fun s => { s with rest := s.rest.dropWhile p }

/-- A blank, but no line end. -/
def isBlank (c : Char) : Bool := c = ' ' || c = '\t'

/-- A blank or a line end. -/
def isSpace (c : Char) : Bool := isBlank c || c = '\n' || c = '\r'

/-- Digits. -/
def number? : Read (Option Nat) := do
  let ds := (← get).rest.takeWhile Char.isDigit
  skip ds.length
  return Octets.toNat? ds

/-- The length of a list in brackets, after its opening one. -/
def bracketLength (t : Octets) : Nat :=
  let start := match t with
    | '^' :: ']' :: _ => 2
    | ']' :: _ => 1
    | '^' :: _ => 1
    | _ => 0
  start + inside (t.drop start) t.length
where
  /-- Up to the closing bracket. -/
  inside (t : Octets) : Nat → Nat
    | 0 => 0
    | n + 1 =>
        match t with
        | [] => 0
        | ']' :: _ => 1
        | '[' :: c :: rest =>
            if c = ':' || c = '.' || c = '=' then
              let body := rest.takeWhile (· ≠ c)
              2 + body.length + 1 + inside (rest.drop (body.length + 1)) n
            else 1 + inside (c :: rest) n
        | _ :: rest => 1 + inside rest n

/-- A text up to a mark.  A backslash before the mark goes, and in an expression a backslash and
an `n` become a line end. -/
def upToMark (mark : Char) (regex : Bool) : Nat → Octets → Octets → Option (Octets × Octets)
  | 0, _, _ => none
  | n + 1, acc, t =>
      match t with
      | [] => none
      | '\\' :: c :: rest =>
          if c = mark then
            if !regex && c = '&' then upToMark mark regex n ('&' :: '\\' :: acc) rest
            else upToMark mark regex n (c :: acc) rest
          else if c = 'n' && regex then upToMark mark regex n ('\n' :: acc) rest
          else upToMark mark regex n (c :: '\\' :: acc) rest
      | c :: rest =>
          if c = mark then some (acc.reverse, rest)
          else if c = '\n' && regex then none
          else if c = '[' && regex then
            let k := bracketLength rest
            let body := (rest.take k).foldl (fun acc c => c :: acc) (c :: acc)
            upToMark mark regex n body (rest.drop k)
          else upToMark mark regex n (c :: acc) rest

/-- Escapes of an expression that stand for single characters. -/
def plainEscapes : Nat → Text → Text
  | 0, t => t
  | _, [] => []
  | n + 1, '\\' :: 't' :: rest => '\t' :: plainEscapes n rest
  | n + 1, '\\' :: 'f' :: rest => '\x0c' :: plainEscapes n rest
  | n + 1, '\\' :: 'v' :: rest => '\x0b' :: plainEscapes n rest
  | n + 1, '\\' :: 'a' :: rest => '\x07' :: plainEscapes n rest
  | n + 1, '\\' :: 'r' :: rest => '\r' :: plainEscapes n rest
  | n + 1, '\\' :: c :: rest => '\\' :: c :: plainEscapes n rest
  | n + 1, c :: rest => c :: plainEscapes n rest

/-- Read an expression from its text. -/
def regexOf (t : Octets) (fold : Bool) : Read (Option (Regex × Bool)) := do
  if t.isEmpty then return none
  else
    let text := Octets.toText t
    match Regex.parse (← get).extended (plainEscapes (text.length + 1) text) with
    | .ok r => return some (r, fold)
    | .error e => wrong e

/-- An address, if there is one. -/
def address? : Read (Option Address) := do
  match ← peek with
  | none => return none
  | some c =>
      if c.isDigit then
        let n := (← number?).getD 0
        skipWhile isBlank
        if (← peek) = some '~' then
          skip
          return some (.step n ((← number?).getD 0))
        else return some (.line n)
      else if c = '$' then skip; return some .last
      else if c = '/' || c = '\\' then
        skip
        let mark ←
          if c = '/' then pure '/'
          else do
            let d := (← peek).getD '/'
            skip
            pure d
        let s ← get
        match upToMark mark true (s.rest.length + 1) [] s.rest with
        | none =>
            modify fun s => { s with rest := [] }
            wrong "unterminated address regex"
        | some (t, rest) =>
            modify fun s => { s with rest }
            let fold := rest.head? = some 'I'
            if fold then skip
            return some (.regex (← regexOf t fold))
      else return none

/-- The lines that a step is taken for. -/
def choice : Read Choice := do
  let first ← address?
  match first with
  | none => bang {}
  | some a =>
      skipWhile isBlank
      if (← peek) = some ',' then
        skip
        skipWhile isBlank
        let sign := (← peek)
        if sign = some '+' || sign = some '~' then
          skip
          let n := (← number?).getD 0
          bang { first, upTo := some (if sign = some '+' then .plus n else .multiple n) }
        else
          match ← address? with
          | some b => bang { first := some a, upTo := some (.address b) }
          | none =>
              skip
              wrong "unexpected `,'"
      else bang { first := some a }
where
  /-- A sign that turns the choice around. -/
  bang (c : Choice) : Read Choice := do
    skipWhile isBlank
    if (← peek) = some '!' then
      skip
      skipWhile isBlank
      if (← peek) = some '!' then
        skip
        wrong "multiple `!'s"
      else return { c with negated := true }
    else return c

/-- The end of a step. -/
def stepEnd : Read Unit := do
  skipWhile isBlank
  match ← peek with
  | none => pure ()
  | some c =>
      if c = '\n' || c = ';' then skip
      else if c = '}' || c = '#' then pure ()
      else
        skip
        wrong "extra characters after command"

/-- The rest of a line. -/
def restOfLine : Read Octets := do
  let t := (← get).rest.takeWhile (· ≠ '\n')
  skip t.length
  return t

/-- The text of an action, up to a line end without a backslash. -/
def actionText : Nat → Octets → Octets → Octets × Octets
  | 0, acc, t => (acc.reverse, t)
  | _, acc, [] => (acc.reverse, [])
  | n + 1, acc, '\\' :: c :: rest => actionText n (c :: acc) rest
  | _, acc, ['\\'] => (acc.reverse, [])
  | n + 1, acc, c :: rest => if c = '\n' then (acc.reverse, rest) else actionText n (c :: acc) rest

/-- The text after a letter that has one. -/
def textFor (c : Char) : Read Action := do
  skipWhile isBlank
  match (← get).rest with
  | [] => wrong "expected \\ after `a', `c' or `i'"
  | '\\' :: more =>
      let after := more.dropWhile isBlank
      match after with
      | '\n' :: body => finish body
      | [] => wrong "expected \\ after `a', `c' or `i'"
      | _ => finish more
  | body => finish body
where
  /-- Take the text. -/
  finish (body : Octets) : Read Action := do
    let (t, rest) := actionText (body.length + 1) [] body
    modify fun s => { s with rest }
    return .text c (t ++ ['\n'])

/-- The parts of a replacement. -/
def piecesOf : Nat → Text → Text → List Piece
  | 0, _, _ => []
  | n + 1, acc, t =>
      let flush (more : List Piece) : List Piece :=
        if acc.isEmpty then more else .text acc.reverse :: more
      match t with
      | [] => flush []
      | '&' :: rest => flush (.group 0 :: piecesOf n [] rest)
      | '\\' :: c :: rest =>
          if c.isDigit then flush (.group (c.toNat - 48) :: piecesOf n [] rest)
          else if "LUluE".toList.contains c then flush (.letters c :: piecesOf n [] rest)
          else if c = 'n' then piecesOf n ('\n' :: acc) rest
          else if c = 't' then piecesOf n ('\t' :: acc) rest
          else if c = 'r' then piecesOf n ('\r' :: acc) rest
          else if c = 'f' then piecesOf n ('\x0c' :: acc) rest
          else if c = 'v' then piecesOf n ('\x0b' :: acc) rest
          else if c = 'a' then piecesOf n ('\x07' :: acc) rest
          else if c = 'x' then
            let isHex (c : Char) : Bool :=
              c.isDigit || ('a' ≤ c && c ≤ 'f') || ('A' ≤ c && c ≤ 'F')
            let ds := (rest.take 2).takeWhile isHex
            let value := ds.foldl (fun n c => n * 16 +
              (if c.isDigit then c.toNat - 48 else c.toLower.toNat - 87)) 0
            piecesOf n (Char.ofNat value :: acc) (rest.drop ds.length)
          else piecesOf n (c :: acc) rest
      | c :: rest => piecesOf n (c :: acc) rest

/-- The signs after a replacement. -/
structure ReplaceSigns where
  /-- All matches. -/
  all : Bool := false
  /-- Write the line. -/
  prints : Bool := false
  /-- The first match. -/
  number : Option Nat := none
  /-- Case does not matter. -/
  fold : Bool := false
  /-- A file. -/
  file : Option Octets := none

/-- Read the signs after a replacement. -/
def signsFrom : Nat → ReplaceSigns → Read ReplaceSigns
  | 0, s => return s
  | n + 1, s => do
      match ← peek with
      | none => return s
      | some c =>
          if c = 'g' then
            skip
            if s.all then wrong "multiple `g' options to `s' command"
            signsFrom n { s with all := true }
          else if c = 'p' then
            skip
            if s.prints then wrong "multiple `p' options to `s' command"
            signsFrom n { s with prints := true }
          else if c = 'i' || c = 'I' then skip; signsFrom n { s with fold := true }
          else if c = 'm' || c = 'M' || c = 'e' then skip; signsFrom n s
          else if c = 'w' then
            skip
            skipWhile isBlank
            return { s with file := some (← restOfLine) }
          else if c.isDigit then
            let k := (← number?).getD 0
            if s.number.isSome then wrong "multiple number options to `s' command"
            if k = 0 then wrong "number option to `s' command may not be zero"
            signsFrom n { s with number := some k }
          else if c = '\n' || c = ';' then skip; return s
          else if c = '}' || c = '#' then return s
          else if isBlank c then skip; signsFrom n s
          else
            skip
            wrong "unknown option to `s'"

/-- Two texts with a mark before, between and after them. -/
def twoTexts (c : Char) : Read (Octets × Octets) := do
  let unterminated : Read (Octets × Octets) := do
    modify fun s => { s with rest := [] }
    wrong ("unterminated `" ++ c.toString ++ "' command")
  match (← get).rest with
  | [] => unterminated
  | mark :: t =>
      match upToMark mark (c = 's') (t.length + 1) [] t with
      | none => unterminated
      | some (a, rest) =>
          match upToMark mark false (rest.length + 1) [] rest with
          | none => unterminated
          | some (b, rest) =>
              modify fun s => { s with rest }
              return (a, b)

/-- The greatest group of a replacement. -/
def greatestGroup (ps : List Piece) : Nat :=
  ps.foldl (fun m p => match p with
    | .group n => max m n
    | _ => m) 0

/-- A replacement. -/
def replacement : Read Action := do
  let (a, b) ← twoTexts 's'
  let signs ← signsFrom ((← get).rest.length + 1) {}
  let regex ← regexOf a signs.fold
  let text := Octets.toText b
  let pieces := piecesOf (text.length + 1) [] text
  let top := greatestGroup pieces
  match regex with
  | some (r, _) =>
      if top > r.groupCount then
        wrong ("invalid reference \\" ++ toString top ++ " on `s' command's RHS")
  | none => pure ()
  return .replace
    { regex, pieces, all := signs.all, number := signs.number.getD 1, prints := signs.prints
      file := signs.file }

/-- The characters of a list for replacing characters. -/
def swapChars : Text → Text
  | '\\' :: 'n' :: rest => '\n' :: swapChars rest
  | '\\' :: 't' :: rest => '\t' :: swapChars rest
  | '\\' :: '\\' :: rest => '\\' :: swapChars rest
  | c :: rest => c :: swapChars rest
  | [] => []

/-- The name of a label. -/
def label : Read Octets := do
  skipWhile isBlank
  let t := (← get).rest.takeWhile fun c => !isSpace c && c ≠ ';'
  skip t.length
  return t

/-- An action, after the choice of lines. -/
def action (c : Char) (hasAddress : Bool) : Read Action := do
  if c = 's' then replacement
  else if c = 'y' then
    let (a, b) ← twoTexts 'y'
    let (x, y) := (swapChars (Octets.toText a), swapChars (Octets.toText b))
    if x.length ≠ y.length then wrong "strings for `y' command are different lengths"
    stepEnd
    return .swap (x.zip y)
  else if c = 'a' || c = 'i' || c = 'c' then textFor c
  else if c = ':' then
    if hasAddress then wrong ": doesn't want any addresses"
    let name ← label
    if name.isEmpty then wrong "\":\" lacks a label"
    modify fun s =>
      { s with script :=
        { s.script with labels := (name, s.script.steps.size) :: s.script.labels } }
    return .nothing
  else if c = 'b' || c = 't' || c = 'T' then
    let name ← label
    stepEnd
    return .jump c name
  else if c = 'q' || c = 'Q' then
    skipWhile isBlank
    let n := (← number?).getD 0
    stepEnd
    return .quit c n
  else if c = 'r' || c = 'w' || c = 'R' || c = 'W' then
    skipWhile isBlank
    let name ← restOfLine
    if name.isEmpty then wrong "missing filename in r/R/w/W commands"
    return .file c name
  else if "dDgGhHnNpPxz=lF".toList.contains c then
    if c = 'l' then
      skipWhile isBlank
      let _ ← number?
    stepEnd
    return .letter c
  else wrong ("unknown command: `" ++ c.toString ++ "'")

/-- Read steps to the end. -/
def stepsFrom : Nat → Read Unit
  | 0 => pure ()
  | n + 1 => do
      skipWhile fun c => isSpace c || c = ';'
      match ← peek with
      | none => pure ()
      | some '#' =>
          let _ ← restOfLine
          stepsFrom n
      | some '}' =>
          skip
          match (← get).opened with
          | [] => wrong "unexpected `\x7d'"
          | at' :: opened =>
              modify fun s =>
                let stop := s.script.steps.size
                let steps := s.script.steps.modify at' fun st => { st with action := .block stop }
                { s with opened, script := { s.script with steps } }
              stepEnd
              stepsFrom n
      | some _ =>
          let ch ← choice
          skipWhile isBlank
          match ← peek with
          | none => wrong "missing command"
          | some '\n' =>
              skip
              wrong "missing command"
          | some '{' =>
              skip
              modify fun s =>
                { s with
                  opened := s.script.steps.size :: s.opened
                  script := { s.script with steps := s.script.steps.push ⟨ch, .block 0⟩ } }
              stepsFrom n
          | some c =>
              skip
              let act ← action c ch.first.isSome
              modify fun s =>
                { s with script := { s.script with steps := s.script.steps.push ⟨ch, act⟩ } }
              stepsFrom n

/-- Where in a script a complaint is about. -/
inductive Origin where
  /-- An argument, by its number. -/
  | expression (n : Nat)
  /-- A file. -/
  | file (name : Octets)

/-- The complaint about a script. -/
def complaint (o : Origin) (text rest : Octets) (t : String) : Octets :=
  let used := text.length - rest.length
  match o with
  | .expression n =>
      "-e expression #".toList ++ Octets.ofNat n ++ ", char ".toList ++ Octets.ofNat used ++
        ": ".toList ++ Octets.ofString t
  | .file name =>
      "file ".toList ++ name ++ " line ".toList ++
        Octets.ofNat ((text.take (used - 1)).count '\n' + 1) ++ ": ".toList ++ Octets.ofString t

/-- Read texts one after the other as a script. -/
def parseAll (extended : Bool) : List (Origin × Octets) → Script → List Nat → Except Octets Script
  | [], script, opened =>
      if opened.isEmpty then
        let labels := script.labels.map (·.1)
        let missing := script.steps.toList.filterMap fun s =>
          match s.action with
          | .jump _ l => if l.isEmpty || labels.contains l then none else some l
          | _ => none
        match missing with
        | l :: _ => .error ("can't find label for jump to `".toList ++ l ++ ['\''])
        | [] => .ok script
      else .error "-e expression #1, char 0: unmatched `\x7b'".toList
  | (o, text) :: rest, script, opened =>
      let source : Source := { rest := text, script, opened, extended }
      match (stepsFrom (text.length + 2)).run source with
      | .ok ((), after) => parseAll extended rest after.script after.opened
      | .error (t, left, _) => .error (complaint o text left t)

end Sed
end Utility
end AmbientBundle
