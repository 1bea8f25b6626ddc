import AmbientBundle.Number.Reading
import AmbientBundle.Text.Half
import AmbientBundle.Yaml.Token

/-!
# Scalars

A scalar is written in one of five ways: plain, in single quotes, in double quotes,
as a literal block or as a folded block.  Inside quotes and in plain scalars a line
break reads as a space, and an empty line as a line break.

Each reader starts at the first character of the scalar and gives its text and the
place after it.  Loops take a number of steps that is larger than the text is long.
-/

namespace AmbientBundle
namespace Yaml
namespace Scalar

/-! ## Quoted scalars -/

/-- The character of a one-letter escape. -/
def escape? : Char → Option Char
  | '0' => some '\x00'
  | 'a' => some '\x07'
  | 'b' => some '\x08'
  | 't' => some '\t'
  | '\t' => some '\t'
  | 'n' => some '\n'
  | 'v' => some '\x0b'
  | 'f' => some '\x0c'
  | 'r' => some '\r'
  | 'e' => some '\x1b'
  | ' ' => some ' '
  | '"' => some '"'
  | '\\' => some '\\'
  | '/' => some '/'
  | 'N' => some '\u0085'
  | '_' => some '\u00a0'
  | 'L' => some '\u2028'
  | 'P' => some '\u2029'
  | _ => none

/-- The digits of an escape that gives a code. -/
def codeLength? : Char → Option Nat
  | 'x' => some 2
  | 'u' => some 4
  | 'U' => some 8
  | _ => none

/-- The largest number that can be a code at all. -/
def codeLimit : Nat := 0x7fffffff

/-- The character of a code, which may be half a pair. -/
def ofCode (halves : Halves) (n : Nat) : Except Error Char :=
  if codeLimit < n then .error (.misuse .size)
  else if 0x10ffff < n then .error (.misuse .range)
  else .ok (halves.char n)

/-- The character of a code written with a number of digits. -/
def code (halves : Halves) (opened : Mark) (length : Nat) (c : Cursor) :
    Except Error (Char × Cursor) :=
  let digits := (c.span Number.isHexDigit).take length
  if digits.length < length then
    .error (.form (some "while scanning a double-quoted scalar") (some opened)
      ("expected escape sequence of " ++ toString length ++ " hexadecimal numbers, but found " ++
        Cursor.quoted (c.peek digits.length)) c.mark)
  else
    match ofCode halves ((Number.readNat? 16 digits).getD 0) with
    | .error e => .error e
    | .ok d => .ok (d, c.advance length)

/-- The breaks of the lines that follow, with the blanks around them. -/
def quotedBreaks (opened : Mark) : Nat → Cursor → Except Error (Text × Cursor)
  | 0, c => .ok ([], c)
  | steps + 1, c =>
      if c.atSeparator then
        .error (.form (some "while scanning a quoted scalar") (some opened)
          "found unexpected document separator" c.mark)
      else
        let c := c.skipWhile fun d => d = ' ' || d = '\t'
        if isBreak c.peek then
          let (b, c) := c.lineBreak
          match quotedBreaks opened steps c with
          | .error e => .error e
          | .ok (bs, c) => .ok (b ++ bs, c)
        else .ok ([], c)

/-- A run of blanks inside quotes: kept within a line, folded at its end. -/
def quotedBlanks (opened : Mark) (steps : Nat) (c : Cursor) : Except Error (Text × Cursor) :=
  let blanks := c.span fun d => d = ' ' || d = '\t'
  let c := c.advance blanks.length
  if isEnd c.peek then
    .error (.form (some "while scanning a quoted scalar") (some opened)
      "found unexpected end of stream" c.mark)
  else if isBreak c.peek then
    let (b, c) := c.lineBreak
    match quotedBreaks opened steps c with
    | .error e => .error e
    | .ok (bs, c) =>
        if b ≠ ['\n'] then .ok (b ++ bs, c)
        else if bs = [] then .ok ([' '], c)
        else .ok (bs, c)
  else .ok (blanks, c)

/-- A character that is read as itself in both kinds of quotes. -/
def isOrdinary (c : Char) : Bool :=
  c ≠ '\'' && c ≠ '"' && c ≠ '\\' && !isBlankOrEnd c

/-- The text up to a blank or the closing quote. -/
def quotedWord (halves : Halves) (double : Bool) (opened : Mark) :
    Nat → Cursor → Except Error (Text × Cursor)
  | 0, c => .ok ([], c)
  | steps + 1, c =>
      let front := c.span isOrdinary
      let c := c.advance front.length
      let d := c.peek
      let go (piece : Text) (c : Cursor) : Except Error (Text × Cursor) :=
        match quotedWord halves double opened steps c with
        | .error e => .error e
        | .ok (more, c) => .ok (front ++ piece ++ more, c)
      if !double && d = '\'' && c.peek 1 = '\'' then go ['\''] (c.advance 2)
      else if (double && d = '\'') || (!double && (d = '"' || d = '\\')) then go [d] c.step
      else if double && d = '\\' then
        let c := c.step
        let d := c.peek
        match escape? d, codeLength? d with
        | some e, _ => go [e] c.step
        | none, some length =>
            match code halves opened length c.step with
            | .error e => .error e
            | .ok (e, c) => go [e] c
        | none, none =>
            if isBreak d then
              match quotedBreaks opened steps c.lineBreak.2 with
              | .error e => .error e
              | .ok (bs, c) => go bs c
            else
              .error (.form (some "while scanning a double-quoted scalar") (some opened)
                ("found unknown escape character " ++ Cursor.quoted d) c.mark)
      else .ok (front, c)

/-- The words and blanks up to the closing quote. -/
def quotedRest (halves : Halves) (double : Bool) (opened : Mark) :
    Nat → Cursor → Except Error (Text × Cursor)
  | 0, c => .ok ([], c)
  | steps + 1, c =>
      if c.peek = (if double then '"' else '\'') then .ok ([], c.step)
      else
        match quotedBlanks opened steps c with
        | .error e => .error e
        | .ok (blanks, c) =>
            match quotedWord halves double opened steps c with
            | .error e => .error e
            | .ok (word, c) =>
                match quotedRest halves double opened steps c with
                | .error e => .error e
                | .ok (more, c) => .ok (blanks ++ word ++ more, c)

/-- A scalar in quotes. -/
def quoted (halves : Halves) (double : Bool) (c : Cursor) : Except Error (Text × Cursor) :=
  let steps := c.rest.length + 2
  match quotedWord halves double c.mark steps c.step with
  | .error e => .error e
  | .ok (word, d) =>
      match quotedRest halves double c.mark steps d with
      | .error e => .error e
      | .ok (more, d) => .ok (word ++ more, d)

/-! ## Plain scalars -/

/-- Whether a plain scalar stops at a character, given the next one. -/
def stopsPlain (inFlow : Bool) (c next : Char) : Bool :=
  let flowMark (d : Char) : Bool := d = ',' || d = '[' || d = ']' || d = '{' || d = '}'
  isBlankOrEnd c || (c = ':' && (isBlankOrEnd next || (inFlow && flowMark next))) ||
    (inFlow && (flowMark c || c = '?'))

/-- The length of the plain word at the front of a text. -/
def plainWord (inFlow : Bool) : Text → Nat
  | [] => 0
  | c :: rest =>
      if stopsPlain inFlow c (rest.headD '\x00') then 0 else plainWord inFlow rest + 1

/-- The breaks and spaces after the first break; nothing if documents are separated there. -/
def plainBreaks : Nat → Cursor → Option Text × Cursor
  | 0, c => (some [], c)
  | steps + 1, c =>
      if c.peek = ' ' then plainBreaks steps c.step
      else if isBreak c.peek then
        let (b, c) := c.lineBreak
        if c.atSeparator then (none, c)
        else
          match plainBreaks steps c with
          | (some bs, c) => (some (b ++ bs), c)
          | (none, c) => (none, c)
      else (some [], c)

/-- What stands between two words of a plain scalar, and whether it holds a line break. -/
structure Between where
  /-- The text it reads as; nothing if the scalar ends here. -/
  text : Option Text
  /-- Whether a line ends in it. -/
  broken : Bool
  /-- The place after it. -/
  after : Cursor

/-- The spaces after a word of a plain scalar. -/
def plainSpaces (steps : Nat) (c : Cursor) : Between :=
  let spaces := c.span (· = ' ')
  let c := c.advance spaces.length
  if isBreak c.peek then
    let (b, c) := c.lineBreak
    if c.atSeparator then ⟨none, true, c⟩
    else
      match plainBreaks steps c with
      | (none, c) => ⟨none, true, c⟩
      | (some bs, c) =>
          if b ≠ ['\n'] then ⟨some (b ++ bs), true, c⟩
          else if bs = [] then ⟨some [' '], true, c⟩
          else ⟨some bs, true, c⟩
  else ⟨if spaces = [] then none else some spaces, false, c⟩

/-- A plain scalar as it was read. -/
structure Plain where
  /-- Its text. -/
  text : Text
  /-- Whether a line ended after its last word. -/
  broken : Bool
  /-- The place from which reading goes on. -/
  after : Cursor

/-- The words of a plain scalar, given what stands before the next one. -/
def plainFrom (inFlow : Bool) (indent : Int) : Nat → Text → Plain → Plain
  | 0, _, p => p
  | steps + 1, spaces, p =>
      let c := p.after
      let length := if c.peek = '#' then 0 else plainWord inFlow c.rest
      if length = 0 then p
      else
        let word := c.rest.take length
        let b := plainSpaces steps (c.advance length)
        let p' : Plain := ⟨p.text ++ spaces ++ word, b.broken, b.after⟩
        match b.text with
        | none => p'
        | some between =>
            if b.after.peek = '#' || (!inFlow && (b.after.column : Int) < indent) then p'
            else plainFrom inFlow indent steps between p'

/-- A plain scalar. -/
def plain (inFlow : Bool) (indent : Int) (steps : Nat) (c : Cursor) : Plain :=
  plainFrom inFlow (indent + 1) steps [] ⟨[], false, c⟩

/-! ## Block scalars -/

/-- What becomes of the line breaks at the end of a block. -/
inductive Chomp where
  /-- One is kept. -/
  | clip
  /-- None is kept. -/
  | strip
  /-- All are kept. -/
  | keep
  deriving DecidableEq, Repr

/-- The sign of a chomping at the front of a text. -/
def chomp? (c : Char) : Option Chomp :=
  if c = '+' then some .keep else if c = '-' then some .strip else none

/-- The depth given at the front of a text. -/
def depth? (opened : Mark) (c : Cursor) : Except Error (Option Nat × Cursor) :=
  if Number.isDigit c.peek then
    let n := (Number.digit? c.peek).getD 0
    if n = 0 then
      .error (.form (some "while scanning a block scalar") (some opened)
        "expected indentation indicator in the range 1-9, but found 0" c.mark)
    else .ok (some n, c.step)
  else .ok (none, c)

/-- The chomping and the depth given after the sign of a block. -/
def header (opened : Mark) (c : Cursor) : Except Error (Chomp × Option Nat × Cursor) :=
  let check (chomp : Chomp) (depth : Option Nat) (c : Cursor) :
      Except Error (Chomp × Option Nat × Cursor) :=
    if isGap c.peek then .ok (chomp, depth, c)
    else
      .error (.form (some "while scanning a block scalar") (some opened)
        ("expected chomping or indentation indicators, but found " ++ Cursor.quoted c.peek) c.mark)
  match chomp? c.peek with
  | some chomp =>
      match depth? opened c.step with
      | .error e => .error e
      | .ok (depth, c) => check chomp depth c
  | none =>
      match depth? opened c with
      | .error e => .error e
      | .ok (depth, c) =>
          match depth, chomp? c.peek with
          | some _, some chomp => check chomp depth c.step
          | _, _ => check .clip depth c

/-- The rest of the line of a header: a comment at most. -/
def headerRest (context : String) (opened : Mark) (c : Cursor) : Except Error Cursor :=
  let c := c.skipSpaces.skipComment
  if isBreakOrEnd c.peek then .ok c.lineBreak.2
  else
    .error (.form (some context) (some opened)
      ("expected a comment or a line break, but found " ++ Cursor.quoted c.peek) c.mark)

/-- The breaks before the first line of a block, and the depth of its deepest line. -/
def leading : Nat → Nat → Cursor → List Text × Nat × Cursor
  | 0, deepest, c => ([], deepest, c)
  | steps + 1, deepest, c =>
      if c.peek = ' ' then leading steps (max deepest c.step.column) c.step
      else if isBreak c.peek then
        let (bs, d, after) := leading steps deepest c.lineBreak.2
        (c.lineBreak.1 :: bs, d, after)
      else ([], deepest, c)

/-- The place after at most some spaces of indentation. -/
def indentTo (indent : Int) : Nat → Cursor → Cursor
  | 0, c => c
  | steps + 1, c =>
      if (c.column : Int) < indent && c.peek = ' ' then indentTo indent steps c.step else c

/-- The empty lines before the next line of a block. -/
def emptyLines (indent : Int) : Nat → Cursor → List Text × Cursor
  | 0, c => ([], c)
  | steps + 1, c =>
      let c := indentTo indent (c.rest.length) c
      if isBreak c.peek then
        let (bs, after) := emptyLines indent steps c.lineBreak.2
        (c.lineBreak.1 :: bs, after)
      else ([], c)

/-- A block as it was read: its lines, the last line break and the empty lines after it. -/
structure Lines where
  /-- The text of the lines. -/
  text : Text := []
  /-- The line break after the last line. -/
  last : Text := []
  /-- The empty lines after that. -/
  empty : List Text
  /-- The place after it. -/
  after : Cursor

/-- The lines of a block, given the empty lines before the next one. -/
def blockLines (folded : Bool) (indent : Int) : Nat → Lines → Lines
  | 0, ls => ls
  | steps + 1, ls =>
      let c := ls.after
      let hasLine (c : Cursor) : Bool := (c.column : Int) = indent && !isEnd c.peek
      let isInset (d : Char) : Bool := d = ' ' || d = '\t'
      if hasLine c then
        let flush := !isInset c.peek
        let line := c.span (!isBreak ·)
        let (b, c) := (c.advance line.length).lineBreak
        let (empty, c) := emptyLines indent (c.rest.length + 1) c
        let text := ls.text ++ ls.empty.flatten ++ line
        if hasLine c then
          let joint :=
            if folded && b = ['\n'] && flush && !isInset c.peek then
              if empty = [] then [' '] else []
            else b
          blockLines folded indent steps ⟨text ++ joint, b, empty, c⟩
        else ⟨text, b, empty, c⟩
      else ls

/-- A block scalar and the place after it. -/
def block (folded : Bool) (indent : Int) (c : Cursor) : Except Error (Text × Cursor) :=
  let opened := c.mark
  match header opened c.step with
  | .error e => .error e
  | .ok (chomp, depth, c) =>
      match headerRest "while scanning a block scalar" opened c with
      | .error e => .error e
      | .ok c =>
          let steps := c.rest.length + 1
          let least := max (indent + 1) 1
          let (first, depth) : Lines × Int :=
            match depth with
            | some n =>
                let depth := least + (n : Int) - 1
                let (bs, c) := emptyLines depth steps c
                ({ empty := bs, after := c }, depth)
            | none =>
                let (bs, deepest, c) := leading steps 0 c
                ({ empty := bs, after := c }, max least (deepest : Int))
          let ls := blockLines folded depth steps first
          let tail :=
            match chomp with
            | .strip => []
            | .clip => ls.last
            | .keep => ls.last ++ ls.empty.flatten
          .ok (ls.text ++ tail, ls.after)

end Scalar
end Yaml
end AmbientBundle
