import AmbientBundle.Utf8
import AmbientBundle.Yaml.Scalar

/-!
# Token streams

Tokens are found as they are asked for.  A scalar, an alias, an anchor, a tag or an
opening bracket may turn out to be a key, which is known only when a colon follows
on the same line.  Until then the stream remembers it as a *candidate*, at most one
for each depth of brackets, and holds the tokens after it back.  When the colon
comes, a key token is put in front of the candidate.

`Stream.ready` reads on until the first token is settled, and `Stream.take` takes
it.  Since nothing is read before it is asked for, an error is found exactly when
the reading reaches it.
-/

namespace AmbientBundle
namespace Yaml

/-- A token that may turn out to be a key. -/
structure Candidate where
  /-- Its number among all tokens. -/
  number : Nat
  /-- Whether it has to be a key. -/
  required : Bool
  /-- Where it starts. -/
  mark : Mark
  deriving DecidableEq, Repr

/-- A text on the way to tokens. -/
structure Stream where
  /-- The characters that stand for halves of pairs. -/
  halves : Halves
  /-- What is still to be read. -/
  cursor : Cursor
  /-- A number of steps that is larger than the text is long. -/
  steps : Nat
  /-- Whether the end was reached. -/
  done : Bool := false
  /-- How many brackets are open. -/
  depth : Int := 0
  /-- The tokens that were found and not taken. -/
  tokens : List Token
  /-- How many tokens were taken. -/
  taken : Nat := 0
  /-- The column of the current block. -/
  indent : Int := -1
  /-- The columns of the blocks around it. -/
  indents : List Int := []
  /-- Whether a key may start here. -/
  keyAllowed : Bool := true
  /-- The candidates, each with its depth of brackets. -/
  candidates : List (Int × Candidate) := []

namespace Stream

/-- A text from its start. -/
def ofText (halves : Halves) (t : Text) : Stream :=
  { halves, cursor := { rest := t }, steps := t.length + 3, tokens := [⟨.streamStart, {}, {}⟩] }

/-- The place that was reached. -/
def mark (s : Stream) : Mark := s.cursor.mark

/-- Add a token. -/
def push (s : Stream) (lexeme : Lexeme) (start stop : Mark) : Stream :=
  { s with tokens := s.tokens ++ [⟨lexeme, start, stop⟩] }

/-- Add a token that is not written. -/
def pushHere (s : Stream) (lexeme : Lexeme) : Stream := s.push lexeme s.mark s.mark

/-- Add a token of some characters. -/
def pushChars (s : Stream) (lexeme : Lexeme) (length : Nat) : Stream :=
  let c := s.cursor.advance length
  { s.push lexeme s.mark c.mark with cursor := c }

/-! ## Candidates -/

/-- The error of a candidate that had to be a key. -/
def missingColon (s : Stream) (k : Candidate) : Error :=
  .form (some "while scanning a simple key") (some k.mark) "could not find expected ':'" s.mark

/-- Whether a candidate can no longer be a key: its line has ended or it is too long. -/
def isStale (s : Stream) (k : Candidate) : Bool :=
  k.mark.line ≠ s.mark.line || 1024 < s.mark.index - k.mark.index

/-- Forget the candidates that can no longer be keys. -/
def dropStale (s : Stream) : Except Error Stream :=
  match s.candidates.find? fun e => s.isStale e.2 && e.2.required with
  | some (_, k) => .error (s.missingColon k)
  | none => .ok { s with candidates := s.candidates.filter fun e => !s.isStale e.2 }

/-- The candidate at the current depth. -/
def candidate? (s : Stream) : Option Candidate := s.candidates.lookup s.depth

/-- Forget the candidate at the current depth, whatever it is. -/
def forget (s : Stream) : Stream :=
  { s with candidates := s.candidates.filter fun e => e.1 ≠ s.depth }

/-- Give up the candidate at the current depth. -/
def dropCandidate (s : Stream) : Except Error Stream :=
  match s.candidate? with
  | some k => if k.required then .error (s.missingColon k) else .ok s.forget
  | none => .ok s

/-- Remember the next token as a candidate, if a key may start here. -/
def saveCandidate (s : Stream) : Except Error Stream :=
  if s.keyAllowed then
    match s.dropCandidate with
    | .error e => .error e
    | .ok s =>
        let required := s.depth = 0 && s.indent = (s.cursor.column : Int)
        let k : Candidate := ⟨s.taken + s.tokens.length, required, s.mark⟩
        .ok { s with candidates := s.candidates ++ [(s.depth, k)] }
  else .ok s

/-- The least number of a candidate. -/
def firstCandidate? (s : Stream) : Option Nat := (s.candidates.map fun e => e.2.number).min?

/-! ## Blocks -/

/-- The columns that are closed by a column, and those that stay. -/
def unwindIndents (column : Int) : Int → List Int → Nat × Int × List Int
  | indent, [] => if column < indent then (1, -1, []) else (0, indent, [])
  | indent, outer :: rest =>
      if column < indent then
        let (n, i, is) := unwindIndents column outer rest
        (n + 1, i, is)
      else (0, indent, outer :: rest)

/-- Close the blocks that lie deeper than a column. -/
def unwind (s : Stream) (column : Int) : Stream :=
  if s.depth ≠ 0 then s
  else
    let (n, indent, indents) := unwindIndents column s.indent s.indents
    { s with
      indent, indents,
      tokens := s.tokens ++ List.replicate n ⟨.blockEnd, s.mark, s.mark⟩ }

/-- Open a block at a column, if it lies deeper than the current one. -/
def openBlock (s : Stream) (column : Nat) : Option Stream :=
  if s.indent < (column : Int) then
    some { s with indents := s.indent :: s.indents, indent := (column : Int) }
  else none

/-- Open a block here and add its start, outside brackets. -/
def startBlock (s : Stream) (lexeme : Lexeme) : Stream :=
  match s.openBlock s.cursor.column with
  | some t => t.pushHere lexeme
  | none => s

/-! ## Directives -/

/-- The context of an error in a directive. -/
def directiveError (opened : Mark) (problem : String) (c : Cursor) : Error :=
  .form (some "while scanning a directive") (some opened)
    (problem ++ ", but found " ++ Cursor.quoted c.peek) c.mark

/-- A name and the character after it, which has to qualify. -/
def scanName (context : String) (opened : Mark) (mayFollow : Char → Bool) (c : Cursor) :
    Except Error (Text × Cursor) :=
  let name := c.span isNameChar
  let after := c.advance name.length
  let problem (d : Char) : String :=
    "expected alphabetic or numeric character, but found " ++ Cursor.quoted d
  if name = [] then .error (.form (some context) (some opened) (problem c.peek) c.mark)
  else if mayFollow after.peek then .ok (name, after)
  else .error (.form (some context) (some opened) (problem after.peek) after.mark)

/-- A number in a directive, which may not have too many digits. -/
def scanNumber (opened : Mark) (c : Cursor) : Except Error (Nat × Cursor) :=
  match c.span Number.isDigit with
  | [] => .error (directiveError opened "expected a digit" c)
  | ds =>
      if Number.digitLimit < ds.length then .error (.misuse .range)
      else .ok (Number.ofDigits ds, c.advance ds.length)

/-- The version that a directive asks for. -/
def scanVersion (opened : Mark) (c : Cursor) : Except Error (Nat × Cursor) :=
  match scanNumber opened c.skipSpaces with
  | .error e => .error e
  | .ok (major, c) =>
      if c.peek ≠ '.' then .error (directiveError opened "expected a digit or '.'" c)
      else
        match scanNumber opened c.step with
        | .error e => .error e
        | .ok (_, c) =>
            if isGap c.peek then .ok (major, c)
            else .error (directiveError opened "expected a digit or ' '" c)

/-- A tag handle: `!`, `!!` or a name between two `!`. -/
def scanHandle (what : String) (opened : Mark) (c : Cursor) : Except Error (Text × Cursor) :=
  let missing (d : Cursor) : Error :=
    .form (some ("while scanning a " ++ what)) (some opened)
      ("expected '!', but found " ++ Cursor.quoted d.peek) d.mark
  if c.peek ≠ '!' then .error (missing c)
  else if c.peek 1 = ' ' then .ok (['!'], c.step)
  else
    let name := c.step.span isNameChar
    let after := c.step.advance name.length
    if after.peek = '!' then .ok ('!' :: name ++ ['!'], after.step) else .error (missing after)

/-- A character of a tag. -/
def isTagChar (c : Char) : Bool :=
  isNameChar c || "-;/?:@&=+$,_.!~*'()[]%".toList.contains c

/-- The bytes of escapes in a tag. -/
def scanEscapes (what : String) (opened : Mark) : Nat → Cursor → Except Error (Bytes × Cursor)
  | 0, c => .ok ([], c)
  | steps + 1, c =>
      if c.peek ≠ '%' then .ok ([], c)
      else
        let c := c.step
        let digits := (c.span Number.isHexDigit).take 2
        if digits.length < 2 then
          .error (.form (some ("while scanning a " ++ what)) (some opened)
            ("expected URI escape sequence of 2 hexadecimal numbers, but found " ++
              Cursor.quoted (c.peek digits.length)) c.mark)
        else
          match scanEscapes what opened steps (c.advance 2) with
          | .error e => .error e
          | .ok (bs, d) => .ok (UInt8.ofNat ((Number.readNat? 16 digits).getD 0) :: bs, d)

/-- The characters of a tag. -/
def scanTagText (what : String) (opened : Mark) : Nat → Cursor → Except Error (Text × Cursor)
  | 0, c => .ok ([], c)
  | steps + 1, c =>
      let front := c.span fun d => isTagChar d && d ≠ '%'
      let d := c.advance front.length
      if d.peek = '%' then
        match scanEscapes what opened (d.rest.length + 1) d with
        | .error e => .error e
        | .ok (bytes, after) =>
            match Utf8.decode bytes with
            | none =>
                .error (.form (some ("while scanning a " ++ what)) (some opened)
                  (Utf8.complaint bytes) d.mark)
            | some t =>
                match scanTagText what opened steps after with
                | .error e => .error e
                | .ok (more, after) => .ok (front ++ t ++ more, after)
      else .ok (front, d)

/-- A tag without its handle, of which there has to be something. -/
def scanUri (what : String) (opened : Mark) (c : Cursor) : Except Error (Text × Cursor) :=
  if isTagChar c.peek then scanTagText what opened (c.rest.length + 1) c
  else
    .error (.form (some ("while parsing a " ++ what)) (some opened)
      ("expected URI, but found " ++ Cursor.quoted c.peek) c.mark)

/-- The handle and the tag start of a directive. -/
def scanTagDirective (opened : Mark) (c : Cursor) : Except Error (Text × Text × Cursor) :=
  match scanHandle "directive" opened c.skipSpaces with
  | .error e => .error e
  | .ok (handle, c) =>
      if c.peek ≠ ' ' then .error (directiveError opened "expected ' '" c)
      else
        match scanUri "directive" opened c.skipSpaces with
        | .error e => .error e
        | .ok (start, c) =>
            if isGap c.peek then .ok (handle, start, c)
            else .error (directiveError opened "expected ' '" c)

/-- What a directive says, and the place after it. -/
def scanDirective (c : Cursor) : Except Error (Lexeme × Cursor) :=
  let opened := c.mark
  match scanName "while scanning a directive" opened isGap c.step with
  | .error e => .error e
  | .ok (name, c) =>
      if name = "YAML".toList then
        match scanVersion opened c with
        | .error e => .error e
        | .ok (major, c) => .ok (.version major, c)
      else if name = "TAG".toList then
        match scanTagDirective opened c with
        | .error e => .error e
        | .ok (handle, start, c) => .ok (.tagHandle handle start, c)
      else .ok (.directive, c.skipWhile (!isBreak ·))

/-! ## Tags and anchors -/

/-- Whether another `!` follows in the word at the front of a text. -/
def hasHandle (t : Text) : Bool := (t.takeWhile (!isGap ·)).contains '!'

/-- A tag. -/
def scanTag (c : Cursor) : Except Error (Lexeme × Cursor) :=
  let opened := c.mark
  let close (handle : Option Text) (suffix : Text) (c : Cursor) : Except Error (Lexeme × Cursor) :=
    if isGap c.peek then .ok (.tag handle suffix, c)
    else
      .error (.form (some "while scanning a tag") (some opened)
        ("expected ' ', but found " ++ Cursor.quoted c.peek) c.mark)
  if c.peek 1 = '<' then
    match scanUri "tag" opened (c.advance 2) with
    | .error e => .error e
    | .ok (suffix, c) =>
        if c.peek = '>' then close none suffix c.step
        else
          .error (.form (some "while parsing a tag") (some opened)
            ("expected '>', but found " ++ Cursor.quoted c.peek) c.mark)
  else if isBlankOrEnd (c.peek 1) then close none ['!'] c.step
  else
    let handled :=
      if hasHandle c.step.rest then scanHandle "tag" opened c else .ok (['!'], c.step)
    match handled with
    | .error e => .error e
    | .ok (handle, c) =>
        match scanUri "tag" opened c with
        | .error e => .error e
        | .ok (suffix, c) => close (some handle) suffix c

/-- What may follow the name of an anchor. -/
def endsAnchor (c : Char) : Bool := isBlankOrEnd c || "?:,]\x7d%@\x60".toList.contains c

/-- The name of an alias or an anchor. -/
def scanAnchor (what : String) (c : Cursor) : Except Error (Text × Cursor) :=
  scanName ("while scanning an " ++ what) c.mark endsAnchor c.step

/-! ## The next tokens -/

/-- The place of the next token, and whether a line ended on the way. -/
def skipToToken : Nat → Cursor → Bool × Cursor
  | 0, c => (false, c)
  | steps + 1, c =>
      let c := c.skipSpaces.skipComment
      if isBreak c.peek then (true, (skipToToken steps c.lineBreak.2).2) else (false, c)

/-- Go to the next token.  Outside brackets a key may start on a new line. -/
def approach (s : Stream) : Stream :=
  let c := if s.mark.index = 0 && s.cursor.peek = '\ufeff' then s.cursor.step else s.cursor
  let (broken, c) := skipToToken s.steps c
  { s with cursor := c, keyAllowed := s.keyAllowed || (broken && s.depth = 0) }

/-- End all blocks before a token that stands outside them. -/
def leaveBlocks (s : Stream) : Except Error Stream :=
  match (s.unwind (-1)).dropCandidate with
  | .error e => .error e
  | .ok s => .ok { s with keyAllowed := false }

/-- The end of the text. -/
def fetchEnd (s : Stream) : Except Error Stream :=
  match s.leaveBlocks with
  | .error e => .error e
  | .ok s => .ok { s.pushHere .streamEnd with candidates := [], done := true }

/-- A directive. -/
def fetchDirective (s : Stream) : Except Error Stream :=
  match s.leaveBlocks with
  | .error e => .error e
  | .ok s =>
      match scanDirective s.cursor with
      | .error e => .error e
      | .ok (lexeme, c) =>
          match Scalar.headerRest "while scanning a directive" s.mark c with
          | .error e => .error e
          | .ok after => .ok { s.push lexeme s.mark c.mark with cursor := after }

/-- The start or the end of a document. -/
def fetchDocument (s : Stream) (lexeme : Lexeme) : Except Error Stream :=
  match s.leaveBlocks with
  | .error e => .error e
  | .ok s => .ok (s.pushChars lexeme 3)

/-- An opening bracket. -/
def fetchOpening (s : Stream) (lexeme : Lexeme) : Except Error Stream :=
  match s.saveCandidate with
  | .error e => .error e
  | .ok s => .ok { s.pushChars lexeme 1 with depth := s.depth + 1, keyAllowed := true }

/-- A closing bracket. -/
def fetchClosing (s : Stream) (lexeme : Lexeme) : Except Error Stream :=
  match s.dropCandidate with
  | .error e => .error e
  | .ok s => .ok { s.pushChars lexeme 1 with depth := s.depth - 1, keyAllowed := false }

/-- A comma between brackets. -/
def fetchComma (s : Stream) : Except Error Stream :=
  match s.dropCandidate with
  | .error e => .error e
  | .ok s => .ok { s.pushChars .flowEntry 1 with keyAllowed := true }

/-- The error of a token that is not allowed outside brackets. -/
def notAllowed (s : Stream) (what : String) : Error :=
  .form none none (what ++ " are not allowed here") s.mark

/-- An entry of a sequence. -/
def fetchEntry (s : Stream) : Except Error Stream :=
  if s.depth = 0 && !s.keyAllowed then .error (s.notAllowed "sequence entries")
  else
    let s := if s.depth = 0 then s.startBlock .sequenceStart else s
    match s.dropCandidate with
    | .error e => .error e
    | .ok s => .ok { s.pushChars .blockEntry 1 with keyAllowed := true }

/-- A key that is marked as one. -/
def fetchKey (s : Stream) : Except Error Stream :=
  if s.depth = 0 && !s.keyAllowed then .error (s.notAllowed "mapping keys")
  else
    let s := if s.depth = 0 then s.startBlock .mappingStart else s
    match s.dropCandidate with
    | .error e => .error e
    | .ok s => .ok { s.pushChars .key 1 with keyAllowed := s.depth = 0 }

/-- Put a token in front of a candidate. -/
def insertAt (s : Stream) (k : Candidate) (lexeme : Lexeme) : Stream :=
  let i := k.number - s.taken
  { s with tokens := s.tokens.take i ++ ⟨lexeme, k.mark, k.mark⟩ :: s.tokens.drop i }

/-- A value: its key is the candidate, or else there is none. -/
def fetchValue (s : Stream) : Except Error Stream :=
  match s.candidate? with
  | some k =>
      let s := s.forget.insertAt k .key
      let s :=
        if s.depth = 0 then
          match s.openBlock k.mark.column with
          | some t => t.insertAt k .mappingStart
          | none => s
        else s
      .ok { s.pushChars .value 1 with keyAllowed := false }
  | none =>
      if s.depth = 0 && !s.keyAllowed then .error (s.notAllowed "mapping values")
      else
        let s := if s.depth = 0 then s.startBlock .mappingStart else s
        match s.dropCandidate with
        | .error e => .error e
        | .ok s => .ok { s.pushChars .value 1 with keyAllowed := s.depth = 0 }

/-- A token that may be a key and is read by a scanner. -/
def fetchWith (s : Stream) (scan : Cursor → Except Error (Lexeme × Cursor)) :
    Except Error Stream :=
  match s.saveCandidate with
  | .error e => .error e
  | .ok s =>
      match scan s.cursor with
      | .error e => .error e
      | .ok (lexeme, c) => .ok { s.push lexeme s.mark c.mark with cursor := c, keyAllowed := false }

/-- A block scalar. -/
def fetchBlock (s : Stream) (folded : Bool) : Except Error Stream :=
  match s.dropCandidate with
  | .error e => .error e
  | .ok s =>
      match Scalar.block folded s.indent s.cursor with
      | .error e => .error e
      | .ok (t, c) =>
          .ok { s.push (.scalar t false) s.mark c.mark with cursor := c, keyAllowed := true }

/-- A plain scalar. -/
def fetchPlain (s : Stream) : Except Error Stream :=
  match s.saveCandidate with
  | .error e => .error e
  | .ok s =>
      let p := Scalar.plain (s.depth ≠ 0) s.indent s.steps s.cursor
      .ok { s.push (.scalar p.text true) s.mark p.after.mark with
        cursor := p.after, keyAllowed := p.broken }

/-- Whether a plain scalar can start here. -/
def startsPlain (s : Stream) : Bool :=
  let d := s.cursor.peek
  !(isBlankOrEnd d || "-?:,[]\x7b\x7d#&*!|>'\"%@\x60".toList.contains d) ||
    (!isBlankOrEnd (s.cursor.peek 1) && (d = '-' || (s.depth = 0 && (d = '?' || d = ':'))))

/-- A scanner whose result is a lexeme of a text. -/
def scanned (scan : Cursor → Except Error (Text × Cursor)) (f : Text → Lexeme) (c : Cursor) :
    Except Error (Lexeme × Cursor) :=
  match scan c with
  | .error e => .error e
  | .ok (t, c) => .ok (f t, c)

/-- Find the next token, given its first character. -/
def fetchAt (s : Stream) : Except Error Stream :=
  let d := s.cursor.peek
  let next := s.cursor.peek 1
  let atMargin := s.cursor.column = 0
  let inFlow := s.depth ≠ 0
  if isEnd d then s.fetchEnd
  else if d = '%' && atMargin then s.fetchDirective
  else if d = '-' && atMargin && s.cursor.atSeparator then s.fetchDocument .documentStart
  else if d = '.' && atMargin && s.cursor.atSeparator then s.fetchDocument .documentEnd
  else if d = '[' then s.fetchOpening .flowSequenceStart
  else if d = '{' then s.fetchOpening .flowMappingStart
  else if d = ']' then s.fetchClosing .flowSequenceEnd
  else if d = '}' then s.fetchClosing .flowMappingEnd
  else if d = ',' then s.fetchComma
  else if d = '-' && isBlankOrEnd next then s.fetchEntry
  else if d = '?' && (inFlow || isBlankOrEnd next) then s.fetchKey
  else if d = ':' && (inFlow || isBlankOrEnd next) then s.fetchValue
  else if d = '*' then s.fetchWith (scanned (scanAnchor "alias") .again)
  else if d = '&' then s.fetchWith (scanned (scanAnchor "anchor") .anchor)
  else if d = '!' then s.fetchWith scanTag
  else if d = '|' && !inFlow then s.fetchBlock false
  else if d = '>' && !inFlow then s.fetchBlock true
  else if d = '\'' then s.fetchWith (scanned (Scalar.quoted s.halves false) (.scalar · false))
  else if d = '"' then s.fetchWith (scanned (Scalar.quoted s.halves true) (.scalar · false))
  else if s.startsPlain then s.fetchPlain
  else
    .error (.form (some "while scanning for the next token") none
      ("found character " ++ Cursor.quoted d ++ " that cannot start any token") s.mark)

/-- Find the next token. -/
def fetch (s : Stream) : Except Error Stream :=
  match s.approach.dropStale with
  | .error e => .error e
  | .ok s => (s.unwind (s.cursor.column : Int)).fetchAt

/-- Read on until the first token is settled. -/
def readyFrom : Nat → Stream → Except Error Stream
  | 0, s => .ok s
  | steps + 1, s =>
      if s.done then .ok s
      else if s.tokens = [] then
        match s.fetch with
        | .error e => .error e
        | .ok s => readyFrom steps s
      else
        match s.dropStale with
        | .error e => .error e
        | .ok s =>
            if s.firstCandidate? = some s.taken then
              match s.fetch with
              | .error e => .error e
              | .ok s => readyFrom steps s
            else .ok s

/-- The stream with its first token settled. -/
def ready (s : Stream) : Except Error Stream := readyFrom s.steps s

/-- The first token of a stream that is ready. -/
def head (s : Stream) : Token := s.tokens.headD ⟨.streamEnd, s.mark, s.mark⟩

/-- The stream without its first token. -/
def take (s : Stream) : Stream := { s with tokens := s.tokens.tail, taken := s.taken + 1 }

end Stream
end Yaml
end AmbientBundle
