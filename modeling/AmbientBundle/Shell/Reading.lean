import AmbientBundle.Shell.Source

/-!
# Reading commands

Words are read character by character, commands token by token.  A word can hold
commands and a command holds words, so both are read with the help of *inner* readers,
one for a sequence of commands and one for a single command, that may go one level
less deep.  `inner` ties the knot: its number is how deep commands may lie in one
another.

A sequence is read in one of three ways: up to the end of a line, as the body of a
command, or as a body that may be empty.
-/

namespace AmbientBundle
namespace Shell

/-- How a sequence of commands is read. -/
inductive Stretch where
  /-- Up to the end of a line. -/
  | line
  /-- A body with at least one command. -/
  | body
  /-- A body that may be empty. -/
  | loose
  deriving DecidableEq, Repr

/-- Readers for what lies deeper. -/
structure Inner where
  /-- Read a sequence of commands. -/
  list : Stretch → Reading Command
  /-- Read a command. -/
  command : Reading Command

/-- What ends the parts that are read. -/
inductive Until where
  /-- What cannot stand in a word. -/
  | word
  /-- A double quote. -/
  | quote
  /-- A closing brace. -/
  | brace
  /-- Two closing parentheses, with some others open before them. -/
  | parens (opened : Nat)
  /-- The end of a document. -/
  | document
  /-- One of some characters outside of quotes, or a closing brace. -/
  | mark (cs : List Char)
  deriving DecidableEq, Repr

/-- How parts are read. -/
structure Scope where
  /-- What ends them. -/
  stop : Until
  /-- Whether they stand in quotes. -/
  quoted : Bool := false
  /-- Whether dollar signs and backquotes stand for themselves. -/
  bare : Bool := false
  /-- Whether a document is read. -/
  inDocument : Bool := false
  /-- The line they start on. -/
  since : Nat := 0
  deriving DecidableEq, Repr

/-! ## Small pieces -/

/-- What ends a word outside of quotes. -/
def endsWord (c : Char) : Bool :=
  c = ' ' || c = '\t' || c = '\n' || c = ';' || c = '&' || c = '|' || c = '<' || c = '>' ||
    c = '(' || c = ')'

/-- The parameters that have a sign for a name. -/
def isSpecial (c : Char) : Bool := c.isDigit || "#?$!-*@".toList.contains c

/-- What is said of quotes that are not closed. -/
def openQuotes : String := "Unterminated quoted string"

/-- Characters up to a single quote, after one on a line. -/
def inSingle (since : Nat) : Nat → Octets → Reading Octets
  | 0, acc => return acc.reverse
  | n + 1, acc => do
      match ← Reading.lookRaw with
      | none => throw (.unclosed '\'' since openQuotes)
      | some c =>
          Reading.skip
          if c = '\'' then return acc.reverse else inSingle since n (c :: acc)

/-- The value of some digits in a base. -/
def digitsValue (base : Nat) (t : Octets) : Nat :=
  t.foldl
    (fun n c =>
      let d :=
        if c.isDigit then c.toNat - 48
        else if 'a' ≤ c ∧ c ≤ 'f' then c.toNat - 87
        else if 'A' ≤ c ∧ c ≤ 'F' then c.toNat - 55
        else 0
      n * base + d)
    0

/-- Whether a character is an octal digit. -/
def isOctal (c : Char) : Bool := '0' ≤ c && c ≤ '7'

/-- Whether a character is a hexadecimal digit. -/
def isHex (c : Char) : Bool := c.isDigit || ('a' ≤ c && c ≤ 'f') || ('A' ≤ c && c ≤ 'F')

/-- The character of an escape in `$'…'`, and what follows it. -/
def dollarEscape : Octets → Octets × Octets
  | 'n' :: r => (['\n'], r)
  | 't' :: r => (['\t'], r)
  | 'r' :: r => (['\r'], r)
  | 'a' :: r => (['\x07'], r)
  | 'b' :: r => (['\x08'], r)
  | 'e' :: r => (['\x1b'], r)
  | 'E' :: r => (['\x1b'], r)
  | 'f' :: r => (['\x0c'], r)
  | 'v' :: r => (['\x0b'], r)
  | 'x' :: r =>
      let ds := (r.take 2).takeWhile isHex
      if ds = [] then (['\\', 'x'], r)
      else ([Char.ofNat (digitsValue 16 ds)], r.drop ds.length)
  | 'u' :: r =>
      let ds := (r.take 4).takeWhile isHex
      (Octets.ofText [Char.ofNat (digitsValue 16 ds)], r.drop ds.length)
  | c :: r =>
      if isOctal c then
        let ds := ((c :: r).take 3).takeWhile isOctal
        ([Char.ofNat (digitsValue 8 ds % 256)], (c :: r).drop ds.length)
      else if c = '\\' ∨ c = '\'' ∨ c = '"' ∨ c = '?' then ([c], r)
      else (['\\', c], r)
  | [] => (['\\'], [])

/-- The characters of `$'…'`, after its opening quote. -/
def inDollarSingle (since : Nat) : Nat → Octets → Reading Octets
  | 0, acc => return acc.reverse
  | n + 1, acc => do
      match ← Reading.lookRaw with
      | none => throw (.unclosed '\'' since openQuotes)
      | some '\'' => Reading.skip; return acc.reverse
      | some '\\' =>
          Reading.skip
          let before := (← get).rest
          let (cs, after) := dollarEscape before
          Reading.skipMany (before.length - after.length)
          inDollarSingle since n (cs.reverse ++ acc)
      | some c => Reading.skip; inDollarSingle since n (c :: acc)

/-- The text between backquotes.  A backslash keeps its meaning before few characters. -/
def inBackquotes (since : Nat) (quoted : Bool) : Nat → Octets → Reading Octets
  | 0, acc => return acc.reverse
  | n + 1, acc => do
      match ← Reading.look with
      | none => throw (.unclosed '`' since "EOF in backquote substitution")
      | some '`' => Reading.skip; return acc.reverse
      | some '\\' =>
          Reading.skip
          match ← Reading.lookRaw with
          | none => inBackquotes since quoted n ('\\' :: acc)
          | some c =>
              Reading.skip
              let kept := c = '\\' || c = '`' || c = '$' || (quoted && c = '"')
              inBackquotes since quoted n (if kept then c :: acc else c :: '\\' :: acc)
      | some c => Reading.skip; inBackquotes since quoted n (c :: acc)

/-- Read another text that starts on some line in the same way, and keep only the documents of
it. -/
def aside {α : Type} (t : Octets) (line : Nat) (act : Reading α) : Reading α := do
  let s ← get
  set { s with rest := t, line, back := none, waiting := [], replaced := [] }
  let a ← act
  modify fun r => { s with documents := r.documents, next := r.next }
  return a

/-! ## Parameters -/

/-- The name of a parameter after `${`. -/
def parameterName : Reading Octets := do
  let n ← Reading.bound
  match ← Reading.look with
  | none => return []
  | some c =>
      if isNameStart c then Reading.takeWhile isNameChar n
      else if c.isDigit then Reading.takeWhile Char.isDigit n
      else if isSpecial c then Reading.skip; return [c]
      else return []

/-- A reader of parts. -/
abbrev PartsReader := Scope → Reading Word

/-- What is made of a parameter, after its name and up to the closing brace. -/
def parameterUse (parts : PartsReader) (quoted : Bool) : Reading Use := do
  let inBrace : Scope := { stop := .brace, quoted }
  let unquoted : Scope := { stop := .brace }
  let more ← Reading.hasMore
  match ← Reading.look with
  | none => return .bad
  | some c =>
      if c = '}' then Reading.skip; return .plain
      else if c = ':' then
        Reading.skip
        match ← Reading.look with
        | some '-' => Reading.skip; return .orElse true (← parts inBrace)
        | some '=' => Reading.skip; return .orSet true (← parts inBrace)
        | some '?' => Reading.skip; return .orFail true (← parts inBrace)
        | some '+' => Reading.skip; return .instead true (← parts inBrace)
        | _ =>
            if more then
              let start ← parts { stop := .mark [':'], quoted := true }
              if ← Reading.accept ':' then return .slice start (some (← parts inBrace))
              else
                let _ ← Reading.accept '}'
                return .slice start none
            else
              Reading.pass
              let _ ← parts inBrace
              return .bad
      else if c = '-' then Reading.skip; return .orElse false (← parts inBrace)
      else if c = '=' then Reading.skip; return .orSet false (← parts inBrace)
      else if c = '?' then Reading.skip; return .orFail false (← parts inBrace)
      else if c = '+' then Reading.skip; return .instead false (← parts inBrace)
      else if c = '#' then
        Reading.skip
        let longest ← Reading.accept '#'
        return .cut true longest (← parts unquoted)
      else if c = '%' then
        Reading.skip
        let longest ← Reading.accept '%'
        return .cut false longest (← parts unquoted)
      else if more && c = '/' then
        Reading.skip
        let which ←
          (do
            if ← Reading.accept '/' then return '/'
            else if ← Reading.accept '#' then return '#'
            else if ← Reading.accept '%' then return '%'
            else return ' ')
        let pattern ← parts { stop := .mark ['/'] }
        if ← Reading.accept '/' then return .swap which pattern (← parts unquoted)
        else
          let _ ← Reading.accept '}'
          return .swap which pattern []
      else if more && (c = '^' || c = ',') then
        Reading.skip
        let all ← Reading.accept c
        let _ ← parts unquoted
        return .letters (c = '^') all
      else if more && c = '@' then
        Reading.skip
        let _ ← parts unquoted
        return .requoted
      else
        unless more do Reading.pass
        let _ ← parts inBrace
        return .bad

/-- The index in brackets after the name of an array. -/
def arrayIndex (parts : PartsReader) : Reading (Option Word) := do
  if (← Reading.hasMore) && (← get).rest.head? = some '[' then
    Reading.skip
    let w ← parts { stop := .mark [']'], quoted := true }
    let _ ← Reading.accept ']'
    return some w
  else return none

/-- A parameter after `${`. -/
def braced (parts : PartsReader) (quoted : Bool) : Reading Part := do
  let more ← Reading.hasMore
  let rest := (← get).joined.rest
  match rest with
  | '#' :: c :: after =>
      let lengthOf := c = '_' || c.isAlphanum || (isSpecial c && after.head? = some '}')
      if lengthOf then
        Reading.skip
        let name ← parameterName
        let index ← arrayIndex parts
        if ← Reading.accept '}' then return .value name index .length quoted
        else
          let _ ← parts { stop := .brace, quoted }
          return .value name index .bad quoted
      else plain
  | '!' :: c :: _ =>
      if more && isNameStart c then
        Reading.skip
        let name ← parameterName
        let index ← arrayIndex parts
        if ← Reading.accept '}' then
          return .value name index (if index.isSome then .indices else .indirect) quoted
        else
          let _ ← parts { stop := .brace, quoted }
          return .value name index .bad quoted
      else plain
  | _ => plain
where
  /-- The parameter and what is made of it. -/
  plain : Reading Part := do
    let name ← parameterName
    if name = [] then
      if !(← Reading.hasMore) && (← Reading.look) ≠ some '}' then Reading.pass
      let _ ← parts { stop := .brace, quoted }
      return .value [] none .bad quoted
    else
      let index ← arrayIndex parts
      return .value name index (← parameterUse parts quoted) quoted

/-! ## Words -/

/-- Commands up to a closing parenthesis. -/
def upToClose (inner : Inner) : Reading Command := do
  let s ← get
  set { s with back := none }
  let body ← (do
    let body ← inner.list .loose
    let after ← get
    match after.back with
    | some (.sign ")") => return body
    | _ => throw (.unexpected after.last (some "\")\""))) |> orOpen
  modify fun after => { after with back := none, last := s.last }
  return body
where
  /-- In the way with more forms, a script that ends too early lacks the parenthesis. -/
  orOpen (act : Reading Command) : Reading Command := do
    let more ← Reading.hasMore
    tryCatch act fun e => do
      match e with
      | .unexpected .finish _ =>
          if more then throw (.unclosed ')' (← get).line "") else throw e
      | _ => throw e

/-- What a dollar sign stands for. -/
def dollar (inner : Inner) (parts : PartsReader) (sc : Scope) : Reading Word := do
  let more ← Reading.hasMore
  match ← Reading.look with
  | none => return [.text ['$'] sc.quoted]
  | some c =>
      if sc.bare then return [.text ['$'] sc.quoted]
      else if c = '(' then
        Reading.skip
        if ← Reading.accept '(' then
          return [.number (← parts { stop := .parens 0, quoted := true }) sc.quoted]
        else return [.output (← upToClose inner) sc.quoted]
      else if c = '{' then
        Reading.skip
        return [← braced parts sc.quoted]
      else if isNameStart c then
        return [.value (← Reading.takeWhile isNameChar (← Reading.bound)) none .plain sc.quoted]
      else if isSpecial c then
        Reading.skip
        return [.value [c] none .plain sc.quoted]
      else if more && c = '\'' && !sc.quoted then
        Reading.skip
        return [.text (← inDollarSingle sc.since (← Reading.bound) []) true]
      else if more && c = '"' && !sc.quoted then return []
      else return [.text ['$'] sc.quoted]

/-- What a backslash and the character after it stand for. -/
def escaped (sc : Scope) (acc : Word) : Reading Word := do
  Reading.skip
  match ← Reading.lookRaw with
  | none => return addChar true '\\' acc
  | some c =>
      Reading.skip
      let inBrace := sc.stop = .brace
      let special :=
        c = '\\' || c = '`' || c = '$' || (c = '"' && (!sc.inDocument || inBrace)) ||
          (c = '}' && inBrace)
      return addChar true c (if sc.quoted && !special then addChar true '\\' acc else acc)

/-- Why parts cannot end where a script does. -/
def tooEarly (sc : Scope) : Misread :=
  match sc.stop with
  | .parens _ => .unclosed ')' sc.since "Missing '))'"
  | .quote => .unclosed '"' sc.since openQuotes
  | _ => .unclosed '}' sc.since
      (if sc.quoted && !sc.inDocument then openQuotes else "Missing '\x7d'")

/-- Read parts.  Those that were read stand last first. -/
def partsFrom (inner : Inner) : Nat → Scope → Word → Reading Word
  | 0, _, acc => return finished acc
  | n + 1, sc, acc => do
      let nested : PartsReader := fun sc => do
        partsFrom inner n { sc with since := (← get).line } []
      match ← Reading.look with
      | none =>
          match sc.stop with
          | .word => return finished acc
          | .document => return finished acc
          | _ => throw (tooEarly sc)
      | some c =>
          let plainly : Reading Word := do
            Reading.skip
            partsFrom inner n sc (addChar sc.quoted c acc)
          if c = '\\' then partsFrom inner n sc (← escaped sc acc)
          else if c = '\'' && !sc.quoted then
            Reading.skip
            let t ← inSingle (← get).line (← Reading.bound) []
            partsFrom inner n sc (addParts [.text t true] acc)
          else if c = '"' then
            match sc.stop with
            | .quote => Reading.skip; return finished acc
            | .document => plainly
            | .parens _ => plainly
            | _ =>
                Reading.skip
                let ps ← nested { stop := .quote, quoted := true, bare := sc.bare }
                let vanishes := Word.mayVanish (← Reading.hasMore) ps
                let marked := if vanishes then ps else .text [] true :: ps
                partsFrom inner n sc (addParts marked acc)
          else if c = '$' then
            Reading.skip
            let ps ← dollar inner nested sc
            partsFrom inner n sc (addParts ps acc)
          else if c = '`' && !sc.bare then
            Reading.skip
            let t ← inBackquotes (← get).line sc.quoted (← Reading.bound) []
            let body ← aside t 1 (inner.list .loose)
            partsFrom inner n sc (addParts [.output body sc.quoted] acc)
          else
            match sc.stop with
            | .word =>
                let conduit := (← Reading.hasMore) && acc.isEmpty && (c = '<' || c = '>') &&
                  (← get).rest.tail.head? = some '('
                if conduit then
                  Reading.skipMany 2
                  let body ← upToClose inner
                  partsFrom inner n sc (addParts [.conduit body (c = '<')] acc)
                else if endsWord c then return finished acc
                else plainly
            | .brace => if c = '}' then Reading.skip; return finished acc else plainly
            | .mark cs =>
                if c = '}' || cs.contains c then return finished acc else plainly
            | .parens k =>
                if c = '(' then
                  Reading.skip
                  partsFrom inner n { sc with stop := .parens (k + 1) }
                    (addChar sc.quoted c acc)
                else if c = ')' then
                  Reading.skip
                  if k > 0 then
                    partsFrom inner n { sc with stop := .parens (k - 1) }
                      (addChar sc.quoted c acc)
                  else if ← Reading.accept ')' then return finished acc
                  else partsFrom inner n sc (addChar sc.quoted c acc)
                else plainly
            | _ => plainly

/-- Read parts. -/
def parts (inner : Inner) (sc : Scope) : Reading Word := do
  partsFrom inner (2 * (← Reading.bound)) { sc with since := (← get).line } []

/-! ## Documents -/

/-- A line and what follows it. -/
def cutLine (t : Octets) : Octets × Option Octets :=
  match t.dropWhile (· ≠ '\n') with
  | [] => (t, none)
  | _ :: rest => (t.takeWhile (· ≠ '\n'), some rest)

/-- The text of a document, the lines it took, and what follows it. -/
def documentText (w : Waiting) : Nat → Octets → Octets × Nat × Octets
  | 0, t => ([], 0, t)
  | _ + 1, [] => ([], 0, [])
  | n + 1, t =>
      let (line, after) := cutLine t
      let line := if w.stripped then line.dropWhile (· = '\t') else line
      match after with
      | none => if line = w.mark then ([], 0, []) else (line, 0, [])
      | some rest =>
          if line = w.mark then ([], 1, rest)
          else
            let (more, k, rest) := documentText w n rest
            (line ++ '\n' :: more, k + 1, rest)

/-- Read the documents that are to come now. -/
def documents (inner : Inner) : List Waiting → Reading Unit
  | [] => pure ()
  | w :: rest => do
      let s ← get
      let (text, lines, after) := documentText w (s.rest.length + 1) s.rest
      let word ←
        if w.literal then pure [.text text true]
        else
          aside text s.line (parts inner { stop := .document, quoted := true, inDocument := true })
      modify fun r =>
        { r with
          rest := after
          line := s.line + lines
          documents := (w.number, word) :: r.documents }
      documents inner rest

/-- Read the documents that are to come at the end of a line. -/
def allDocuments (inner : Inner) : Reading Unit := do
  let s ← get
  set { s with waiting := [] }
  documents inner s.waiting

/-! ## Tokens -/

/-- What is looked for in the next token. -/
structure Wanting where
  /-- Whether line ends are skipped. -/
  skipLines : Bool := false
  /-- Whether words can have a meaning of their own. -/
  words : Bool := false
  /-- Whether words can stand for other texts. -/
  aliases : Bool := false

/-- Skip blanks and comments. -/
def skipBlanks : Nat → Reading Unit
  | 0 => pure ()
  | n + 1 => do
      match ← Reading.look with
      | some ' ' => Reading.skip; skipBlanks n
      | some '\t' => Reading.skip; skipBlanks n
      | some '#' =>
          let t := (← get).rest.dropWhile (· ≠ '\n')
          modify fun s => { s with rest := t }
          skipBlanks n
      | _ => pure ()

/-- A word as the next token. -/
def wordToken (inner : Inner) (bare : Bool := false) : Reading Token := do
  let w ← parts inner { stop := .word, bare }
  return .word w (w.any fun
    | .text _ q => q
    | _ => false)

/-- The word that a redirection needs. -/
def nameToken (inner : Inner) (bare : Bool := false) : Reading (Word × Bool) := do
  skipBlanks (← Reading.bound)
  match ← Reading.look with
  | none => throw (.unexpected .finish none)
  | some c =>
      let conduit := (c = '<' || c = '>') && (← Reading.hasMore) &&
        (← get).rest.tail.head? = some '('
      if endsWord c && !conduit then
        if c = '\n' then
          Reading.skip
          throw (.unexpected .newline none)
        else if c = '<' || c = '>' then throw (.unexpected (.redirect none c) none)
        else
          let double := (← get).rest.take 2
          let s := if double = ['&', '&'] || double = ['|', '|'] || double = [';', ';'] then double
            else [c]
          throw (.unexpected (.sign (String.ofList s)) none)
      else
        match ← wordToken inner bare with
        | .word w q =>
            match ← Reading.look, w.plain? with
            | some c, some [d] =>
                if (c = '<' || c = '>') && d.isDigit && !q then
                  throw (.unexpected (.redirect none c) none)
                else return (w, q)
            | _, _ => return (w, q)
        | t => throw (.unexpected t none)

/-- Announce a document. -/
def announce (inner : Inner) (fd : Nat) : Reading Redirect := do
  let stripped ← Reading.accept '-'
  let (w, quoted) ← nameToken inner true
  let s ← get
  let mark := w.flatMap fun
    | .text t _ => t
    | _ => []
  let waiting : Waiting := ⟨s.next, mark, stripped, quoted⟩
  set { s with waiting := s.waiting ++ [waiting], next := s.next + 1 }
  return .document fd s.next

/-- A redirection, with the number of its channel if there is one. -/
def redirection (inner : Inner) (fd? : Option Nat) : Reading Redirect := do
  let more ← Reading.hasMore
  let name (_ : Unit) : Reading Word := return (← nameToken inner).1
  if ← Reading.accept '&' then
    Reading.skip
    let append ← Reading.accept '>'
    return .all append (← name ())
  else if ← Reading.accept '>' then
    let fd := fd?.getD 1
    if ← Reading.accept '>' then return .file fd .append (← name ())
    else if ← Reading.accept '|' then return .file fd .clobber (← name ())
    else if ← Reading.accept '&' then
      let w ← name ()
      match w.plain? with
      | some t =>
          if more && fd?.isNone && !(t.all Char.isDigit || t = ['-']) then return .all false w
          else return .copy fd true w
      | none => return .copy fd true w
    else return .file fd .write (← name ())
  else
    let _ ← Reading.accept '<'
    let fd := fd?.getD 0
    if ← Reading.accept '<' then
      if more && (← Reading.lookRaw) = some '<' then
        Reading.skip
        return .line fd (← name ())
      else announce inner fd
    else if ← Reading.accept '&' then return .copy fd false (← name ())
    else if ← Reading.accept '>' then return .file fd .both (← name ())
    else return .file fd .read (← name ())

/-- The first sign of some that comes next. -/
def signOf? : List String → Reading (Option String)
  | [] => return none
  | s :: rest => do
      if ← Reading.acceptAll s then return some s else signOf? rest

/-- The next token as it stands. -/
def rawToken (inner : Inner) : Reading Token := do
  skipBlanks (← Reading.bound)
  let more ← Reading.hasMore
  match ← Reading.look with
  | none => return .finish
  | some '\n' => Reading.skip; return .newline
  | some c =>
      let rest := (← get).rest
      if more && Text.startsWith rest ['&', '>'] then return .redirect none '&'
      else if c = '&' || c = '|' || c = ';' || c = '(' || c = ')' then
        let signs :=
          if more then [";;&", ";;", ";&", "&&", "||", "|&", "&", "|", ";", "(", ")"]
          else ["&&", "||", ";;", "&", "|", ";", "(", ")"]
        match ← signOf? signs with
        | some s => return .sign s
        | none => return .finish
      else
        match ← wordToken inner with
        | .word w q =>
            let digits := (w.plain?).getD ['x']
            let next ← Reading.look
            let adjacent := next = some '<' || next = some '>'
            if adjacent && !q && (digits = [] || (digits.all Char.isDigit && (more || digits.length = 1)))
            then
              let fd := if digits = [] then none else some (digitsValue 10 digits)
              return .redirect fd (next.getD '>')
            else return .word w q
        | t => return t

/-- Put the text of an alias in front of what is left. -/
def unalias (name text : Octets) : Reading Unit :=
  modify fun s =>
    { s with
      rest := text ++ s.rest
      replaced := (name, s.rest.length) :: s.replaced }

/-- The next token. -/
def tokenFrom (inner : Inner) (want : Wanting) : Nat → Reading Token
  | 0 => return .finish
  | n + 1 => do
      let s ← get
      let t ←
        (match s.back with
        | some t => do set { s with back := none }; pure t
        | none => rawToken inner)
      modify fun s => { s with last := t }
      match t with
      | .newline =>
          if want.skipLines then
            allDocuments inner
            tokenFrom inner want n
          else return t
      | .word w false =>
          match w.plain? with
          | none => return t
          | some text =>
              let s ← get
              let shown := String.ofList text
              let known := reservedWords.contains shown ||
                (s.dialect = .bash && moreReservedWords.contains shown)
              if want.words && known then
                modify fun s => { s with last := .reserved shown }
                return .reserved shown
              else
                let busy := s.replaced.any fun e => e.1 = text && e.2 < s.rest.length
                match s.aliases.lookup text with
                | some value =>
                    if want.aliases && !busy && s.dialect = .plain then
                      unalias text value
                      tokenFrom inner want n
                    else return t
                | none => return t
      | _ => return t

/-- The next token. -/
def token (inner : Inner) (want : Wanting := {}) : Reading Token := do
  tokenFrom inner want (← Reading.bound)

/-- Line ends do not matter, words may have a meaning of their own. -/
def atStart : Wanting := { skipLines := true, words := true, aliases := true }

/-- Go on only if a reserved word comes next. -/
def expectWord (inner : Inner) (s : String) (want : Wanting := {}) : Reading Unit := do
  match ← token inner want with
  | .reserved r => if r = s then pure () else Reading.refuse (some ("\"" ++ s ++ "\""))
  | _ => Reading.refuse (some ("\"" ++ s ++ "\""))

/-! ## Simple commands -/

/-- The parts before and after the first `]=` or `]+=` outside of quotes. -/
def cutAtIndexEnd : Word → Option (Word × Bool × Word)
  | [] => none
  | .text t false :: rest =>
      let index := t.takeWhile (· ≠ ']')
      match t.drop index.length with
      | ']' :: '=' :: value => some ([.text index false], false, .text value false :: rest)
      | ']' :: '+' :: '=' :: value => some ([.text index false], true, .text value false :: rest)
      | _ => (cutAtIndexEnd rest).map fun (i, m, v) => (.text t false :: i, m, v)
  | p :: rest => (cutAtIndexEnd rest).map fun (i, m, v) => (p :: i, m, v)

/-- The setting that a word is. -/
def setting? (dialect : Dialect) : Word → Option Setting
  | .text t false :: rest =>
      let name := t.takeWhile isNameChar
      if !isName name then none
      else
        match t.drop name.length with
        | '=' :: value => some (.mk name none false (.word (.text value false :: rest)))
        | '+' :: '=' :: value =>
            if dialect = .bash then some (.mk name none true (.word (.text value false :: rest)))
            else none
        | '[' :: index =>
            if dialect = .bash then
              (cutAtIndexEnd (.text index false :: rest)).map fun (i, more, value) =>
                .mk name (some i) more (.word value)
            else none
        | _ => none
  | _ => none

/-- The words of an array, up to the closing parenthesis. -/
def arrayWords (inner : Inner) : Nat → Reading (List Word)
  | 0 => return []
  | n + 1 => do
      match ← token inner { skipLines := true } with
      | .word w _ => return w :: (← arrayWords inner n)
      | .sign ")" => return []
      | _ => Reading.refuse

/-- The setting that a word starts, given that a parenthesis may follow it at once. -/
def settingOf (inner : Inner) (w : Word) : Reading (Option Setting) := do
  let s ← get
  match setting? s.dialect w with
  | some (.mk name index more (.word value)) =>
      let isEmpty := value.all fun
        | .text t q => t.isEmpty && !q
        | _ => false
      if s.dialect = .bash && isEmpty && s.rest.head? = some '(' then
        Reading.skip
        return some (.mk name index more (.array (← arrayWords inner (← Reading.bound))))
      else return some (.mk name index more (.word value))
  | other => return other

/-- The builtins that cannot be the name of a function. -/
def specialBuiltins : List String :=
  [".", ":", "break", "continue", "eval", "exec", "exit", "export", "readonly", "return", "set",
    "shift", "times", "trap", "unset"]

/-- The commands whose arguments may be settings. -/
def declaring : List String := ["declare", "typeset", "local", "export", "readonly"]

/-- A word for a setting of an array, which a command that declares takes apart again. -/
def declared (inner : Inner) (w : Word) : Reading Word := do
  match ← settingOf inner w with
  | some (.mk name _ more (.array ws)) =>
      let spaced := ws.flatMap fun w => .text [' '] false :: w
      return .text (name ++ (if more then ['+'] else []) ++ ['=', '(']) false ::
        spaced ++ [.text [')'] false]
  | _ => return w

/-- The rest of a function whose name was read, after its opening parenthesis. -/
def functionRest (inner : Inner) (name : Word) : Reading Command := do
  match ← token inner with
  | .sign ")" => pure ()
  | _ => Reading.refuse (some "\")\"")
  let s ← get
  let plain := (name.plain?).getD []
  let good :=
    if s.dialect = .bash then plain ≠ []
    else isName plain && !specialBuiltins.contains (String.ofList plain)
  if !good then throw (.other "Bad function name")
  let line := s.line
  -- The body starts on this line or on a later one.
  let t ← token inner atStart
  match t with
  | _ =>
      Reading.putBack
      return .define line plain (← inner.command)

/-- What a simple command is made of so far; everything stands last first. -/
structure SimpleSoFar where
  /-- Settings. -/
  settings : List Setting := []
  /-- Words. -/
  words : List Word := []
  /-- Redirections. -/
  redirects : List Redirect := []

/-- The simple command that was read. -/
def SimpleSoFar.command (sofar : SimpleSoFar) (line : Nat) : Command :=
  .simple line sofar.settings.reverse sofar.words.reverse sofar.redirects.reverse

/-- A simple command or a function. -/
def simpleFrom (inner : Inner) (line : Nat) : Nat → SimpleSoFar → Reading Command
  | 0, sofar => return sofar.command line
  | n + 1, sofar => do
      match ← token inner { aliases := sofar.words.isEmpty } with
      | .word w _ =>
          if sofar.words.isEmpty then
            match ← settingOf inner w with
            | some s => simpleFrom inner line n { sofar with settings := s :: sofar.settings }
            | none => simpleFrom inner line n { sofar with words := w :: sofar.words }
          else
            let first := ((sofar.words.getLast?).bind Word.plain?).map String.ofList
            let more ← Reading.hasMore
            let w ← if more && (first.map declaring.contains).getD false then declared inner w
              else pure w
            simpleFrom inner line n { sofar with words := w :: sofar.words }
      | .redirect fd _ =>
          let r ← redirection inner fd
          simpleFrom inner line n { sofar with redirects := r :: sofar.redirects }
      | .sign "(" =>
          match sofar.words, sofar.settings, sofar.redirects with
          | [name], [], [] => functionRest inner name
          | _, _, _ => do
              Reading.putBack
              return sofar.command line
      | _ =>
          Reading.putBack
          return sofar.command line

/-! ## Commands -/

/-- Redirections that follow a command.  Only where there is none, the next word may have a meaning
of its own. -/
def redirectsFrom (inner : Inner) (first : Bool) : Nat → Reading (List Redirect)
  | 0 => return []
  | n + 1 => do
      let more ← Reading.hasMore
      match ← token inner { words := first || more, aliases := first } with
      | .redirect fd _ =>
          let r ← redirection inner fd
          return r :: (← redirectsFrom inner false n)
      | _ =>
          Reading.putBack
          return []

/-- The branches of a choice, after `if` or `elif`. -/
def branches (inner : Inner) : Nat → Reading Command
  | 0 => return .nothing
  | n + 1 => do
      let test ← inner.list .body
      expectWord inner "then"
      let yes ← inner.list .body
      match ← token inner with
      | .reserved "elif" => return .branch test yes (← branches inner n)
      | .reserved "else" => return .branch test yes (← inner.list .body)
      | _ =>
          Reading.putBack
          return .branch test yes .nothing

/-- The words of a loop, after `in`, and the token that follows them. -/
def loopWords (inner : Inner) : Nat → Reading (List Word)
  | 0 => return []
  | n + 1 => do
      match ← token inner with
      | .word w _ => return w :: (← loopWords inner n)
      | .newline => allDocuments inner; return []
      | .sign ";" => return []
      | _ => Reading.refuse

/-- The body of a loop. -/
def loopBody (inner : Inner) : Reading Command := do
  match ← token inner atStart with
  | .reserved "do" =>
      let body ← inner.list .body
      expectWord inner "done"
      return body
  | .reserved "\x7b" =>
      if ← Reading.hasMore then
        let body ← inner.list .body
        expectWord inner "\x7d"
        return body
      else Reading.refuse (some "\"do\"")
  | _ => Reading.refuse (some "\"do\"")

/-- A loop over words, after its name. -/
def eachLoop (inner : Inner) (line : Nat) (name : Octets) : Reading Command := do
  let all : List Word := [[.value ['@'] none .plain true]]
  match ← token inner { skipLines := true, words := true, aliases := true } with
  | .reserved "in" =>
      let ws ← loopWords inner (← Reading.bound)
      return .each line name ws (← loopBody inner)
  | .sign ";" => return .each line name all (← loopBody inner)
  | _ =>
      Reading.putBack
      return .each line name all (← loopBody inner)

/-- The three expressions of a counted loop, after its opening parentheses. -/
def countedLoop (inner : Inner) (line : Nat) : Reading Command := do
  let upTo (cs : List Char) : Reading Word := do
    parts inner { stop := .mark cs, quoted := true }
  let start ← upTo [';']
  let _ ← Reading.accept ';'
  let test ← upTo [';']
  let _ ← Reading.accept ';'
  let step ← parts inner { stop := .parens 0, quoted := true }
  match ← token inner { skipLines := true, words := true } with
  | .sign ";" => pure ()
  | _ => Reading.putBack
  return .counted line start test step (← loopBody inner)

/-- A loop over words, after `for`. -/
def forLoop (inner : Inner) (line : Nat) : Reading Command := do
  skipBlanks (← Reading.bound)
  if (← Reading.hasMore) && Text.startsWith (← get).rest ['(', '('] then
    Reading.skipMany 2
    countedLoop inner line
  else
    match ← token inner with
    | .word w false =>
        match w.plain? with
        | some name =>
            if isName name then eachLoop inner line name
            else throw (.other "Bad for loop variable")
        | none => throw (.other "Bad for loop variable")
    | _ => throw (.other "Bad for loop variable")

/-- The pattern that a token is.  In the plain way any token is taken for one. -/
def patternOf : Token → Reading Word
  | .word w _ => return w
  | .reserved s => return Word.plain s.toList
  | t => do
      if ← Reading.hasMore then Reading.refuse
      else
        match t with
        | .redirect _ sign =>
            Reading.skip
            let _ ← signOf? (if sign = '>' then [">", "&", "|"] else ["<", "&", ">"])
            return []
        | _ => return []

/-- The patterns of a case, after the first one. -/
def morePatterns (inner : Inner) : Nat → Reading (List Word)
  | 0 => return []
  | n + 1 => do
      match ← token inner with
      | .sign "|" =>
          let w ← patternOf (← token inner)
          return w :: (← morePatterns inner n)
      | .sign ")" => return []
      | _ => Reading.refuse (some "\")\"")

/-- The cases of a choice, up to `esac`. -/
def casesFrom (inner : Inner) : Nat → Reading (List (List Word × Command × Char))
  | 0 => return []
  | n + 1 => do
      let first ← token inner { skipLines := true, words := true }
      let first ←
        match first with
        | .sign "(" => token inner
        | t => pure t
      match first with
      | .reserved "esac" => return []
      | .finish => Reading.refuse (some "\")\"")
      | _ =>
          let pattern ← patternOf first
          let ws ← morePatterns inner (← Reading.bound)
          let body ← inner.list .loose
          match ← token inner { skipLines := true, words := true } with
          | .reserved "esac" => return [(pattern :: ws, body, ' ')]
          | .sign ";;" => return (pattern :: ws, body, ' ') :: (← casesFrom inner n)
          | .sign ";&" => return (pattern :: ws, body, '&') :: (← casesFrom inner n)
          | .sign ";;&" => return (pattern :: ws, body, ';') :: (← casesFrom inner n)
          | _ => Reading.refuse (some "\";;\"")

/-- A choice by patterns, after `case`. -/
def caseChoice (inner : Inner) (line : Nat) : Reading Command := do
  match ← token inner with
  | .word w _ =>
      expectWord inner "in" atStart
      return .choose line w (← casesFrom inner (← Reading.bound))
  | _ => Reading.refuse (some "word")

/-! ## Conditions in double brackets -/

/-- The tests of one word. -/
def unaryTests : List String :=
  ["-e", "-f", "-d", "-r", "-w", "-x", "-s", "-z", "-n", "-h", "-L", "-p", "-S", "-c", "-b", "-t",
    "-u", "-g", "-k", "-O", "-G", "-a", "-v", "-o"]

/-- The tests of two words. -/
def binaryTests : List String :=
  ["=", "==", "!=", "=~", "-eq", "-ne", "-lt", "-le", "-gt", "-ge", "-nt", "-ot", "-ef"]

/-- The characters of a word, whatever stands in it. -/
def Word.shown (w : Word) : Octets :=
  w.flatMap fun
    | .text t _ => t
    | .value n _ _ _ => '$' :: n
    | _ => []

/-- A regular expression, up to the next blank outside of parentheses. -/
def regexWord (inner : Inner) : Nat → Nat → Word → Reading Word
  | 0, _, acc => return finished acc
  | n + 1, depth, acc => do
      match ← Reading.look with
      | none => return finished acc
      | some c =>
          if c = '(' then Reading.skip; regexWord inner n (depth + 1) (addChar false c acc)
          else if c = ')' && depth > 0 then
            Reading.skip
            regexWord inner n (depth - 1) (addChar false c acc)
          else if c = '|' || (depth > 0 && (c = ' ' || c = '<' || c = '>')) then
            Reading.skip
            regexWord inner n depth (addChar false c acc)
          else if endsWord c then return finished acc
          else
            let ps ← parts inner { stop := .word }
            if ps.isEmpty then return finished acc
            else regexWord inner n depth (addParts ps acc)

/-- A condition of one test. -/
def simpleCondition (inner : Inner) (either : Reading Condition) : Reading Condition := do
  match ← token inner { skipLines := true, words := true } with
  | .sign "(" =>
      let c ← either
      match ← token inner with
      | .sign ")" => return c
      | _ => Reading.refuse
  | .word w quoted =>
      let shown := String.ofList ((w.plain?).getD [])
      if !quoted && unaryTests.contains shown then
        match ← token inner with
        | .word v _ => return .unary shown.toList v
        | _ =>
            Reading.putBack
            return .word w
      else
        let t ← token inner
        match t with
        | .word op false =>
            let test := String.ofList ((op.plain?).getD [])
            if test = "=~" then
              skipBlanks (← Reading.bound)
              return .binary test.toList w (← regexWord inner (← Reading.bound) 0 [])
            else if binaryTests.contains test then
              match ← token inner with
              | .word v _ => return .binary test.toList w v
              | _ => Reading.refuse
            else
              Reading.putBack
              return .word w
        | .redirect none c => do
            Reading.skip
            return .binary [c] w (← nameToken inner).1
        | _ =>
            Reading.putBack
            return .word w
  | _ => Reading.refuse

/-- A condition, with signs between its tests. -/
def condition (inner : Inner) : Nat → Nat → Reading Condition
  | 0, _ => Reading.refuse
  | n + 1, level => do
      if level = 0 then
        let a ← condition inner n 1
        match ← token inner { skipLines := true } with
        | .sign "||" => return .either a (← condition inner n 0)
        | _ =>
            Reading.putBack
            return a
      else if level = 1 then
        let a ← condition inner n 2
        match ← token inner { skipLines := true } with
        | .sign "&&" => return .both a (← condition inner n 1)
        | _ =>
            Reading.putBack
            return a
      else
        match ← token inner { skipLines := true, words := true } with
        | .reserved "!" => return .negate (← condition inner n 2)
        | _ =>
            Reading.putBack
            simpleCondition inner (condition inner n 0)

/-- A condition up to its closing brackets. -/
def judgement (inner : Inner) (line : Nat) : Reading Command := do
  let c ← condition inner (4 * (← Reading.bound)) 0
  match ← token inner { skipLines := true } with
  | .word w _ => if w.plain? = some [']', ']'] then return .judge line c else Reading.refuse
  | _ => Reading.refuse

/-- Join redirections to a command. -/
def withRedirects (inner : Inner) (line : Nat) (c : Command) : Reading Command := do
  let rs ← redirectsFrom inner true (← Reading.bound)
  if rs.isEmpty then return c
  else
    match c with
    | .subshell line body _ => return .subshell line body rs
    | _ => return .redirected line c rs

/-- A function after the word `function`. -/
def functionWord (inner : Inner) : Reading Command := do
  match ← token inner with
  | .word w _ =>
      match ← token inner { skipLines := true, words := true } with
      | .sign "(" => functionRest inner w
      | _ =>
          Reading.putBack
          let line := (← get).line
          return .define line ((w.plain?).getD []) (← inner.command)
  | _ => Reading.refuse

/-- Read a command. -/
def commandWith (inner : Inner) : Reading Command := do
  let line := (← get).line
  match ← token inner with
  | .reserved "if" =>
      let c ← branches inner (← Reading.bound)
      expectWord inner "fi"
      withRedirects inner line c
  | .reserved "while" => whileLoop line false
  | .reserved "until" => whileLoop line true
  | .reserved "for" => withRedirects inner line (← forLoop inner line)
  | .reserved "case" => withRedirects inner line (← caseChoice inner line)
  | .reserved "\x7b" =>
      let c ← inner.list .body
      expectWord inner "\x7d"
      withRedirects inner line c
  | .reserved "[[" => withRedirects inner line (← judgement inner line)
  | .reserved "function" => functionWord inner
  | .sign "(" =>
      if (← Reading.hasMore) && (← get).rest.head? = some '(' then
        Reading.skip
        let w ← parts inner { stop := .parens 0, quoted := true }
        withRedirects inner line (.weigh line w)
      else
        let c ← inner.list .body
        match ← token inner with
        | .sign ")" => withRedirects inner line (.subshell line c [])
        | _ => Reading.refuse (some "\")\"")
  | .word .. => simple line
  | .redirect .. => simple line
  | _ => Reading.refuse
where
  /-- A simple command. -/
  simple (line : Nat) : Reading Command := do
    Reading.putBack
    simpleFrom inner line (← Reading.bound) {}
  /-- A loop with a test. -/
  whileLoop (line : Nat) (untilTrue : Bool) : Reading Command := do
    let test ← inner.list .body
    expectWord inner "do"
    let body ← inner.list .body
    expectWord inner "done"
    withRedirects inner line (.loop untilTrue test body)

/-! ## Sequences -/

/-- A command together with its complaints. -/
def withComplaints : Command → Command
  | .simple line ss ws rs => .simple line ss ws (rs ++ [.copy 2 true (Word.plain ['1'])])
  | c => .redirected 0 c [.copy 2 true (Word.plain ['1'])]

/-- The commands of a pipe after the first one. -/
def pipeFrom (inner : Inner) : Nat → Command → Reading (List Command)
  | 0, c => return [c]
  | n + 1, c => do
      match ← token inner with
      | .sign "|" => return c :: (← next n)
      | .sign "|&" => return withComplaints c :: (← next n)
      | _ =>
          Reading.putBack
          return [c]
where
  /-- The next command of the pipe and those after it. -/
  next (n : Nat) : Reading (List Command) := do
    let t ← token inner atStart
    match t with
    | _ =>
        Reading.putBack
        pipeFrom inner n (← commandWith inner)

/-- A pipe of one command or more. -/
def pipeline (inner : Inner) : Reading Command := do
  match ← token inner with
  | .reserved "!" =>
      let _ ← token inner { words := true, aliases := true }
      Reading.putBack
      return .negate (← piped)
  | .reserved "time" =>
      let _ ← token inner { words := true, aliases := true }
      Reading.putBack
      piped
  | _ =>
      Reading.putBack
      piped
where
  /-- Commands with signs between them. -/
  piped : Reading Command := do
    match ← pipeFrom inner (← Reading.bound) (← commandWith inner) with
    | [c] => return c
    | cs => return .pipe cs

/-- Pipes joined by `&&` and `||`. -/
def andOrFrom (inner : Inner) : Nat → Command → Reading Command
  | 0, a => return a
  | n + 1, a => do
      match ← token inner with
      | .sign "&&" =>
          let _ ← token inner atStart
          Reading.putBack
          andOrFrom inner n (.all a (← pipeline inner))
      | .sign "||" =>
          let _ ← token inner atStart
          Reading.putBack
          andOrFrom inner n (.any a (← pipeline inner))
      | _ =>
          Reading.putBack
          return a

/-- A command that nobody waits for. -/
def inBackground (line : Nat) : Command → Command
  | .redirected l c rs => .background l c rs
  | c => .background line c []

/-- Put a command after others. -/
def following : Option Command → Command → Command
  | none, c => c
  | some a, c => .next a c

/-- A sequence of commands; nothing if there is none. -/
def listFrom (inner : Inner) (stretch : Stretch) :
    Nat → Option Command → Reading (Option Command)
  | 0, sofar => return sofar
  | n + 1, sofar => do
      let t ← token inner { skipLines := stretch ≠ .line, words := true, aliases := true }
      match t with
      | .newline => allDocuments inner; return sofar
      | .finish =>
          allDocuments inner
          modify fun s => { s with back := some .finish, last := .finish }
          return sofar
      | _ =>
          Reading.putBack
          let mayEnd := stretch ≠ .line && (stretch = .loose || sofar.isSome)
          if mayEnd && t.endsList then return sofar
          else
            let line := (← get).line
            let c ← andOrFrom inner (← Reading.bound) (← pipeline inner)
            match ← token inner with
            | .sign "&" => listFrom inner stretch n (following sofar (inBackground line c))
            | .sign ";" => listFrom inner stretch n (following sofar c)
            | .newline =>
                Reading.putBack
                listFrom inner stretch n (following sofar c)
            | .finish =>
                allDocuments inner
                modify fun s => { s with back := some .finish, last := .finish }
                return following sofar c
            | _ =>
                if stretch = .line then Reading.refuse
                else
                  Reading.putBack
                  return following sofar c

/-- Read a sequence of commands. -/
def listWith (inner : Inner) (stretch : Stretch) : Reading Command := do
  return (← listFrom inner stretch (← Reading.bound) none).getD .nothing

/-- Readers that go some levels deep. -/
def innerOf : Nat → Inner
  | 0 => ⟨fun _ => throw (.other "Too deep"), throw (.other "Too deep")⟩
  | n + 1 => ⟨fun stretch => listWith (innerOf n) stretch, commandWith (innerOf n)⟩

/-- How deep commands may lie in one another. -/
def depthLimit : Nat := 200

/-- Read the commands of a line; nothing at the end. -/
def readLine : Reading (Option Command) := do
  let s ← get
  set { s with back := none, waiting := [] }
  let c ← listFrom (innerOf depthLimit) .line (← Reading.bound) none
  let after ← get
  match c, after.back with
  | none, some .finish => return none
  | _, _ => return some (c.getD .nothing)

end Shell
end AmbientBundle
