import AmbientBundle.Shell.Arithmetic
import AmbientBundle.Shell.Fields
import AmbientBundle.Shell.State

/-!
# Expansion

The parts of a word are replaced by what they stand for.  The output of commands is
worked out elsewhere, so every definition here takes a *helper* that does it.

A word becomes *fields*, a *text* or *glyphs*.  As fields it is cut at separators, and
a field that is a pattern becomes the paths that match.  As a text it is not cut.  As
glyphs it keeps what was quoted, for a pattern.

A parameter holds one value, or many, as the arguments do.
-/

namespace AmbientBundle
namespace Shell

/-- What expansion needs from the rest of the shell. -/
structure Helper where
  /-- The output of commands. -/
  output : Command → Run Octets
  /-- The name of a file that holds the output of commands, or takes their input. -/
  conduit : Command → Bool → Run Octets

/-- What a parameter holds. -/
inductive Holding where
  /-- One value, or none. -/
  | one (v : Option Octets)
  /-- Many values, and whether they are to be joined. -/
  | many (vs : List Octets) (joined : Bool)

namespace Expansion

/-- The separators of fields. -/
def separators : Run Octets := do
  return ((← Run.variableOf? "IFS".toList).map fun v => v.value.getD []).getD [' ', '\t', '\n']

/-- The separator that joins values. -/
def joiner : Run Octets := do return (← separators).take 1

/-- The letters of the flags that are on. -/
def flagLetters (f : Flags) : Octets :=
  [(f.nounset, 'u'), (f.allexport, 'a'), (f.noclobber, 'C'), (f.verbose, 'v'), (f.xtrace, 'x'),
    (f.stdin, 's'), (f.noexec, 'n'), (f.noglob, 'f'), (f.errexit, 'e')].filterMap fun (on, c) =>
      if on then some c else none

/-- Texts with a separator between them. -/
def joinWith (sep : Octets) (ts : List Octets) : Octets := List.intercalate sep ts

/-- What an arithmetic complaint says. -/
def arithmeticFault (more : Bool) (t : Octets) : Arithmetic.Fault → Octets
  | .unreadable reason rest =>
      if more then
        let t := t.dropWhile Arithmetic.isBlank
        let body := Arithmetic.trimmed t
        let starts (c : Char) : Bool := isNameStart c || c.isDigit
        let what :=
          if rest = [] || reason = "expecting primary" then ": syntax error: operand expected"
          else if reason = "expecting EOF" && Arithmetic.assigning.any fun s =>
              Text.startsWith rest s.toList && !Text.startsWith rest "==".toList then
            ": attempted assignment to non-variable"
          else if (rest.head?.map starts).getD false then ": syntax error in expression"
          else ": syntax error: invalid arithmetic operator"
        let token := if rest = [] then t.drop (body.length - 1) else rest
        t ++ what.toList ++ " (error token is \"".toList ++ token ++ "\")".toList
      else "arithmetic expression: ".toList ++ reason.toList ++ ": \"".toList ++ t ++ ['"']
  | .division _ =>
      if more then
        let t := t.dropWhile Arithmetic.isBlank
        let divides (c : Char) : Bool := c = '/' || c = '%'
        let token := (t.reverse.takeWhile (!divides ·)).reverse.dropWhile Arithmetic.isBlank
        t ++ ": division by 0 (error token is \"".toList ++ token ++ ['"', ')']
      else "arithmetic expression: division by zero: \"".toList ++ t ++ ['"']
  | .notNumber v => "Illegal number: ".toList ++ v
  | .badDigit v =>
      v ++ ": value too great for base (error token is \"".toList ++ v ++ "\")".toList
  | .unset name => name ++ (if more then ": unbound variable" else ": parameter not set").toList

/-- The value of an arithmetic expression. -/
def arithmetic (t : Octets) : Run Int := do
  let s ← Run.shell
  let more := s.dialect = .bash
  let get (name : Octets) (index : Option Int) : Option Octets :=
    match s.bindings.lookup name with
    | none => none
    | some v =>
        match index with
        | none => v.text?
        | some i =>
            match v.elements with
            | some es => es.lookup (Octets.ofInt i)
            | none => if i = 0 then v.value else none
  match Arithmetic.value more { get, strict := more && s.flags.nounset } t with
  | .error f => Run.fault (arithmeticFault more t f) (if more then 1 else 2)
  | .ok (i, settings) =>
      for ((name, index), v) in settings.reverse do
        match index with
        | none => Run.setVariable name (Octets.ofInt v)
        | some k =>
            let old := (s.bindings.lookup name).getD {}
            let es := old.elements.getD ((old.value.map fun v => [(['0'], v)]).getD [])
            let key := Octets.ofInt k
            Run.putVariable name
              { old with elements := some ((es.filter (·.1 ≠ key)) ++ [(key, Octets.ofInt v)]) }
      return i

/-- The special parameters. -/
def special? (name : Octets) : Run (Option Holding) := do
  let s ← Run.shell
  match name with
  | ['@'] => return some (.many s.args false)
  | ['*'] => return some (.many s.args true)
  | ['#'] => return some (.one (some (Octets.ofNat s.args.length)))
  | ['?'] => return some (.one (some (Octets.ofNat s.status)))
  | ['-'] => return some (.one (some (flagLetters s.flags)))
  | ['$'] => return some (.one (some (Octets.ofNat s.owner)))
  | ['!'] => return some (.one (s.background.map Octets.ofNat))
  | ['0'] => return some (.one (some s.name))
  | _ =>
      if name.all Char.isDigit && name ≠ [] then
        return some (.one (s.args[(Octets.toNat? name).getD 0 - 1]?))
      else return none

/-- The elements of an array in the order of their indices. -/
def ordered (v : Variable) (es : List (Octets × Octets)) : List (Octets × Octets) :=
  if v.keyed then es
  else es.mergeSort fun a b => (Octets.toNat? a.1).getD 0 ≤ (Octets.toNat? b.1).getD 0

/-- Variables that are worked out when they are asked for. -/
def workedOut? (name : Octets) : Run (Option Variable) := do
  let s ← Run.shell
  let one (t : Octets) : Option Variable := some { value := some t }
  if s.dialect = .bash then
    match String.ofList name with
    | "LINENO" => return one (Octets.ofNat s.line)
    | "BASH_VERSION" => return one "5.2.15(1)-release".toList
    | "PIPESTATUS" =>
        let codes := s.piped.zipIdx.map fun (n, i) => (Octets.ofNat i, Octets.ofNat n)
        return some { elements := some codes }
    | "BASH_SOURCE" => return one s.name
    | "BASHPID" => return one (Octets.ofNat s.process)
    | "EUID" => return one ['0']
    | "UID" => return one ['0']
    | "SECONDS" => return one ['0']
    | _ => return none
  else return none

/-- What a variable holds, or an element of it. -/
def held (name : Octets) (index : Option Octets) : Run Holding := do
  let found ← Run.variableOf? name
  let worked ← workedOut? name
  match found <|> worked with
  | none =>
      match index with
      | some ['@'] => return .many [] false
      | some ['*'] => return .many [] true
      | _ => return .one none
  | some v =>
      let es := v.elements.getD ((v.value.map fun t => [(['0'], t)]).getD [])
      match index with
      | none => return .one v.text?
      | some ['@'] => return .many ((ordered v es).map (·.2)) false
      | some ['*'] => return .many ((ordered v es).map (·.2)) true
      | some i =>
          if v.keyed then return .one (es.lookup i)
          else
            let k ← arithmetic i
            let top := (es.map fun e => ((Octets.toNat? e.1).getD 0) + 1).foldl max 0
            let k := if k < 0 then k + top else k
            return .one (es.lookup (Octets.ofInt k))

/-- The home directory of a user. -/
def homeOf? (user : Octets) : Run (Option Octets) := do
  if user = [] then Run.valueOf? "HOME".toList
  else if user = "root".toList then return some "/root".toList
  else return none

/-- Replace a tilde at the front of a word, up to the next slash. -/
def tilde (colons : Bool) (w : Word) : Run Word := do
  match w with
  | .text ('~' :: t) false :: rest =>
      let ends (c : Char) : Bool := c = '/' || (colons && c = ':')
      let user := t.takeWhile (!ends ·)
      let after := t.drop user.length
      if after = [] && !rest.isEmpty then return w
      else
        match ← homeOf? user with
        | some home => return .text home true :: .text after false :: rest
        | none => return w
  | _ => return w

/-- Replace the tildes of a setting, at its front and after colons. -/
def tildes : Nat → Word → Run Word
  | 0, w => return w
  | n + 1, w => do
      match ← tilde true w with
      | .text t false :: rest =>
          let front := t.takeWhile (· ≠ ':')
          match t.drop front.length with
          | ':' :: after =>
              let more ← tildes n (.text after false :: rest)
              return .text (front ++ [':']) false :: more
          | _ => return .text t false :: rest
      | .text home true :: .text t false :: rest =>
          let front := t.takeWhile (· ≠ ':')
          match t.drop front.length with
          | ':' :: after =>
              let more ← tildes n (.text after false :: rest)
              return .text home true :: .text (front ++ [':']) false :: more
          | _ => return .text home true :: .text t false :: rest
      | w => return w

/-- Complain that a parameter is not set. -/
def notSet {α : Type} (name : Octets) : Run α := do
  match (← Run.shell).dialect with
  | .plain => Run.fault (name ++ ": parameter not set".toList)
  | .bash => Run.fault (name ++ ": unbound variable".toList) 1

/-- The length of a text: in bytes, or in characters. -/
def lengthOf (t : Octets) : Run Nat := do
  match (← Run.shell).dialect with
  | .plain => return t.length
  | .bash => return (Octets.toText t).length

/-- A stretch of a list. -/
def stretch {α : Type} (start : Int) (length : Option Int) (xs : List α) : List α :=
  let size : Int := xs.length
  let start := if start < 0 then start + size else start
  if start < 0 || start > size then []
  else
    let stop :=
      match length with
      | none => size
      | some n => if n < 0 then size + n else min size (start + n)
    (xs.drop start.toNat).take (stop - start).toNat

/-- Whether a character needs a quote. -/
def isSafe (c : Char) : Bool := c.isAlphanum || "_@%+=:,./-".toList.contains c

/-- A text in single quotes. -/
def singleQuoted (t : Octets) : Octets :=
  '\'' :: t.flatMap (fun c => if c = '\'' then "'\\''".toList else [c]) ++ ['\'']

/-- A text with backslashes, as a shell would read it. -/
def backslashed (t : Octets) : Octets :=
  if t = [] then ['\'', '\'']
  else t.flatMap fun c => if isSafe c || c.toNat ≥ 128 then [c] else ['\\', c]

/-! ## Parts -/

/-- Pieces of what a parameter holds. -/
def piecesOf (quoted splitting : Bool) : Holding → Run (List Piece)
  | .one v => return Piece.ofText quoted (!quoted) (v.getD [])
  | .many vs joined => do
      if splitting && !(quoted && joined) then return Piece.ofTexts quoted vs
      else return Piece.ofText quoted (!quoted) (joinWith (← joiner) vs)

/-- Whether a parameter holds something.  The arguments together are always set in the plain way,
and they are empty if at most one is there that is empty. -/
def isGiven (more empty : Bool) : Holding → Bool
  | .one none => false
  | .one (some v) => !(empty && v.isEmpty)
  | .many vs _ => if empty then vs.length > 1 || !vs.flatten.isEmpty else !(more && vs.isEmpty)

/-- Change every value. -/
def Holding.mapM (f : Octets → Run Octets) : Holding → Run Holding
  | .one none => return .one none
  | .one (some v) => return .one (some (← f v))
  | .many vs joined => return .many (← vs.mapM f) joined

/-- Replace a part.  `splitting` tells whether the word will be cut into fields. -/
def pieces (h : Helper) (splitting : Bool) : Nat → Part → Run (List Piece)
  | 0, _ => throw .spent
  | n + 1, p => do
      let all (w : Word) : Run (List Piece) := do
        let w ← tilde false w
        return (← w.mapM (pieces h splitting n)).flatten
      let text (w : Word) : Run Octets := do
        let ps := (← w.mapM (pieces h false n)).flatten
        return unglyph (Piece.glyphs [' '] ps)
      match p with
      | .text t q =>
          return (if q && t.isEmpty then [.quotes] else []) ++ Piece.ofText q false t
      | .output body q => do
          let t ← h.output body
          return Piece.ofText q (!q) t
      | .conduit body reads => do
          let t ← h.conduit body reads
          return Piece.ofText true false t
      | .number body q => do
          let i ← arithmetic (← text body)
          return Piece.ofText q (!q) (Octets.ofInt i)
      | .value name index use q => do
          let bash : Bool := (← Run.shell).dialect = .bash
          let index ←
            match index with
            | none => pure none
            | some w => some <$> text w
          let value ←
            match ← special? name with
            | some v => pure v
            | none => held name index
          let strict := (← Run.shell).flags.nounset
          let needed : Run Unit := do
            match value with
            | .one none => if strict then notSet name
            | _ => pure ()
          -- What stands in for the value, as pieces that keep their own quotes.
          let standIn (w : Word) : Run (List Piece) := do
            let ps ← all w
            return if q then ps.map fun
              | .glyph g _ => .glyph ⟨g.char, true⟩ false
              | other => other
            else ps.map fun
              | .glyph g s => .glyph g (s || !g.quoted)
              | other => other
          match use with
          | .plain =>
              needed
              piecesOf q splitting value
          | .length =>
              needed
              match value with
              | .one v => return Piece.ofText q (!q) (Octets.ofNat (← lengthOf (v.getD [])))
              | .many vs _ =>
                  let whole := joinWith (← joiner) vs
                  let n := if bash then vs.length else whole.length
                  return Piece.ofText q (!q) (Octets.ofNat n)
          | .orElse e w => if isGiven bash e value then piecesOf q splitting value else standIn w
          | .instead e w =>
              if isGiven bash e value then standIn w
              else
                match value with
                | .many (_ :: _) _ => return if q then [.quotes] else []
                | _ => return []
          | .orSet e w =>
              if isGiven bash e value then piecesOf q splitting value
              else if !isName name then
                Run.fault (name ++ ": bad variable name".toList)
              else
                let t ← text w
                Run.setVariable name t
                return Piece.ofText q (!q) t
          | .orFail e w =>
              if isGiven bash e value then piecesOf q splitting value
              else
                let message ← text w
                let dflt :=
                  if bash then (if e then "parameter null or not set" else "parameter not set")
                  else if e then "parameter not set or null"
                  else "parameter not set"
                let shown := if w.isEmpty then dflt.toList else message
                Run.fault (name ++ ": ".toList ++ shown) (if bash then 1 else 2)
          | .cut front longest w =>
              needed
              let w ← tilde false w
              let gs := Piece.glyphs [] (← w.mapM (pieces h false n)).flatten
              let p := Pattern.ofGlyphs bash gs
              let cut (t : Octets) : Run Octets :=
                return if front then Pattern.dropFront p longest t else Pattern.dropBack p longest t
              match value, bash with
              | .many vs joined, false =>
                  if splitting && !(q && joined) then
                    piecesOf q splitting (.many (Pattern.dropAmong p front longest vs) joined)
                  else piecesOf q splitting (.one (some (← cut (joinWith (← joiner) vs))))
              | v, _ => do
                  let v ← Holding.mapM cut v
                  piecesOf q splitting v
          | .swap which w new =>
              needed
              let gs := Piece.glyphs [] (← w.mapM (pieces h false n)).flatten
              let p := Pattern.ofGlyphs true gs
              let new ← text new
              let swap (t : Octets) : Run Octets :=
                return (match which with
                  | '#' =>
                      match Pattern.longestFront? p t with
                      | some k => new ++ t.drop k
                      | none => t
                  | '%' =>
                      let kept := Pattern.dropBack p true t
                      if kept = t && !Pattern.fits p [] then t else kept ++ new
                  | c => if gs.isEmpty then t else Pattern.replace p (c = '/') new (t.length + 1) t)
              piecesOf q splitting (← Holding.mapM swap value)
          | .slice start length =>
              needed
              let i ← arithmetic (← text start)
              let k ←
                match length with
                | none => pure none
                | some w => some <$> (do arithmetic (← text w))
              match value with
              | .one v =>
                  let cut := stretch i k (Octets.toText (v.getD []))
                  piecesOf q splitting (.one (some (Octets.ofText cut)))
              | .many vs joined =>
                  let s ← Run.shell
                  let vs := if name = ['@'] || name = ['*'] then s.name :: vs else vs
                  let cut := stretch i k vs
                  let cut := if (name = ['@'] || name = ['*']) && i = 0 && cut.isEmpty then [] else cut
                  piecesOf q splitting (.many cut joined)
          | .letters upper first =>
              needed
              let turn (c : Char) : Char := if upper then c.toUpper else c.toLower
              let letters (t : Octets) : Run Octets :=
                return if first then t.map turn
                  else match t with
                    | c :: rest => turn c :: rest
                    | [] => []
              piecesOf q splitting (← Holding.mapM letters value)
          | .indirect =>
              match value with
              | .one (some other) =>
                  match ← special? other with
                  | some v => piecesOf q splitting v
                  | none => piecesOf q splitting (← held other none)
              | _ => return []
          | .indices =>
              match ← Run.variableOf? name with
              | some v =>
                  let es := v.elements.getD []
                  piecesOf q splitting (.many ((ordered v es).map (·.1)) (index = some ['*']))
              | none => return []
          | .requoted => piecesOf q splitting (← Holding.mapM (fun t => return singleQuoted t) value)
          | .bad =>
              if bash then Run.fault ("$\x7b".toList ++ name ++ "\x7d: bad substitution".toList) 1
              else Run.fault "Bad substitution".toList

/-- How deep words may lie in one another. -/
def wordDepth : Nat := 100

/-- The pieces of a word. -/
def wordPieces (h : Helper) (splitting : Bool) (w : Word) : Run (List Piece) := do
  return (← w.mapM (pieces h splitting wordDepth)).flatten

/-! ## Braces -/

/-- The places of the commas and of the closing brace that belong to an opening brace. -/
def braceMarks : Nat → Nat → List Glyph → Option (List Nat × Nat)
  | _, _, [] => none
  | i, depth, g :: rest =>
      let deeper :=
        if g.quoted then depth
        else if g.char = '{' then depth + 1
        else if g.char = '}' then depth - 1
        else depth
      if !g.quoted && g.char = '}' && depth = 0 then some ([], i)
      else
        let here := if !g.quoted && g.char = ',' && depth = 0 then [i] else []
        (braceMarks (i + 1) deeper rest).map fun (cs, k) => (here ++ cs, k)

/-- The numbers or letters from one to another. -/
def rangeWords (t : Octets) : Option (List Octets) :=
  let ends := t.takeWhile (· ≠ '.')
  match t.drop ends.length with
  | '.' :: '.' :: rest =>
      let second := rest.takeWhile (· ≠ '.')
      let step :=
        match rest.drop second.length with
        | '.' :: '.' :: s => (Arithmetic.wholeNumber? s).map fun i => i.natAbs
        | [] => some 1
        | _ => none
      match step with
      | none => none
      | some step =>
          let step := if step = 0 then 1 else step
          match Arithmetic.wholeNumber? ends, Arithmetic.wholeNumber? second, ends, second with
          | some a, some b, _, _ =>
              let digits (u : Octets) : Octets := u.dropWhile (· = '-')
              let padded := (fun (u : Octets) => u.length > 1 && u.head? = some '0')
              let width := if padded (digits ends) || padded (digits second) then
                max ends.length second.length else 0
              let count := (b - a).natAbs / step + 1
              some ((List.range count).map fun k =>
                let i := if a ≤ b then a + (k * step : Nat) else a - (k * step : Nat)
                let ds := Octets.ofNat i.natAbs
                let sign := if i < 0 then ['-'] else []
                sign ++ List.replicate (width - ds.length - sign.length) '0' ++ ds)
          | _, _, [a], [b] =>
              if a.isAlpha && b.isAlpha then
                let count := ((b.toNat : Int) - (a.toNat : Int)).natAbs / step + 1
                some ((List.range count).map fun k =>
                  [Char.ofNat (if a ≤ b then a.toNat + k * step else a.toNat - k * step)])
              else none
          | _, _, _, _ => none
  | _ => none

/-- The pieces of a list between some places. -/
def between {α : Type} (xs : List α) (start : Nat) : List Nat → Nat → List (List α)
  | [], stop => [(xs.drop start).take (stop - start)]
  | i :: rest, stop => (xs.drop start).take (i - start) :: between xs (i + 1) rest stop

/-- Replace the braces of a word.  A part that is no text counts as one quoted glyph, a number
into a list of parts. -/
def braceGlyphs : Nat → List Glyph → List (List Glyph)
  | 0, gs => [gs]
  | n + 1, gs =>
      let front := gs.takeWhile fun g => g.quoted || g.char ≠ '{'
      match gs.drop front.length with
      | [] => [gs]
      | open' :: rest =>
          let plain := (braceGlyphs n rest).map fun r => front ++ open' :: r
          if front.getLast? = some ⟨'$', false⟩ then plain
          else
            match braceMarks 0 0 rest with
            | none => plain
            | some (commas, stop) =>
                let after := braceGlyphs n (rest.drop (stop + 1))
                let body := rest.take stop
                if commas.isEmpty then
                  match rangeWords (unglyph body) with
                  | some ws =>
                      if body.any (·.quoted) then plain
                      else
                        ws.flatMap fun w => after.map fun r => front ++ glyphs false w ++ r
                  | none => plain
                else
                  ((between rest 0 commas stop).flatMap (braceGlyphs n)).flatMap fun w =>
                    after.map fun r => front ++ w ++ r

/-- A part as glyphs; one that is no text is a single glyph with its number. -/
def numbered (i : Nat) : Part → List Glyph
  | .text t q => glyphs q t
  | _ => [⟨Char.ofNat (0x10000 + i), true⟩]

/-- Glyphs as parts again. -/
def unnumbered (w : Word) (gs : List Glyph) : Word :=
  finished (gs.foldl
    (fun acc g =>
      if g.char.toNat ≥ 0x10000 then
        match w[g.char.toNat - 0x10000]? with
        | some p => p :: acc
        | none => acc
      else addChar g.quoted g.char acc)
    [])

/-- The words that braces make of a word. -/
def braces (w : Word) : List Word :=
  let gs := (w.zipIdx.map fun (p, i) => numbered i p).flatten
  if gs.any fun g => !g.quoted && g.char = '{' then
    let ws := (braceGlyphs (gs.length + 1) gs).map (unnumbered w)
    if ws.length ≤ 1 then [w] else ws
  else [w]

/-! ## Words -/

/-- A word as a text. -/
def text (h : Helper) (w : Word) : Run Octets := do
  let w ← tilde false w
  return unglyph (Piece.glyphs (← joiner) (← wordPieces h false w))

/-- The value of a setting. -/
def settingText (h : Helper) (w : Word) : Run Octets := do
  let w ← tildes (w.length + 100) w
  return unglyph (Piece.glyphs (← joiner) (← wordPieces h false w))

/-- A word as glyphs, for a pattern. -/
def pattern (h : Helper) (w : Word) : Run (List Element) := do
  let w ← tilde false w
  let bash : Bool := (← Run.shell).dialect = .bash
  return Pattern.ofGlyphs bash (Piece.glyphs [' '] (← wordPieces h false w))

/-- A word as a regular expression, in which what is quoted stands for itself. -/
def expression (h : Helper) (w : Word) : Run Octets := do
  let gs := Piece.glyphs [' '] (← wordPieces h false (← tilde false w))
  return gs.flatMap fun g =>
    if g.quoted && "\\^$.|?*+()[]\x7b\x7d".toList.contains g.char then ['\\', g.char] else [g.char]

/-- The paths that a field stands for, or the field itself. -/
def matched (gs : List Glyph) : Run (List Octets) := do
  let s ← Run.shell
  if s.flags.noglob || !Pattern.isActive gs then return [unglyph gs]
  else
    match Pattern.paths (← Run.machine).tree s.cwd (s.dialect = .bash) gs with
    | [] => if s.flags.nullglob then return [] else return [unglyph gs]
    | ps => return ps

/-- The fields of a word. -/
def fieldsOf (h : Helper) (w : Word) : Run (List Octets) := do
  let w ← tilde false w
  let fs := fields (← separators) (← wordPieces h true w)
  return (← fs.mapM matched).flatten

/-- The fields of some words. -/
def words (h : Helper) (ws : List Word) : Run (List Octets) := do
  let ws := if (← Run.shell).dialect = .bash then ws.flatMap braces else ws
  return (← ws.mapM (fieldsOf h)).flatten

end Expansion
end Shell
end AmbientBundle
