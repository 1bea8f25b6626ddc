import AmbientBundle.Base64
import AmbientBundle.Utility.Work

/-!
# Utilities that pass files on

They read files one after the other, or the input if none is named, and write what
they make of them.  A file that cannot be read is told and passed over.
-/

namespace AmbientBundle
namespace Utility

/-- Whether an input leads where the output goes. -/
def isOutput (p : Octets) : Work Bool := do
  let d ← get
  match d.outputFile with
  | none => return false
  | some place =>
      let source ←
        if p = ['-'] then pure d.inputFile
        else do
          match ← Work.stat p with
          | .ok (s, .file ..) => pure (some s.place)
          | _ => pure none
      return source = some place && (match d.tree.get? place with
        | some (.file c _) => !c.isEmpty
        | _ => false)

/-- The input if no file is named. -/
def orInput (files : List Octets) : List Octets := if files.isEmpty then [['-']] else files

/-- Read files one after the other, and complain about those that cannot be read. -/
def readEach (name : Octets) (files : List Octets) (go : Octets → Octets → Work Unit)
    (complaint : Octets → Errno → Octets := fun p e => shown p ++ ": ".toList ++ reason e) :
    Work Unit :=
  (orInput files).forM fun p => do
    match ← Work.read p with
    | .ok t => go p t
    | .error e => Work.refuse name (complaint p e)

/-! ## Whole files -/

/-- A byte as it is made visible. -/
def visible (tabs : Bool) (c : Char) : Octets :=
  let n := c.toNat
  let low (n : Nat) : Octets :=
    if n < 32 then ['^', Char.ofNat (n + 64)] else if n = 127 then ['^', '?'] else [Char.ofNat n]
  if c = '\t' then (if tabs then ['^', 'I'] else [c])
  else if n ≥ 128 then 'M' :: '-' :: low (n - 128)
  else low n

/-- A number at the right of some columns. -/
def atRight (width n : Nat) : Octets :=
  let ds := Octets.ofNat n
  List.replicate (width - ds.length) ' ' ++ ds

/-- How `cat` changes what it passes on. -/
structure CatManner where
  /-- Number all lines. -/
  number : Bool
  /-- Number the lines that are not empty. -/
  numberFull : Bool
  /-- Mark the ends of lines. -/
  ends : Bool
  /-- Make tabs visible. -/
  tabs : Bool
  /-- Make other bytes visible. -/
  others : Bool
  /-- Keep one of several empty lines. -/
  squeeze : Bool

/-- Where `cat` stands. -/
structure CatState where
  /-- The number of the last line. -/
  count : Nat := 0
  /-- Whether a line starts. -/
  atStart : Bool := true
  /-- How many empty lines came last. -/
  empty : Nat := 0

/-- Pass on one piece of a line, and whether it has its end. -/
def CatManner.piece (m : CatManner) (s : CatState) (t : Octets) (ended : Bool) : Octets × CatState :=
  let isEmpty := s.atStart && t.isEmpty && ended
  if isEmpty && m.squeeze && s.empty ≥ 1 then ([], { s with empty := s.empty + 1 })
  else
    let numbered := s.atStart && (if m.numberFull then !isEmpty else m.number)
    let count := if numbered then s.count + 1 else s.count
    let front := if numbered then atRight 6 count ++ ['\t'] else []
    let body := t.flatMap fun c =>
      if m.others then visible m.tabs c else if m.tabs && c = '\t' then ['^', 'I'] else [c]
    let back := if ended then (if m.ends then ['$', '\n'] else ['\n']) else []
    (front ++ body ++ back,
      { count, atStart := ended, empty := if isEmpty then s.empty + 1 else 0 })

/-- Pass on a text. -/
def CatManner.text (m : CatManner) (s : CatState) (t : Octets) : Octets × CatState :=
  let rows := Text.splitOn '\n' t
  let last := rows.getLastD []
  let (out, s) := rows.dropLast.foldl
    (fun (acc, s) row =>
      let (o, s) := m.piece s row true
      (o :: acc, s))
    (([] : List Octets), s)
  let (o, s) := if last.isEmpty then ([], s) else m.piece s last false
  (out.reverse.flatten ++ o, s)

/-- Pass files on. -/
def cat : Tool := fun name args =>
  (Options.of "AbeEnstTuv" [("show-all", 'A', .none), ("number-nonblank", 'b', .none),
      ("show-ends", 'E', .none), ("number", 'n', .none), ("squeeze-blank", 's', .none),
      ("show-tabs", 'T', .none), ("show-nonprinting", 'v', .none)]).handle name args fun gs ops => do
    let m : CatManner :=
      { number := given gs 'n', numberFull := given gs 'b', ends := givenAny gs "AeE"
        tabs := givenAny gs "AtT", others := givenAny gs "Aetv", squeeze := given gs 's' }
    let plain := gs.isEmpty || gs.all (·.1 = 'u')
    let mut state : CatState := {}
    for p in orInput ops do
      match ← Work.read p with
      | .error e => Work.refuse name (shown p ++ ": ".toList ++ reason e)
      | .ok t =>
          if ← isOutput p then
            Work.refuse name (shown p ++ ": input file is output file".toList)
          else if plain then Work.write t
          else
            let (out, s) := m.text state t
            state := s
            Work.write out

/-- Write the input to files as well. -/
def tee : Tool := fun name args =>
  (Options.of "aip" [("append", 'a', .none), ("ignore-interrupts", 'i', .none)]).handle name args
    fun gs ops => do
      let t ← Work.takeInput
      let mut targets : List Octets := []
      for p in ops do
        if p = "/dev/stderr".toList || p = "/dev/stdout".toList then targets := p :: targets
        else
          let old ← if given gs 'a' then Work.read p else pure (.error .noEntry)
          let content := match old with
            | .ok o => o ++ t
            | .error _ => t
          match ← Work.save p content with
          | .ok () => pure ()
          | .error e => Work.refuse name (shown p ++ ": ".toList ++ reason e)
      Work.write t
      for p in targets.reverse do
        if p = "/dev/stderr".toList then Work.rawComplaint t else Work.write t

/-! ## Starts and ends -/

/-- A number of lines or bytes: how many, and a sign in front of it. -/
def countOf? (t : Octets) : Option (Char × Nat) :=
  let (sign, rest) :=
    match t with
    | '-' :: r => ('-', r)
    | '+' :: r => ('+', r)
    | r => (' ', r)
  let ds := rest.takeWhile Char.isDigit
  let unit :=
    match rest.drop ds.length with
    | [] => some 1
    | ['b'] => some 512
    | ['k'] => some 1024
    | ['K'] => some 1024
    | ['m'] => some 1048576
    | ['M'] => some 1048576
    | ['k', 'B'] => some 1000
    | _ => none
  match Octets.toNat? ds, unit with
  | some n, some u => some (sign, n * u)
  | _, _ => none

/-- Lines with their ends; the last one may have none. -/
def rowsOf (t : Octets) : List Octets :=
  let rows := Text.splitOn '\n' t
  let last := rows.getLastD []
  rows.dropLast.map (· ++ ['\n']) ++ if last.isEmpty then [] else [last]

/-- Write a name above the part of a file. -/
def header (first : Bool) (p : Octets) : Octets :=
  let title := if p = ['-'] then "standard input".toList else p
  (if first then [] else ['\n']) ++ "==> ".toList ++ title ++ " <==\n".toList

/-- Write a part of each file. -/
def partOfEach (name : Octets) (gs : List GivenOption) (files : List Octets)
    (part : Octets → Octets) : Work Unit := do
  let files := orInput files
  let titled := given gs 'v' || (files.length > 1 && !given gs 'q')
  let mut first := true
  for p in files do
    match ← Work.stat p, p with
    | .error e, p =>
        if p = ['-'] then
          let t := (← get).input
          let out := part t
          if titled then Work.write (header first p)
          first := false
          Work.write out
          -- From a file no more is taken than is written from its start.
          modify fun d =>
            { d with input := if d.inputFile.isSome && Text.startsWith t out
                then t.drop out.length else [] }
        else
          Work.refuse name ("cannot open ".toList ++ quoted p ++ " for reading: ".toList ++ reason e)
    | .ok (_, .dir _), p =>
        if titled then Work.write (header first p)
        first := false
        Work.refuse name ("error reading ".toList ++ quoted p ++ ": Is a directory".toList)
    | .ok (_, .file c _), p =>
        if titled then Work.write (header first p)
        first := false
        Work.write (part (Octets.ofBytes c))

/-- Arguments with a first one that is an old form of an option written in full. -/
def modernCount (plus : Bool) : List Octets → List Octets
  | ('-' :: c :: cs) :: rest =>
      if c.isDigit then
        let ds := (c :: cs).takeWhile Char.isDigit
        let letter := (c :: cs).drop ds.length
        if letter = ['c'] then ['-', 'c'] :: ds :: rest
        else if letter = [] || letter = ['l'] then ['-', 'n'] :: ds :: rest
        else ('-' :: c :: cs) :: rest
      else ('-' :: c :: cs) :: rest
  | ('+' :: c :: cs) :: rest =>
      if plus && c.isDigit then
        let ds := (c :: cs).takeWhile Char.isDigit
        let letter := (c :: cs).drop ds.length
        (if letter = ['c'] then ['-', 'c'] else ['-', 'n']) :: ('+' :: ds) :: rest
      else ('+' :: c :: cs) :: rest
  | args => args

/-- The options of `head` and `tail`. -/
def partOptions : Options :=
  Options.of "c:n:qvzfFs:"
    [("bytes", 'c', .one), ("lines", 'n', .one), ("quiet", 'q', .none), ("silent", 'q', .none),
      ("verbose", 'v', .none), ("zero-terminated", 'z', .none), ("follow", 'f', .maybe),
      ("retry", 'F', .none)]

/-- Write parts of files, as a count of lines or bytes says. -/
def partTool (go : Bool → Char → Nat → Octets → Octets) (plus : Bool) : Tool := fun name args =>
  partOptions.handle name (modernCount plus args) fun gs ops => do
    let bytes := lastOf? gs "cn" = some 'c'
    let count := (argumentOf? gs (if bytes then 'c' else 'n')).getD ['1', '0']
    match countOf? count with
    | none =>
        let kind := if bytes then "bytes" else "lines"
        Work.refuse name ("invalid number of ".toList ++ kind.toList ++ ": ".toList ++ curled count)
    | some (sign, n) => partOfEach name gs ops (go bytes sign n)

/-- The starts of files. -/
def head : Tool :=
  partTool
    (fun bytes sign n t =>
      if bytes then (if sign = '-' then t.take (t.length - n) else t.take n)
      else
        let rows := rowsOf t
        (if sign = '-' then rows.take (rows.length - n) else rows.take n).flatten)
    false

/-- The ends of files. -/
def tail : Tool :=
  partTool
    (fun bytes sign n t =>
      if bytes then (if sign = '+' then t.drop (n - 1) else t.drop (t.length - n))
      else
        let rows := rowsOf t
        (if sign = '+' then rows.drop (n - 1) else rows.drop (rows.length - n)).flatten)
    true

/-! ## Counting -/

/-- Lines, words, characters, bytes and the longest line of a text. -/
structure Counts where
  /-- Lines. -/
  lines : Nat := 0
  /-- Words. -/
  words : Nat := 0
  /-- Characters. -/
  chars : Nat := 0
  /-- Bytes. -/
  bytes : Nat := 0
  /-- The columns of the longest line. -/
  longest : Nat := 0

/-- Whether a byte separates words. -/
def isGap (c : Char) : Bool := c = ' ' || ('\t' ≤ c && c ≤ '\r')

/-- The columns of a line. -/
def columns (row : Octets) : Nat :=
  (Octets.toText row).foldl (fun n c => if c = '\t' then n + 8 - n % 8 else if c.toNat < 32 then n
    else n + 1) 0

/-- Count a text. -/
def Counts.ofText (t : Octets) : Counts :=
  { lines := t.count '\n'
    words := (t.foldl (fun (n, inWord) c =>
      if isGap c then (n, false) else (if inWord then n else n + 1, true)) ((0 : Nat), false)).1
    chars := (Octets.toText t).length
    bytes := t.length
    longest := ((Text.splitOn '\n' t).map columns).foldl max 0 }

/-- Counts together. -/
def Counts.add (a b : Counts) : Counts :=
  ⟨a.lines + b.lines, a.words + b.words, a.chars + b.chars, a.bytes + b.bytes,
    max a.longest b.longest⟩

/-- The counts that are shown. -/
def Counts.shownFor (gs : List GivenOption) (c : Counts) : List Nat :=
  let plain := !givenAny gs "lwmcL"
  (if plain || given gs 'l' then [c.lines] else []) ++
    (if plain || given gs 'w' then [c.words] else []) ++
    (if given gs 'm' then [c.chars] else []) ++
    (if plain || given gs 'c' then [c.bytes] else []) ++
    (if given gs 'L' then [c.longest] else [])

/-- Count lines, words and bytes of files. -/
def wc : Tool := fun name args =>
  (Options.of "clmwL" [("bytes", 'c', .none), ("lines", 'l', .none), ("chars", 'm', .none),
      ("words", 'w', .none), ("max-line-length", 'L', .none), ("total", 't', .one)]).handle name args
    fun gs ops => do
      let d ← get
      let files := orInput ops
      let sizes ← files.mapM fun p => do
        if p = ['-'] then
          return if d.inputFile.isSome then some (d.input.length, 1) else some (0, 7)
        else
          match ← Work.stat p with
          | .ok (_, .file c _) => return some (c.length, 1)
          | .ok (_, .dir _) => return some (0, 7)
          | .error _ => return none
      let one := files.length = 1 && (Counts.shownFor gs {}).length = 1
      let known := sizes.filterMap id
      let total := (known.map (·.1)).foldl (· + ·) 0
      let least := (known.map (·.2)).foldl max 1
      let width := if one || (sizes.head?.join).isNone then 1 else max least (Octets.ofNat total).length
      let row (c : Counts) (title : Option Octets) : Octets :=
        List.intercalate [' '] ((Counts.shownFor gs c).map (atRight width)) ++
          (title.map (' ' :: ·)).getD []
      let mut sum : Counts := {}
      for p in files do
        match ← Work.read p with
        | .ok t =>
            let c := Counts.ofText t
            sum := sum.add c
            Work.writeLine (row c (if ops.isEmpty then none else some p))
        | .error e =>
            Work.refuse name (shown p ++ ": ".toList ++ reason e)
            if e = .isDirectory then Work.writeLine (row {} (some p))
      if files.length > 1 then Work.writeLine (row sum (some "total".toList))

/-! ## Lines -/

/-- Lines in the other order. -/
def tac : Tool := fun name args => do
  let mut out : List Octets := []
  for p in orInput (args.filter (· ≠ ['-', '-'])) do
    match ← Work.read p with
    | .ok t => out := (rowsOf t).reverse.flatten :: out
    | .error e =>
        let what := if e = .isDirectory then "read error" else "failed to open"
        if e = .isDirectory then
          Work.refuse name (shown p ++ ": ".toList ++ what.toList ++ ": ".toList ++ reason e)
        else
          Work.refuse name ("failed to open ".toList ++ quoted p ++ " for reading: ".toList ++ reason e)
  Work.write out.reverse.flatten

/-- The characters of each line in the other order. -/
def rev : Tool := fun name args => do
  let mut out : List Octets := []
  for p in orInput args do
    match ← Work.read p with
    | .ok t =>
        let turned := (rowsOf t).map fun row =>
          if row.getLast? = some '\n' then
            Octets.ofText (Octets.toText row.dropLast).reverse ++ ['\n']
          else Octets.ofText (Octets.toText row).reverse
        out := turned.flatten :: out
    | .error e => Work.refuse name ("cannot open ".toList ++ p ++ ": ".toList ++ reason e)
  Work.write out.reverse.flatten

/-- Number lines. -/
def nl : Tool := fun name args =>
  (Options.of "b:d:f:h:i:l:n:ps:v:w:" [("body-numbering", 'b', .one), ("number-width", 'w', .one),
      ("number-separator", 's', .one), ("starting-line-number", 'v', .one),
      ("line-increment", 'i', .one), ("number-format", 'n', .one)]).handle name args fun gs ops => do
    let all := argumentOf? gs 'b' = some ['a']
    let never := argumentOf? gs 'b' = some ['n']
    let width := ((argumentOf? gs 'w').bind Octets.toNat?).getD 6
    let gap := (argumentOf? gs 's').getD ['\t']
    let step := ((argumentOf? gs 'i').bind Octets.toNat?).getD 1
    let mut next := ((argumentOf? gs 'v').bind Octets.toNat?).getD 1
    let form := (argumentOf? gs 'n').getD "rn".toList
    for p in orInput ops do
      match ← Work.read p with
      | .error e => Work.refuse name (shown p ++ ": ".toList ++ reason e)
      | .ok t =>
          for row in Octets.lines t do
            if !never && (all || !row.isEmpty) then
              let ds := Octets.ofNat next
              let filler := List.replicate (width - ds.length)
              let shownNumber :=
                if form = "ln".toList then ds ++ filler ' '
                else if form = "rz".toList then filler '0' ++ ds
                else filler ' ' ++ ds
              Work.writeLine (shownNumber ++ gap ++ row)
              next := next + step
            else Work.writeLine (List.replicate (width + gap.length) ' ' ++ row)

/-- A line cut to a width. -/
def foldRow (width : Nat) (spaces : Bool) : Nat → Octets → List Octets
  | 0, row => [row]
  | n + 1, row =>
      if row.length ≤ width then [row]
      else
        let front := row.take width
        let back := front.reverse.dropWhile (· ≠ ' ')
        let front := if spaces && !back.isEmpty then back.reverse else front
        front :: foldRow width spaces n (row.drop front.length)

/-- Cut long lines. -/
def fold : Tool := fun name args =>
  (Options.of "bsw:" [("bytes", 'b', .none), ("spaces", 's', .none), ("width", 'w', .one)]).handle
    name (match modernCount false args with
      | ['-', 'n'] :: w :: rest => ['-', 'w'] :: w :: rest
      | other => other) fun gs ops => do
    let width := ((argumentOf? gs 'w').bind Octets.toNat?).getD 80
    readEach name ops fun _ t => do
      let rows := rowsOf t
      rows.forM fun row => do
        let ended := row.getLast? = some '\n'
        let body := if ended then row.dropLast else row
        let pieces := foldRow (max width 1) (given gs 's') (body.length + 1) body
        Work.write (List.intercalate ['\n'] pieces ++ if ended then ['\n'] else [])

/-- The input in base 64. -/
def base64 : Tool := fun name args =>
  (Options.of "diw:" [("decode", 'd', .none), ("wrap", 'w', .one), ("ignore-garbage", 'i', .none)]).handle
    name args fun gs ops => do
      let width := ((argumentOf? gs 'w').bind Octets.toNat?).getD 76
      match ops with
      | _ :: extra :: _ => misused name ("extra operand ".toList ++ curled extra)
      | _ =>
          match ← Work.read (ops.headD ['-']) with
          | .error e => Work.refuse name (shown (ops.headD []) ++ ": ".toList ++ reason e)
          | .ok t =>
              if given gs 'd' then
                match Base64.decode (t.filter (· ≠ '\n')) with
                | .ok bytes => Work.write (Octets.ofBytes bytes)
                | .error _ => Work.refuse name "invalid input".toList
              else
                let body := Base64.encode (Octets.toBytes t)
                let rows := if width = 0 then [body] else foldRow width false (body.length + 1) body
                if width = 0 then Work.write body
                else if body.isEmpty then pure ()
                else Work.write (Octets.unlines rows)

/-- The same line again and again, as far as anybody can want. -/
def yes : Tool := fun _ args => do
  let line := (if args.isEmpty then ['y'] else List.intercalate [' '] args) ++ ['\n']
  Work.write (List.replicate (400000 / line.length + 1) line).flatten

end Utility
end AmbientBundle
