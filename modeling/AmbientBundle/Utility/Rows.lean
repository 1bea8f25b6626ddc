import AmbientBundle.Utility.Filters
import AmbientBundle.Utility.Test

/-!
# Utilities for lines and fields

`sort` compares lines by keys and, where the keys are alike, as a whole.  `uniq` looks
at neighbours only.  `cut` keeps some bytes or fields of each line, `paste` joins lines,
and `comm` compares two files that are in order.
-/

namespace AmbientBundle
namespace Utility

/-! ## Order -/

/-- How keys are compared. -/
structure KeyManner where
  /-- As numbers. -/
  numeric : Bool := false
  /-- Without regard to case. -/
  folded : Bool := false
  /-- Without blanks at the front. -/
  blanks : Bool := false
  /-- Letters, digits and blanks only. -/
  dictionary : Bool := false
  /-- Digits in a text as numbers. -/
  version : Bool := false
  /-- In the other order. -/
  reverse : Bool := false

/-- A place in a line: a field and a character in it. -/
structure KeyPlace where
  /-- The field, counted from one. -/
  field : Nat
  /-- The character, counted from one; zero stands for none. -/
  char : Nat := 0

/-- A key of a line. -/
structure SortKey where
  /-- Where it starts. -/
  start : KeyPlace := ⟨1, 1⟩
  /-- Where it ends, if not at the end of the line. -/
  stop : Option KeyPlace := none
  /-- How it is compared, if that is said. -/
  manner : Option KeyManner := none

/-- Add a letter to a manner. -/
def KeyManner.with? (m : KeyManner) : Char → Option KeyManner
  | 'n' => some { m with numeric := true }
  | 'g' => some { m with numeric := true }
  | 'h' => some { m with numeric := true }
  | 'f' => some { m with folded := true }
  | 'b' => some { m with blanks := true }
  | 'd' => some { m with dictionary := true }
  | 'V' => some { m with version := true }
  | 'r' => some { m with reverse := true }
  | 'i' => some m
  | _ => none

/-- A place and the letters after it. -/
def keyPlace? (t : Octets) : Option (KeyPlace × Octets) :=
  let ds := t.takeWhile Char.isDigit
  match Octets.toNat? ds with
  | none => none
  | some f =>
      match t.drop ds.length with
      | '.' :: rest =>
          let cs := rest.takeWhile Char.isDigit
          (Octets.toNat? cs).map fun c => (⟨f, c⟩, rest.drop cs.length)
      | rest => some (⟨f, 0⟩, rest)

/-- A key as it is given. -/
def sortKey? (t : Octets) : Option SortKey :=
  let front := t.takeWhile (· ≠ ',')
  let lettersOf (cs : Octets) (m : Option KeyManner) : Option (Option KeyManner) :=
    cs.foldl
      (fun acc c => acc.bind fun m => ((m.getD {}).with? c).map some)
      (some m)
  match keyPlace? front with
  | none => none
  | some (start, letters) =>
      if start.field = 0 then none
      else
        match lettersOf letters none with
        | none => none
        | some m =>
            match t.drop front.length with
            | [] => some ⟨start, none, m⟩
            | _ :: back =>
                match keyPlace? back with
                | none => none
                | some (stop, letters) =>
                    (lettersOf letters m).map fun m => ⟨start, some stop, m⟩

/-- Where each field of a line starts, and where it ends.  Without a separator a field has the
blanks in front of it. -/
def fieldBounds (sep : Option Char) (row : Octets) : List (Nat × Nat) :=
  match sep with
  | some c =>
      (Text.splitOn c row).foldl
        (fun (acc, at') f => (acc ++ [(at', at' + f.length)], at' + f.length + 1))
        (([] : List (Nat × Nat)), 0) |>.1
  | none => blankFields 0 0 false row
where
  /-- Fields that start with blanks. -/
  blankFields (start i : Nat) (inText : Bool) : Octets → List (Nat × Nat)
    | [] => [(start, i)]
    | c :: rest =>
        let blank := c = ' ' || c = '\t'
        if blank && inText then (start, i) :: blankFields i (i + 1) false rest
        else blankFields start (i + 1) (inText || !blank) rest

/-- The part of a line that is a key. -/
def SortKey.part (k : SortKey) (sep : Option Char) (blanks : Bool) (row : Octets) : Octets :=
  let bounds := fieldBounds sep row
  let skip (i stop : Nat) : Nat :=
    if blanks then i + ((row.drop i).take (stop - i)).length -
      (((row.drop i).take (stop - i)).dropWhile fun c => c = ' ' || c = '\t').length else i
  let start :=
    match bounds[k.start.field - 1]? with
    | none => row.length
    | some (a, b) => skip a b + (k.start.char - 1)
  let stop :=
    match k.stop with
    | none => row.length
    | some p =>
        match bounds[p.field - 1]? with
        | none => row.length
        | some (a, b) => if p.char = 0 then b else min row.length (skip a b + p.char)
  (row.drop start).take (stop - start)

/-- The number at the front of a text, with its fraction, as a sign, whole digits and others. -/
def leadingNumber (t : Octets) : Bool × Nat × Octets :=
  let t := t.dropWhile fun c => c = ' ' || c = '\t'
  let (negative, t) := match t with
    | '-' :: r => (true, r)
    | r => (false, r)
  let ds := t.takeWhile Char.isDigit
  let fraction := match t.drop ds.length with
    | '.' :: r => r.takeWhile Char.isDigit
    | _ => []
  (negative, (Octets.toNat? ds).getD 0, (fraction.reverse.dropWhile (· = '0')).reverse)

/-- Compare numbers at the front of texts. -/
def compareNumbers (a b : Octets) : Ordering :=
  let (an, ai, af) := leadingNumber a
  let (bn, bi, bf) := leadingNumber b
  let zero (i : Nat) (f : Octets) : Bool := i = 0 && f.isEmpty
  let magnitude : Ordering :=
    if ai < bi then .lt else if bi < ai then .gt
    else if Test.less af bf then .lt else if Test.less bf af then .gt else .eq
  match an && !zero ai af, bn && !zero bi bf with
  | false, false => magnitude
  | true, true => magnitude.swap
  | true, false => .lt
  | false, true => .gt

/-- Compare texts byte by byte. -/
def compareBytes (a b : Octets) : Ordering :=
  if Test.less a b then .lt else if Test.less b a then .gt else .eq

/-- Compare texts in which digits stand for numbers. -/
def compareVersions : Nat → Octets → Octets → Ordering
  | 0, a, b => compareBytes a b
  | n + 1, a, b =>
      let notDigit (c : Char) : Bool := !c.isDigit
      let (x, y) := (a.takeWhile notDigit, b.takeWhile notDigit)
      match compareBytes x y with
      | .eq =>
          let (a, b) := (a.drop x.length, b.drop y.length)
          if a.isEmpty || b.isEmpty then compareBytes a b
          else
            let (i, j) := (a.takeWhile Char.isDigit, b.takeWhile Char.isDigit)
            let (p, q) := ((Octets.toNat? i).getD 0, (Octets.toNat? j).getD 0)
            if p < q then .lt else if q < p then .gt
            else compareVersions n (a.drop i.length) (b.drop j.length)
      | o => o

/-- Compare keys. -/
def KeyManner.compare (m : KeyManner) (a b : Octets) : Ordering :=
  let prepared (t : Octets) : Octets :=
    let t := if m.blanks then t.dropWhile fun c => c = ' ' || c = '\t' else t
    let t := if m.dictionary then t.filter fun c => c.isAlphanum || c = ' ' || c = '\t' else t
    if m.folded then t.map Char.toUpper else t
  let o :=
    if m.numeric then compareNumbers a b
    else if m.version then compareVersions (a.length + 1) a b
    else compareBytes (prepared a) (prepared b)
  if m.reverse then o.swap else o

/-- Compare lines by keys. -/
def compareByKeys (sep : Option Char) (dflt : KeyManner) (a b : Octets) :
    List SortKey → Ordering
  | [] => .eq
  | k :: rest =>
      let m := k.manner.getD dflt
      match m.compare (k.part sep m.blanks a) (k.part sep m.blanks b) with
      | .eq => compareByKeys sep dflt a b rest
      | o => o

/-- Lines without those that are like the one before them. -/
def withoutRepeats (same : Octets → Octets → Bool) : List Octets → List Octets
  | a :: b :: rest =>
      if same a b then withoutRepeats same (a :: rest) else a :: withoutRepeats same (b :: rest)
  | rows => rows
termination_by rows => rows.length

/-- The options of `sort`. -/
def sortOptions : Options :=
  Options.of "bcCdfghik:mMno:rRsS:t:T:uVz"
    [("ignore-leading-blanks", 'b', .none), ("check", 'c', .maybe), ("dictionary-order", 'd', .none),
      ("ignore-case", 'f', .none), ("general-numeric-sort", 'g', .none),
      ("human-numeric-sort", 'h', .none), ("key", 'k', .one), ("merge", 'm', .none),
      ("numeric-sort", 'n', .none), ("output", 'o', .one), ("reverse", 'r', .none),
      ("stable", 's', .none), ("field-separator", 't', .one), ("unique", 'u', .none),
      ("version-sort", 'V', .none)]

/-- The first line that is out of order, and its number. -/
def disorder? (bad : Octets → Octets → Bool) : Nat → List Octets → Option (Nat × Octets)
  | n, a :: b :: rest => if bad a b then some (n + 1, b) else disorder? bad (n + 1) (b :: rest)
  | _, _ => none

/-- Sort lines. -/
def sort : Tool := fun name args =>
  sortOptions.handle name args (fun gs ops => do
    let keys := (gs.filter (·.1 = 'k')).map (·.2)
    match keys.find? fun k => (sortKey? k).isNone with
    | some k =>
        Work.refuse name
          ("invalid number at field start: invalid count at start of ".toList ++ curled k) 2
    | none =>
        let keys := keys.filterMap sortKey?
        let dflt := gs.foldl (fun (m : KeyManner) g => (m.with? g.1).getD m) {}
        let sep := (argumentOf? gs 't').bind List.head?
        let whole : List SortKey := if keys.isEmpty then [{}] else keys
        let byKeys (a b : Octets) : Ordering := compareByKeys sep dflt a b whole
        let full (a b : Octets) : Ordering :=
          match byKeys a b with
          | .eq =>
              if given gs 's' || given gs 'u' then .eq
              else if dflt.reverse then (compareBytes a b).swap
              else compareBytes a b
          | o => o
        let mut rows : List (List Octets) := []
        let mut failed := false
        for p in orInput ops do
          match ← Work.read p with
          | .ok t => rows := Octets.lines t :: rows
          | .error e =>
              failed := true
              let what := if e = .isDirectory then "read failed: " else "cannot read: "
              Work.refuse name (what.toList ++ shown p ++ ": ".toList ++ reason e) 2
              break
        if failed then pure ()
        else
          let all := rows.reverse.flatten
          if givenAny gs "cC" then
            let bad (a b : Octets) : Bool :=
              if given gs 'u' then full a b ≠ .lt else full a b = .gt
            match disorder? bad 1 all with
            | some (n, row) =>
                if given gs 'C' then Work.fail 1
                else
                  Work.refuse name ((ops.headD ['-']) ++ ':' :: Octets.ofNat n ++
                    ": disorder: ".toList ++ row)
            | none => pure ()
          else
            let sorted := all.mergeSort fun a b => full a b ≠ .gt
            let sorted :=
              if given gs 'u' then withoutRepeats (fun a b => byKeys a b = .eq) sorted else sorted
            let out := Octets.unlines sorted
            match argumentOf? gs 'o' with
            | none => Work.write out
            | some p =>
                match ← Work.save p out with
                | .ok () => pure ()
                | .error e =>
                    Work.refuse name ("open failed: ".toList ++ shown p ++ ": ".toList ++ reason e) 2)
    2

/-! ## Neighbours -/

/-- Lines that are alike next to each other, with their number. -/
def runs (same : Octets → Octets → Bool) : List Octets → List (Octets × Nat)
  | [] => []
  | row :: rest =>
      match runs same rest with
      | (r, n) :: more => if same row r then (row, n + 1) :: more else (row, 1) :: (r, n) :: more
      | [] => [(row, 1)]

/-- Lines without repeats. -/
def uniq : Tool := fun name args =>
  (Options.of "cdDf:is:uw:z" [("count", 'c', .none), ("repeated", 'd', .none),
      ("skip-fields", 'f', .one), ("ignore-case", 'i', .none), ("skip-chars", 's', .one),
      ("unique", 'u', .none), ("check-chars", 'w', .one)]).handle name args fun gs ops => do
    let skipFields := ((argumentOf? gs 'f').bind Octets.toNat?).getD 0
    let skipChars := ((argumentOf? gs 's').bind Octets.toNat?).getD 0
    let width := (argumentOf? gs 'w').bind Octets.toNat?
    let keyOf (row : Octets) : Octets :=
      let rest := (List.range skipFields).foldl
        (fun (t : Octets) _ => (t.dropWhile (fun c => c = ' ' || c = '\t')).dropWhile
          fun c => c ≠ ' ' && c ≠ '\t') row
      let rest := rest.drop skipChars
      let rest := (width.map rest.take).getD rest
      if given gs 'i' then rest.map Char.toLower else rest
    match ops with
    | _ :: _ :: extra :: _ => misused name ("extra operand ".toList ++ curled extra)
    | _ =>
        match ← Work.read (ops.headD ['-']) with
        | .error e => Work.refuse name (shown (ops.headD []) ++ ": ".toList ++ reason e)
        | .ok t =>
            let all := runs (fun a b => keyOf a = keyOf b) (Octets.lines t)
            let chosen := all.filter fun (_, n) =>
              if given gs 'd' then n > 1 && !given gs 'u' else if given gs 'u' then n = 1 else true
            let out := chosen.flatMap fun (row, n) =>
              (if given gs 'c' then atRight 7 n ++ [' '] else []) ++ row ++ ['\n']
            match ops with
            | [_, p] =>
                match ← Work.save p out with
                | .ok () => pure ()
                | .error e => Work.refuse name (shown p ++ ": ".toList ++ reason e)
            | _ => Work.write out

/-! ## Fields -/

/-- Ranges of numbers, or what is wrong with them. -/
def rangesOf (fields : Bool) (t : Octets) : Except Octets (List (Nat × Option Nat)) :=
  (Text.splitOn ',' t).mapM fun piece =>
    let low := piece.takeWhile Char.isDigit
    let back := piece.drop low.length
    let zero : Octets :=
      if fields then "fields are numbered from 1".toList
      else "byte/character positions are numbered from 1".toList
    let bad : Octets :=
      (if fields then "invalid field value " else "invalid byte/character position ").toList ++
        curled piece
    match back with
    | [] =>
        match Octets.toNat? low with
        | some 0 => .error zero
        | some n => .ok (n, some n)
        | none => .error (if fields then "fields are numbered from 1".toList else zero)
    | '-' :: high =>
        if low.isEmpty && high.isEmpty then .error "invalid range with no endpoint: -".toList
        else
          match Octets.toNat? low, Octets.toNat? high with
          | some 0, _ => .error zero
          | some a, some b => if b < a then .error "invalid decreasing range".toList else .ok (a, some b)
          | some a, none => if high.isEmpty then .ok (a, none) else .error bad
          | none, some b => if low.isEmpty then .ok (1, some b) else .error bad
          | none, none => .error bad
    | _ => .error bad

/-- Whether a number is in one of some ranges. -/
def inRanges (rs : List (Nat × Option Nat)) (complement : Bool) (n : Nat) : Bool :=
  (rs.any fun (a, b) => a ≤ n && (b.map fun b => decide (n ≤ b)).getD true) != complement

/-- Keep parts of lines. -/
def cut : Tool := fun name args =>
  (Options.of "b:c:d:f:nsz" [("bytes", 'b', .one), ("characters", 'c', .one),
      ("delimiter", 'd', .one), ("fields", 'f', .one), ("only-delimited", 's', .none),
      ("complement", '1', .none), ("output-delimiter", '2', .one)]).handle name args
    fun gs ops => do
      let chosen := gs.filter fun g => "bcf".toList.contains g.1
      let delimiter := argumentOf? gs 'd'
      match chosen with
      | [] =>
          misused name "you must specify a list of bytes, characters, or fields".toList
      | (kind, list) :: more =>
          let fields := kind = 'f'
          if !more.isEmpty then misused name "only one list may be specified".toList
          else if delimiter.isSome && (delimiter.getD []).length > 1 then
            misused name "the delimiter must be a single character".toList
          else if delimiter.isSome && !fields then
            misused name
              "an input delimiter may be specified only when operating on fields".toList
          else if given gs 's' && !fields then
            misused name
              "suppressing non-delimited lines makes sense\n\tonly when operating on fields".toList
          else
            match rangesOf fields list with
            | .error t => misused name t
            | .ok rs =>
                let complement := given gs '1'
                let sep := ((delimiter.bind List.head?).getD '\t')
                let join := (argumentOf? gs '2').getD (if fields then [sep] else [])
                let one (row : Octets) : Option Octets :=
                  if fields then
                    if row.contains sep then
                      let parts := Text.splitOn sep row
                      some (List.intercalate join ((parts.zipIdx.filter fun (_, i) =>
                        inRanges rs complement (i + 1)).map (·.1)))
                    else if given gs 's' then none
                    else some row
                  else
                    some ((row.zipIdx.filter fun (_, i) => inRanges rs complement (i + 1)).map (·.1))
                readEach name ops fun _ t =>
                  Work.write (Octets.unlines ((Octets.lines t).filterMap one))

/-- Separators of `paste`. -/
def separatorsOf : Octets → List Octets
  | '\\' :: 'n' :: rest => ['\n'] :: separatorsOf rest
  | '\\' :: 't' :: rest => ['\t'] :: separatorsOf rest
  | '\\' :: '0' :: rest => [] :: separatorsOf rest
  | '\\' :: c :: rest => [c] :: separatorsOf rest
  | c :: rest => [c] :: separatorsOf rest
  | [] => []

/-- Texts with separators between them, taken in turn. -/
def joinInTurn (seps : List Octets) : Nat → List Octets → Octets
  | _, [] => []
  | _, [t] => t
  | i, t :: rest => t ++ (seps[i % max seps.length 1]?).getD [] ++ joinInTurn seps (i + 1) rest

/-- Join lines of files. -/
def paste : Tool := fun name args =>
  (Options.of "d:sz" [("delimiters", 'd', .one), ("serial", 's', .none)]).handle name args
    fun gs ops => do
      let seps := separatorsOf ((argumentOf? gs 'd').getD ['\t'])
      let mut tables : List (List Octets) := []
      let mut failed := false
      let inputs := orInput ops
      let shared := (inputs.filter (· = ['-'])).length
      let mut hyphens := 0
      let input := (← get).input
      for p in inputs do
        if p = ['-'] && shared > 1 && !given gs 's' then
          let rows := Octets.lines input
          let k := hyphens
          tables := ((rows.zipIdx.filter fun (_, i) => i % shared = k).map (·.1)) :: tables
          hyphens := hyphens + 1
          modify fun d => { d with input := [] }
        else
          match ← Work.read p with
          | .ok t => tables := Octets.lines t :: tables
          | .error e =>
              Work.refuse name (shown p ++ ": ".toList ++ reason e)
              if !given gs 's' then failed := true
      let table := tables.reverse
      if failed then pure ()
      else if given gs 's' then
        table.forM fun rows => Work.writeLine (joinInTurn seps 0 rows)
      else
        let height := (table.map List.length).foldl max 0
        (List.range height).forM fun i =>
          Work.writeLine (joinInTurn seps 0 (table.map fun rows => (rows[i]?).getD []))

/-! ## Two files -/

/-- Lines in order of two lists, with the column each belongs to. -/
def merged : Nat → List Octets → List Octets → List (Nat × Octets)
  | 0, _, _ => []
  | _, [], [] => []
  | n + 1, a :: as, [] => (1, a) :: merged n as []
  | n + 1, [], b :: bs => (2, b) :: merged n [] bs
  | n + 1, a :: as, b :: bs =>
      match compareBytes a b with
      | .lt => (1, a) :: merged n as (b :: bs)
      | .gt => (2, b) :: merged n (a :: as) bs
      | .eq => (3, a) :: merged n as bs

/-- Compare two files that are in order. -/
def comm : Tool := fun name args =>
  (Options.of "123z" [("check-order", 'c', .none), ("nocheck-order", 'n', .none)]).handle name args
    fun gs ops => do
      match ops with
      | [] => misused name "missing operand".toList
      | [a] => misused name ("missing operand after ".toList ++ curled a)
      | [a, b] =>
          match ← Work.read a, ← Work.read b with
          | .error e, _ => Work.refuse name (shown a ++ ": ".toList ++ reason e)
          | _, .error e => Work.refuse name (shown b ++ ": ".toList ++ reason e)
          | .ok s, .ok t =>
              let (s, t) := (Octets.lines s, Octets.lines t)
              let tabs (column : Nat) : Octets :=
                List.replicate
                  ((if column > 1 && !given gs '1' then 1 else 0) +
                    (if column > 2 && !given gs '2' then 1 else 0)) '\t'
              (merged (s.length + t.length + 1) s t).forM fun (column, row) =>
                if given gs (Char.ofNat (48 + column)) then pure ()
                else Work.writeLine (tabs column ++ row)
      | _ :: _ :: extra :: _ => misused name ("extra operand ".toList ++ curled extra)

/-- The first place where two texts differ: the byte and the line. -/
def firstDifference : Nat → Nat → Octets → Octets → Option (Nat × Nat × Bool × Bool)
  | _, _, [], [] => none
  | i, l, [], _ :: _ => some (i, l, true, false)
  | i, l, _ :: _, [] => some (i, l, false, true)
  | i, l, a :: as, b :: bs =>
      if a = b then firstDifference (i + 1) (if a = '\n' then l + 1 else l) as bs
      else some (i, l, false, false)

/-- Compare two files byte by byte. -/
def cmp : Tool := fun name args =>
  (Options.of "bilsn:" [("silent", 's', .none), ("quiet", 's', .none), ("verbose", 'l', .none)]).handle
    name args (fun gs ops => do
      match ops with
      | [] => misused name "missing operand after 'cmp'".toList 2
      | [a] => misused name ("missing operand after ".toList ++ quoted a) 2
      | a :: b :: _ =>
          let quiet := given gs 's'
          let refuse (p : Octets) (e : Errno) : Work Unit :=
            if quiet && e = .noEntry then Work.fail 2
            else Work.refuse name (shown p ++ ": ".toList ++ reason e) 2
          match ← Work.read a, ← Work.read b with
          | .error e, _ => refuse a e
          | _, .error e => refuse b e
          | .ok s, .ok t =>
              match firstDifference 1 1 s t with
              | none => pure ()
              | some (i, l, endA, endB) =>
                  Work.fail 1
                  if quiet then pure ()
                  else if endA || endB then
                    let short := if endA then a else b
                    if i = 1 then
                      Work.rawComplaint (name ++ ": EOF on ".toList ++ quoted short ++
                        " which is empty\n".toList)
                    else
                      let last := (if endA then s else t).getLast?
                      let row := if last = some '\n' then "line ".toList ++ Octets.ofNat (l - 1)
                        else "in line ".toList ++ Octets.ofNat l
                      Work.rawComplaint (name ++ ": EOF on ".toList ++ quoted short ++
                        " after byte ".toList ++ Octets.ofNat (i - 1) ++ ", ".toList ++ row ++ ['\n'])
                  else
                    Work.writeLine (a ++ ' ' :: b ++ " differ: byte ".toList ++ Octets.ofNat i ++
                      ", line ".toList ++ Octets.ofNat l))
    2

end Utility
end AmbientBundle
