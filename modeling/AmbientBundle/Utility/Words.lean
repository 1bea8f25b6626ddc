import AmbientBundle.Shell.Format
import AmbientBundle.Utility.Filters
import AmbientBundle.Utility.Regex
import AmbientBundle.Utility.Test

/-!
# Utilities for words and numbers

They work on their arguments: names of files are taken apart, numbers are counted, and
expressions are worked out.
-/

namespace AmbientBundle
namespace Utility

/-- Succeed. -/
def trueTool : Tool := fun _ _ => pure ()

/-- Fail. -/
def falseTool : Tool := fun _ _ => Work.fail 1

/-- Write arguments. -/
def echoTool : Tool := fun _ args => Work.write (Shell.Format.echoText .tool args)

/-- How the program `printf` complains. -/
def printfManner : Shell.Format.Manner :=
  { hex := true, sizes := true, strict := true
    quotes := true
    quote := shown
    noNumber := fun t => curled t ++ ": expected a numeric value".toList
    halfNumber := fun t => curled t ++ ": value not completely converted".toList
    tooLarge := fun t => curled t ++ ": Numerical result out of range".toList
    badDirective := fun t => t ++ ": invalid conversion specification".toList
    noLetter := fun t => t ++ ": invalid conversion specification".toList
    emptyNumber := some (curled [] ++ ": expected a numeric value".toList) }

/-- Write arguments as a format says. -/
def printfTool : Tool := fun name args => do
  let args := if args.head? = some ['-', '-'] then args.tail else args
  match args with
  | [] => misused name "missing operand".toList
  | format :: args =>
      let p := Shell.Format.run printfManner format args
      p.complaints.reverse.forM (Work.complain name)
      Work.write p.text
      if p.complaints.isEmpty then pure () else Work.fail 1

/-- What tests ask about files. -/
def testFiles : Work Test.Files := do
  let d ← get
  let stat (p : Octets) : Option (Spot × Entry) :=
    match d.tree.statText d.cwd (Octets.toText p) with
    | .ok r => some r
    | .error _ => none
  return {
    look := fun p => (stat p).map (·.2)
    same := fun a b =>
      match stat a, stat b with
      | some (x, _), some (y, _) => x = y
      | _, _ => false }

/-- What is said of a test without a value. -/
def troubleText : Test.Trouble → Octets
  | .notNumber w => "invalid integer ".toList ++ curled w
  | .notUnary _ w => "missing argument after ".toList ++ curled w
  | .notBinary t => curled t ++ ": binary operator expected".toList
  | .tooMany w => "extra argument ".toList ++ curled w

/-- Answer a test. -/
def testTool : Tool := fun name args => do
  let bracket := lastName name = ['[']
  if bracket && args.getLast? ≠ some [']'] then
    Work.refuse name ("missing ".toList ++ curled [']']) 2
  else
    let args := if bracket then args.dropLast else args
    match Test.byNumber (← testFiles) (args.length + 2) args with
    | .ok r => Work.fail (if r then 0 else 1)
    | .error t => Work.refuse name (troubleText t) 2

/-! ## Names -/

/-- A last name without an ending. -/
def withoutEnding (t ending : Octets) : Octets :=
  if t ≠ ending && Octets.endsWith t ending then t.take (t.length - ending.length) else t

/-- The last names of paths. -/
def basename : Tool := fun name args =>
  { Options.of "as:z" [("multiple", 'a', .none), ("suffix", 's', .one), ("zero", 'z', .none)] with
    strict := true }.handle name args fun gs ops => do
      let many := givenAny gs "as"
      let ending := (argumentOf? gs 's').getD []
      let stop := if given gs 'z' then ['\x00'] else ['\n']
      match ops with
      | [] => misused name "missing operand".toList
      | p :: rest =>
          if many then ops.forM fun p => Work.write (withoutEnding (lastName p) ending ++ stop)
          else
            match rest with
            | [] => Work.write (lastName p ++ stop)
            | [e] => Work.write (withoutEnding (lastName p) e ++ stop)
            | _ :: extra :: _ => misused name ("extra operand ".toList ++ curled extra)

/-- The directory of a path. -/
def directoryOf (p : Octets) : Octets :=
  let body := p.reverse.dropWhile (· = '/')
  let front := (body.dropWhile (· ≠ '/'))
  let up := (front.dropWhile (· = '/')).reverse
  if !up.isEmpty then up
  else if p.head? = some '/' then ['/']
  else ['.']

/-- The directories of paths. -/
def dirname : Tool := fun name args =>
  (Options.of "z" [("zero", 'z', .none)]).handle name args fun gs ops => do
    if ops.isEmpty then misused name "missing operand".toList
    else
      ops.forM fun p =>
        Work.write (directoryOf p ++ if given gs 'z' then ['\x00'] else ['\n'])

/-- A place as a path. -/
def pathOf (place : List Text) : Octets :=
  '/' :: List.intercalate ['/'] (place.map Octets.ofText)

/-- The place that a path leads to, with so many parts missing at its end as are allowed. -/
def resolved (p : Octets) (missing : Nat) : Work (Except Errno (List Text)) := do
  let d ← get
  match ← Work.stat p with
  | .ok (s, _) => return .ok s.place
  | .error .noEntry =>
      if p.isEmpty then return .error .noEntry
      else
        let start := if p.head? = some '/' then [] else d.cwd.place
        let parts := (Text.splitOn '/' (Octets.toText p)).filter fun x => x ≠ [] && x ≠ herePart
        let place := parts.foldl
          (fun acc x => if x = upPart then acc.dropLast else acc ++ [x]) start
        let gone := d.tree.missing place
        return if gone ≤ missing then .ok place else .error .noEntry
  | .error e => return .error e

/-- A place seen from another one. -/
def relativeTo (start place : List Text) : Octets :=
  let shared := ((start.zip place).takeWhile fun (a, b) => a = b).length
  let parts := List.replicate (start.length - shared) upPart ++ place.drop shared
  if parts.isEmpty then ['.'] else List.intercalate ['/'] (parts.map Octets.ofText)

/-- Paths from the root. -/
def realpath : Tool := fun name args =>
  (Options.of "emLPqsz" [("canonicalize-existing", 'e', .none),
      ("canonicalize-missing", 'm', .none), ("no-symlinks", 's', .none), ("strip", 's', .none),
      ("quiet", 'q', .none), ("relative-to", '1', .one), ("relative-base", '2', .one)]).handle
    name args fun gs ops => do
      if ops.isEmpty then misused name "missing operand".toList
      else
        let missing := if given gs 'e' then 0 else if given gs 'm' then 1000 else 1
        ops.forM fun p => do
          match ← resolved p missing with
          | .ok place =>
              match argumentOf? gs '1' with
              | none => Work.writeLine (pathOf place)
              | some start =>
                  match ← resolved start 1000 with
                  | .ok s => Work.writeLine (relativeTo s place)
                  | .error _ => Work.writeLine (pathOf place)
          | .error e =>
              if given gs 'q' then Work.fail 1
              else Work.refuse name (shown p ++ ": ".toList ++ reason e)

/-- What links lead to.  There are no links, so paths are only made full if that is wanted. -/
def readlink : Tool := fun name args =>
  (Options.of "femnqsvz" [("canonicalize", 'f', .none), ("canonicalize-existing", 'e', .none),
      ("canonicalize-missing", 'm', .none), ("no-newline", 'n', .none)]).handle name args
    fun gs ops => do
      if ops.isEmpty then misused name "missing operand".toList
      else
        let missing := if given gs 'e' then 0 else if given gs 'm' then 1000 else 1
        ops.forM fun p => do
          if givenAny gs "fem" then
            match ← resolved p missing with
            | .ok place => Work.write (pathOf place ++ if given gs 'n' then [] else ['\n'])
            | .error _ => Work.fail 1
          else Work.fail 1

/-- The directory the utility works in. -/
def pwdTool : Tool := fun name args => do
  let d ← get
  if args.any fun a => a.head? ≠ some '-' then
    Work.complain name "ignoring non-option arguments".toList
  if d.cwd.lost = 0 then Work.writeLine (pathOf d.cwd.place)
  else Work.refuse name "couldn't find directory entry in '..' with matching i-node".toList

/-! ## The system -/

/-- Values of the environment. -/
def printenv : Tool := fun _ args => do
  let d ← get
  if args.isEmpty then d.environment.forM fun (n, v) => Work.writeLine (n ++ '=' :: v)
  else
    args.forM fun n =>
      match d.environment.lookup n with
      | some v => Work.writeLine v
      | none => Work.fail 1

/-- The name of the system. -/
def uname : Tool := fun name args =>
  (Options.of "asnrvmpio").handle name args fun gs _ => do
    let parts := (if gs.isEmpty || givenAny gs "as" then ["Linux".toList] else []) ++
      (if given gs 'm' then ["x86_64".toList] else []) ++
      (if given gs 'o' then ["GNU/Linux".toList] else [])
    Work.writeLine (List.intercalate [' '] parts)

/-- The name of the user. -/
def whoami : Tool := fun _ _ => Work.writeLine "root".toList

/-- The numbers of the user. -/
def idTool : Tool := fun name args =>
  (Options.of "ugGnr").handle name args fun gs _ => do
    if givenAny gs "ugG" then Work.writeLine (if given gs 'n' then "root".toList else ['0'])
    else Work.writeLine "uid=0(root) gid=0(root) groups=0(root)".toList

/-- Where programs are. -/
def which : Tool := fun _ args => do
  let d ← get
  let all := args.contains ['-', 'a']
  let names := args.filter fun a => a.head? ≠ some '-'
  if names.isEmpty then Work.fail 1
  else
    names.forM fun n => do
      let dirs := Text.splitOn ':' ((d.environment.lookup "PATH".toList).getD [])
      let candidates := if n.contains '/' then [n] else dirs.map fun dir =>
        (if dir.isEmpty then ['.'] else dir) ++ '/' :: n
      let found := candidates.filter fun p =>
        match d.tree.statText d.cwd (Octets.toText p) with
        | .ok (_, .file _ .program) => true
        | _ => false
      if found.isEmpty then Work.fail 1
      else (if all then found else found.take 1).forM Work.writeLine

/-! ## Numbers -/

/-- A decimal as a whole number of units of a power of ten. -/
structure Decimal where
  /-- The units. -/
  units : Int
  /-- The digits after the point. -/
  places : Nat

/-- The decimal that a text is. -/
def decimal? (t : Octets) : Option Decimal :=
  let (negative, body) := match t with
    | '-' :: r => (true, r)
    | '+' :: r => (false, r)
    | r => (false, r)
  let whole := body.takeWhile (· ≠ '.')
  let fraction := (body.drop whole.length).drop 1
  let digits := whole ++ fraction
  if digits.isEmpty || !digits.all Char.isDigit then none
  else
    let n := (Octets.toNat? digits).getD 0
    some ⟨if negative then -(n : Int) else n, fraction.length⟩

/-- The units of a decimal with more digits after the point. -/
def Decimal.at (d : Decimal) (places : Nat) : Int := d.units * (Nat.pow 10 (places - d.places) : Nat)

/-- The text of a decimal. -/
def decimalText (places width : Nat) (i : Int) : Octets :=
  let ds := Octets.ofNat i.natAbs
  let ds := List.replicate (places + 1 - ds.length) '0' ++ ds
  let whole := ds.take (ds.length - places)
  let body := if places = 0 then whole else whole ++ '.' :: ds.drop (ds.length - places)
  let sign := if i < 0 then ['-'] else []
  sign ++ List.replicate (width - body.length - sign.length) '0' ++ body

/-- The numbers from one to another. -/
def seqFrom (stop step : Int) : Nat → Int → List Int
  | 0, _ => []
  | n + 1, i =>
      if (step > 0 && i > stop) || (step < 0 && i < stop) then [] else i :: seqFrom stop step n (i + step)

/-- The options at the front of the arguments of `seq`.  A number below zero is no option. -/
def seqOptions : Nat → List Octets → List GivenOption →
    Except Octets (List GivenOption × List Octets)
  | 0, args, gs => .ok (gs, args)
  | n + 1, args, gs =>
      match args with
      | ['-', '-'] :: rest => .ok (gs, rest)
      | ['-', 'w'] :: rest => seqOptions n rest (('w', []) :: gs)
      | ['-', 's'] :: t :: rest => seqOptions n rest (('s', t) :: gs)
      | ['-', 'f'] :: t :: rest => seqOptions n rest (('f', t) :: gs)
      | ('-' :: 's' :: t) :: rest => seqOptions n rest (('s', t) :: gs)
      | ('-' :: c :: cs) :: rest =>
          if (decimal? ('-' :: c :: cs)).isSome then .ok (gs, args)
          else if '-' :: c :: cs = "--equal-width".toList then seqOptions n rest (('w', []) :: gs)
          else .error ("invalid option -- '".toList ++ [c, '\''])
      | _ => .ok (gs, args)

/-- A form for numbers: a text around a place that is filled. -/
structure NumberForm where
  /-- What stands before the place. -/
  before : Octets
  /-- Whether the place is filled up with zeros. -/
  zeros : Bool
  /-- Whether it is filled up on the right. -/
  left : Bool
  /-- How wide it is. -/
  width : Nat
  /-- How many places follow the point, if that is fixed. -/
  places : Option Nat
  /-- What stands after the place. -/
  after : Octets

/-- Read a form for numbers. -/
def NumberForm.read? (t : Octets) : Option NumberForm :=
  let before := t.takeWhile (· ≠ '%')
  match t.drop before.length with
  | '%' :: rest =>
      let flags := rest.takeWhile fun c => c = '0' || c = '-'
      let rest := rest.drop flags.length
      let width := rest.takeWhile Char.isDigit
      let rest := rest.drop width.length
      let (places, rest) :=
        match rest with
        | '.' :: more =>
            let ds := more.takeWhile Char.isDigit
            (some ((Octets.toNat? ds).getD 0), more.drop ds.length)
        | _ => (none, rest)
      let form (places : Option Nat) (after : Octets) : NumberForm :=
        ⟨before, flags.contains '0', flags.contains '-', (Octets.toNat? width).getD 0, places, after⟩
      match rest with
      | 'g' :: after => some (form none after)
      | 'f' :: after => some (form (some (places.getD 6)) after)
      | _ => none
  | _ => none

/-- Fill in a number of units, of which so many places follow the point. -/
def NumberForm.fill (f : NumberForm) (places : Nat) (i : Int) : Octets :=
  let whole := decimalText places 0 i
  let body :=
    match f.places with
    | some n =>
        if n ≥ places then decimalText n 0 (i * (Nat.pow 10 (n - places) : Nat))
        else decimalText n 0 (i / (Nat.pow 10 (places - n) : Nat))
    | none =>
        if places = 0 then whole
        else ((whole.reverse.dropWhile (· = '0')).dropWhile (· = '.')).reverse
  let gap := f.width - body.length
  let filled :=
    if f.left then body ++ List.replicate gap ' '
    else if f.zeros then
      match body with
      | '-' :: ds => '-' :: List.replicate gap '0' ++ ds
      | ds => List.replicate gap '0' ++ ds
    else List.replicate gap ' ' ++ body
  f.before ++ filled ++ f.after

/-- Count. -/
def seq : Tool := fun name args => do
  let isNumber (a : Octets) : Bool := (decimal? a).isSome
  match seqOptions (args.length + 1) args [] with
  | .error t => misused name t
  | .ok (gs, ops) =>
      match ops.find? fun a => !isNumber a with
      | some a => misused name ("invalid floating point argument: ".toList ++ curled a)
      | none =>
          let one : Decimal := ⟨1, 0⟩
          let numbers := ops.filterMap decimal?
          let plan : Option (Decimal × Decimal × Decimal) :=
            match numbers with
            | [c] => some (one, one, c)
            | [a, c] => some (a, one, c)
            | [a, b, c] => some (a, b, c)
            | _ => none
          match plan with
          | none =>
              if ops.isEmpty then misused name "missing operand".toList
              else misused name ("extra operand ".toList ++ curled ((ops.drop 3).headD []))
          | some (first, step, last) =>
              if step.units = 0 then
                misused name ("invalid Zero increment value: ".toList ++
                  curled ((ops.drop 1).headD []))
              else
                let shownPlaces := max first.places step.places
                let places := max shownPlaces last.places
                let (a, b, c) := (first.at places, step.at places, last.at places)
                let count := ((c - a) / b).toNat + 1
                let values := seqFrom c b (min count 100000) a
                let scale : Int := (Nat.pow 10 (places - shownPlaces) : Nat)
                let text (width : Nat) (i : Int) : Octets :=
                  decimalText shownPlaces width (i / scale)
                let width := if given gs 'w' then
                  (values.map fun i => (text 0 i).length).foldl max
                    (if values.isEmpty then 0 else (text 0 (last.at places)).length) else 0
                let rows :=
                  match (argumentOf? gs 'f').bind NumberForm.read? with
                  | some form => values.map fun i => form.fill shownPlaces (i / scale)
                  | none => values.map (text width)
                let gap := (argumentOf? gs 's').getD ['\n']
                if rows.isEmpty then pure () else Work.writeLine (List.intercalate gap rows)

/-! ## Expressions -/

/-- Working out an expression: the words that are left. -/
abbrev Expr := StateT (List Octets) (Except (Octets × Nat))

/-- Complain about an expression. -/
def exprWrong {α : Type} (t : Octets) (status : Nat := 2) : Expr α := throw (t, status)

/-- Whether a value counts as nothing. -/
def isNull (t : Octets) : Bool :=
  t.isEmpty || (match t with
    | '-' :: ds => !ds.isEmpty && ds.all (· = '0')
    | ds => ds.all (· = '0'))

/-- The whole number of a value. -/
def exprNumber? (t : Octets) : Option Int :=
  match t with
  | '-' :: ds => (Octets.toNat? ds).map fun n => -(n : Int)
  | ds => (Octets.toNat? ds).map fun n => (n : Int)

/-- The value of a match from the start of a text. -/
def exprMatch (t pattern : Octets) : Expr Octets := do
  match Regex.parse false (Octets.toText pattern) with
  | .error e => exprWrong e.toList
  | .ok r =>
      let text := Octets.toText t
      let found := r.matchAt false text.toArray 0
      let hasGroup := r.groupCount > 0
      match found with
      | none => return if hasGroup then [] else ['0']
      | some f =>
          if hasGroup then
            match f.groups.lookup 1 with
            | some (a, b) => return Octets.ofText ((text.drop a).take (b - a))
            | none => return []
          else return Octets.ofNat f.stop

/-- The operators of each level, loosest first. -/
def exprLevels : List (List String) :=
  [["|"], ["&"], ["<", "<=", "=", "==", "!=", ">=", ">"], ["+", "-"], ["*", "/", "%"], [":"]]

/-- The value of two values. -/
def exprApply (op : String) (a b : Octets) : Expr Octets := do
  let numbers (f : Int → Int → Expr Int) : Expr Octets := do
    match exprNumber? a, exprNumber? b with
    | some i, some j => return Octets.ofInt (← f i j)
    | _, _ => exprWrong "non-integer argument".toList
  let compare (f : Ordering → Bool) : Expr Octets := do
    let o := match exprNumber? a, exprNumber? b with
      | some i, some j => if i < j then Ordering.lt else if j < i then .gt else .eq
      | _, _ => if Test.less a b then .lt else if Test.less b a then .gt else .eq
    return if f o then ['1'] else ['0']
  match op with
  | "|" => return if !isNull a then a else if !isNull b then b else ['0']
  | "&" => return if isNull a || isNull b then ['0'] else a
  | "<" => compare (· = .lt)
  | "<=" => compare (· ≠ .gt)
  | "=" => compare (· = .eq)
  | "==" => compare (· = .eq)
  | "!=" => compare (· ≠ .eq)
  | ">=" => compare (· ≠ .lt)
  | ">" => compare (· = .gt)
  | "+" => numbers fun i j => return i + j
  | "-" => numbers fun i j => return i - j
  | "*" => numbers fun i j => return i * j
  | "/" => numbers fun i j => if j = 0 then exprWrong "division by zero".toList else return i.tdiv j
  | "%" => numbers fun i j => if j = 0 then exprWrong "division by zero".toList else return i.tmod j
  | _ => exprMatch a b

/-- The value of words from a level on. -/
def exprValue : Nat → Octets → List (List String) → Expr Octets
  | 0, _, _ => return []
  | n + 1, before, [] => do
      match ← get with
      | [] => exprWrong ("syntax error: missing argument after ".toList ++ curled before)
      | w :: rest =>
          set rest
          let shownWord := String.ofList w
          if shownWord = "(" then
            let v ← exprValue n w exprLevels
            match ← get with
            | [')'] :: rest =>
                set rest
                return v
            | [] => exprWrong ("syntax error: expecting ')' after ".toList ++ curled v)
            | x :: _ => exprWrong ("syntax error: expecting ')' instead of ".toList ++ curled x)
          else if shownWord = ")" then exprWrong "syntax error: unexpected ')'".toList
          else if shownWord = "length" && !rest.isEmpty then
            let v ← exprValue n w []
            return Octets.ofNat (Octets.toText v).length
          else if shownWord = "substr" && !rest.isEmpty then
            let v ← exprValue n w []
            let i ← exprValue n v []
            let k ← exprValue n i []
            match exprNumber? i, exprNumber? k with
            | some i, some k =>
                if i ≤ 0 || k ≤ 0 then return []
                else return Octets.ofText (((Octets.toText v).drop (i.toNat - 1)).take k.toNat)
            | _, _ => return []
          else if shownWord = "index" && !rest.isEmpty then
            let v ← exprValue n w []
            let cs ← exprValue n v []
            let text := Octets.toText v
            let set' := Octets.toText cs
            return Octets.ofNat (match text.findIdx? fun c => set'.contains c with
              | some i => i + 1
              | none => 0)
          else if shownWord = "match" && !rest.isEmpty then
            let v ← exprValue n w []
            let p ← exprValue n v []
            exprMatch v p
          else if shownWord = "+" && !rest.isEmpty then
            set rest.tail
            return rest.headD []
          else return w
  | n + 1, before, ops :: tighter => do
      let first ← exprValue n before tighter
      more n first ops tighter n
where
  /-- Operators of one level, from the left. -/
  more (n : Nat) (value : Octets) (ops : List String) (tighter : List (List String)) :
      Nat → Expr Octets
    | 0 => return value
    | k + 1 => do
        match ← get with
        | w :: rest =>
            if ops.contains (String.ofList w) then
              set rest
              let b ← exprValue n w tighter
              let v ← exprApply (String.ofList w) value b
              more n v ops tighter k
            else return value
        | [] => return value

/-- Work out an expression. -/
def expr : Tool := fun name args => do
  let args := if args.head? = some ['-', '-'] then args.tail else args
  if args.isEmpty then misused name "missing operand".toList 2
  else
    match (exprValue (20 * args.length + 20) [] exprLevels).run args with
    | .error (t, status) => Work.refuse name t status
    | .ok (v, []) =>
        Work.writeLine v
        Work.fail (if isNull v then 1 else 0)
    | .ok (_, w :: _) =>
        Work.refuse name ("syntax error: unexpected argument ".toList ++ curled w) 2

end Utility
end AmbientBundle
