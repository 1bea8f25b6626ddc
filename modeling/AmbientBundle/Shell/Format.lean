import AmbientBundle.Number.Reading
import AmbientBundle.Shell.Arithmetic
import AmbientBundle.Shell.Reading

/-!
# Formats

A format is a text with directives.  A directive takes an argument and writes it with
at least so many characters, filled up at the left or the right.  A format is used
again for as long as there are arguments left.

`Directive` says how one value is written.  `run` goes through a whole format; what is
wrong with an argument is collected on the side and does not stop the rest.
-/

namespace AmbientBundle
namespace Shell
namespace Format

/-- How a value is written. -/
structure Directive where
  /-- Whether blanks go to the right. -/
  left : Bool := false
  /-- Whether a number without a minus sign has a plus sign. -/
  plus : Bool := false
  /-- Whether it has a blank in place of a sign. -/
  space : Bool := false
  /-- Whether zeros fill up a number. -/
  zero : Bool := false
  /-- Whether the base is shown. -/
  marked : Bool := false
  /-- The least number of characters. -/
  width : Nat := 0
  /-- The number of digits, or the greatest number of characters. -/
  precision : Option Nat := none
  /-- The letter of the directive. -/
  kind : Char := 's'
  deriving Repr

/-! ## Single values -/

/-- Fill up a text with blanks. -/
def pad (d : Directive) (t : Octets) : Octets :=
  let blanks := List.replicate (d.width - t.length) ' '
  if d.left then t ++ blanks else blanks ++ t

/-- Fill up a number: after its sign with zeros, or around it with blanks. -/
def padNumber (d : Directive) (zeros : Bool) (sign digits : Octets) : Octets :=
  if zeros && d.zero && !d.left then
    sign ++ List.replicate (d.width - sign.length - digits.length) '0' ++ digits
  else pad d (sign ++ digits)

/-- The sign of a number. -/
def signOf (d : Directive) (negative : Bool) : Octets :=
  if negative then ['-'] else if d.plus then ['+'] else if d.space then [' '] else []

/-- Digits, as many as asked for. -/
def withPrecision (d : Directive) (digits : Octets) : Octets :=
  match d.precision with
  | none => digits
  | some p => if p = 0 && digits = ['0'] then [] else List.replicate (p - digits.length) '0' ++ digits

/-- A whole number with its sign. -/
def signed (d : Directive) (i : Int) : Octets :=
  padNumber d d.precision.isNone (signOf d (i < 0)) (withPrecision d (Octets.ofNat i.natAbs))

/-- The bits of a whole number in a base. -/
def unsigned (d : Directive) (i : Int) : Octets :=
  let n := Arithmetic.toBits i
  let base := if d.kind = 'o' then 8 else if d.kind = 'u' then 10 else 16
  let digits := Nat.toDigits base n
  let digits := withPrecision d (if d.kind = 'X' then digits.map Char.toUpper else digits)
  let mark :=
    if !d.marked || n = 0 then []
    else if d.kind = 'o' then ['0']
    else if d.kind = 'x' then ['0', 'x']
    else if d.kind = 'X' then ['0', 'X']
    else []
  padNumber d d.precision.isNone mark digits

/-- A text, cut to its greatest length. -/
def string (d : Directive) (t : Octets) : Octets :=
  pad d (match d.precision with
    | none => t
    | some p => t.take p)

/-! ## Decimals -/

/-- A magnitude with so many digits after the point. -/
def fixed (num den precision : Nat) : Octets :=
  let scaled := Binary64.roundDiv (num * Nat.pow 10 precision) den
  let digits := Octets.ofNat scaled
  let digits := List.replicate (precision + 1 - digits.length) '0' ++ digits
  let whole := digits.take (digits.length - precision)
  if precision = 0 then whole else whole ++ '.' :: digits.drop (digits.length - precision)

/-- The magnitude `num / den` divided by a power of ten. -/
def tenScaled (num den : Nat) (e : Int) : Nat × Nat :=
  if 0 ≤ e then (num, den * Nat.pow 10 e.toNat) else (num * Nat.pow 10 (-e).toNat, den)

/-- The exponent of ten of a magnitude. -/
def tenExponent (num den : Nat) : Int :=
  if num = 0 then 0
  else
    let guess : Int := ((Octets.ofNat num).length : Int) - ((Octets.ofNat den).length : Int)
    let (n, d) := tenScaled num den guess
    if n < d then guess - 1 else guess

/-- A magnitude as digits and an exponent. -/
def scientificParts (num den precision : Nat) : Octets × Int :=
  let e := tenExponent num den
  let (n, d) := tenScaled num den e
  let m := Binary64.roundDiv (n * Nat.pow 10 precision) d
  let (m, e) := if m ≥ Nat.pow 10 (precision + 1) then (m / 10, e + 1) else (m, e)
  (Octets.ofNat m, e)

/-- An exponent with a sign and at least two digits. -/
def exponentText (e : Int) : Octets :=
  let ds := Octets.ofNat e.natAbs
  (if e < 0 then '-' else '+') :: (if ds.length < 2 then '0' :: ds else ds)

/-- A magnitude with an exponent. -/
def scientific (num den precision : Nat) : Octets :=
  let (digits, e) := scientificParts num den precision
  let digits := if num = 0 then List.replicate (precision + 1) '0' else digits
  digits.take 1 ++ (if precision = 0 then [] else '.' :: digits.drop 1) ++ 'e' :: exponentText e

/-- Digits without zeros at the end of their fraction. -/
def trimZeros (t : Octets) : Octets :=
  if t.contains '.' then
    let r := t.reverse.dropWhile (· = '0')
    (match r with
      | '.' :: rest => rest
      | _ => r).reverse
  else t

/-- A magnitude in the shorter of two forms. -/
def general (num den precision : Nat) (keepZeros : Bool) : Octets :=
  let p := if precision = 0 then 1 else precision
  let (_, e) := scientificParts num den (p - 1)
  let trim (t : Octets) : Octets := if keepZeros then t else trimZeros t
  if e < -4 ∨ e ≥ (p : Int) then
    let t := scientific num den (p - 1)
    let front := t.takeWhile (· ≠ 'e')
    trim front ++ t.drop front.length
  else trim (fixed num den ((p : Int) - 1 - e).toNat)

/-- A decimal. -/
def decimal (d : Directive) (x : Binary64) : Octets :=
  let upper := d.kind.isUpper
  let shown (t : Octets) : Octets := if upper then t.map Char.toUpper else t
  match x with
  | .nan => pad d (signOf d false ++ shown ['n', 'a', 'n'])
  | .infinite s => pad d (signOf d s ++ shown ['i', 'n', 'f'])
  | .finite s m e =>
      let (num, den) := Binary64.ratio m e
      let p := d.precision.getD 6
      let body :=
        match d.kind.toLower with
        | 'f' => fixed num den p
        | 'e' => scientific num den p
        | _ => general num den p d.marked
      padNumber d true (signOf d s) (shown body)

/-! ## Escapes -/

/-- The characters that a backslash makes of a letter. -/
def letterEscape? : Char → Option Char
  | 'a' => some '\x07'
  | 'b' => some '\x08'
  | 'f' => some '\x0c'
  | 'n' => some '\n'
  | 'r' => some '\r'
  | 't' => some '\t'
  | 'v' => some '\x0b'
  | 'e' => some '\x1b'
  | '\\' => some '\\'
  | _ => none

/-- Replace the escapes of a text, as a format or as an argument has them.  The text ends early
if one of them says so. -/
def unescape (zeroFirst hex : Bool) : Nat → Octets → Octets × Bool
  | 0, t => (t, false)
  | _, [] => ([], false)
  | n + 1, '\\' :: c :: rest =>
      let go (front after : Octets) : Octets × Bool :=
        let (t, stop) := unescape zeroFirst hex n after
        (front ++ t, stop)
      if isOctal c then
        let body := if zeroFirst && c = '0' then rest else c :: rest
        let ds := (body.take 3).takeWhile isOctal
        go [Char.ofNat (digitsValue 8 ds % 256)] (body.drop ds.length)
      else if c = 'c' && zeroFirst then ([], true)
      else if c = 'x' && hex then
        let ds := (rest.take 2).takeWhile isHex
        if ds = [] then go ['\\', 'x'] rest
        else go [Char.ofNat (digitsValue 16 ds)] (rest.drop ds.length)
      else
        match letterEscape? c with
        | some d => go [d] rest
        | none => go ['\\', c] rest
  | n + 1, c :: rest =>
      let (t, stop) := unescape zeroFirst hex n rest
      (c :: t, stop)

/-- The ways to write with `echo`. -/
inductive EchoManner where
  /-- Octal digits need no zero before them. -/
  | plain
  /-- Octal digits need no zero, and there are hexadecimal ones. -/
  | tool
  /-- Octal digits stand after a zero, and there are more escapes. -/
  | more
  deriving DecidableEq, Repr

/-- Replace the escapes of an `echo`. -/
def echoEscape (m : EchoManner) : Nat → Octets → Octets × Bool
  | 0, t => (t, false)
  | _, [] => ([], false)
  | n + 1, '\\' :: c :: rest =>
      let go (front after : Octets) : Octets × Bool :=
        let (t, stop) := echoEscape m n after
        (front ++ t, stop)
      if c = '0' || (m ≠ .more && isOctal c) then
        let digits := if c = '0' then rest else c :: rest
        let ds := (digits.take 3).takeWhile isOctal
        go [Char.ofNat (digitsValue 8 ds % 256)] (digits.drop ds.length)
      else if c = 'c' then ([], true)
      else if (m ≠ .plain && c = 'x') || (m = .more && (c = 'u' || c = 'E')) then
        let (front, after) := dollarEscape (c :: rest)
        go front after
      else
        match letterEscape? c with
        | some d => go [d] rest
        | none => go ['\\', c] rest
  | n + 1, c :: rest =>
      let (t, stop) := echoEscape m n rest
      (c :: t, stop)

/-- Arguments with blanks between them.  Escapes are replaced, and one of them ends the output. -/
def escapedLine (m : EchoManner) : List Octets → Octets × Bool
  | [] => ([], false)
  | [a] => echoEscape m (a.length + 1) a
  | a :: rest =>
      let (t, stop) := echoEscape m (a.length + 1) a
      if stop then (t, true)
      else
        let (next, stop) := escapedLine m rest
        (t ++ ' ' :: next, stop)

/-- Options of the `echo` that replaces no escapes by itself. -/
def echoOptions (ends escapes : Bool) : List Octets → Bool × Bool × List Octets
  | ('-' :: c :: cs) :: rest =>
      if (c :: cs).all fun c => c = 'n' || c = 'e' || c = 'E' then
        let ends := ends && !(c :: cs).contains 'n'
        let escapes := (c :: cs).foldl
          (fun e c => if c = 'e' then true else if c = 'E' then false else e) escapes
        echoOptions ends escapes rest
      else (ends, escapes, ('-' :: c :: cs) :: rest)
  | args => (ends, escapes, args)

/-- What the `echo` with options writes. -/
def echoText (m : EchoManner) (args : List Octets) : Octets :=
  let (ends, escapes, args) := echoOptions true false args
  let (t, stop) :=
    if escapes then escapedLine m args else (List.intercalate [' '] args, false)
  t ++ if ends && !stop then ['\n'] else []

/-! ## Whole formats -/

/-- What is done with an argument that does not fit. -/
structure Manner where
  /-- Whether escapes with `\x` are known. -/
  hex : Bool := false
  /-- Whether a directive may tell the size of a number. -/
  sizes : Bool := false
  /-- Whether a quote has to have a character after it. -/
  strict : Bool := false
  /-- Whether the directive that quotes is known. -/
  quotes : Bool := false
  /-- Quote a text for a shell. -/
  quote : Octets → Octets := id
  /-- The complaint about an argument that is no number. -/
  noNumber : Octets → Octets := fun t => t ++ ": expected numeric value".toList
  /-- The complaint about an argument that is a number only at its start. -/
  halfNumber : Octets → Octets := fun t => t ++ ": not completely converted".toList
  /-- The complaint about a number that is too large. -/
  tooLarge : Octets → Octets := fun t => t ++ ": Numerical result out of range".toList
  /-- The complaint about a directive. -/
  badDirective : Octets → Octets := fun t => t ++ ": invalid directive".toList
  /-- The complaint about a directive without a letter. -/
  noLetter : Octets → Octets := fun _ => "missing format character".toList
  /-- The complaint about an empty number. -/
  emptyNumber : Option Octets := none

/-- What was written so far. -/
structure Progress where
  /-- The arguments that are left. -/
  args : List Octets
  /-- What was written, last part first. -/
  out : List Octets := []
  /-- Complaints, last one first. -/
  complaints : List Octets := []
  /-- Whether a complaint ends everything. -/
  broken : Bool := false
  /-- Whether an argument ended the output. -/
  stopped : Bool := false
  /-- Whether an argument was taken. -/
  taken : Bool := false

/-- The next argument. -/
def Progress.take (p : Progress) : Option Octets × Progress :=
  match p.args with
  | [] => (none, { p with taken := true })
  | a :: rest => (some a, { p with args := rest, taken := true })

/-- Add output. -/
def Progress.write (p : Progress) (t : Octets) : Progress := { p with out := t :: p.out }

/-- Add a complaint. -/
def Progress.complain (p : Progress) (t : Octets) : Progress :=
  { p with complaints := t :: p.complaints }

/-- The whole number at the front of a text, and what follows it. -/
def leadingInt (t : Octets) : Option (Int × Octets) :=
  let body := t.dropWhile fun c => c = ' ' || ('\t' ≤ c && c ≤ '\r')
  let (negative, digits) :=
    match body with
    | '-' :: r => (true, r)
    | '+' :: r => (false, r)
    | r => (false, r)
  match digits with
  | c :: _ =>
      if c.isDigit then
        let (n, rest) := Arithmetic.constant digits
        some (if negative then -(n : Int) else (n : Int), rest)
      else none
  | [] => none

/-- The whole number of an argument. -/
def intArg (m : Manner) (p : Progress) (unsigned : Bool) : Int × Progress :=
  match p.take with
  | (none, p) => (0, p)
  | (some a, p) =>
      match a with
      | [] =>
          match m.emptyNumber with
          | some c => (0, p.complain c)
          | none => (0, p)
      | '\'' :: c :: _ => (c.toNat, p)
      | '"' :: c :: _ => (c.toNat, p)
      | ['\''] => if m.strict then (0, p.complain (m.noNumber a)) else (0, p)
      | ['"'] => if m.strict then (0, p.complain (m.noNumber a)) else (0, p)
      | _ =>
          match leadingInt a with
          | none => (0, p.complain (m.noNumber a))
          | some (i, rest) =>
              let top : Int := if unsigned then Nat.pow 2 64 - 1 else Nat.pow 2 63 - 1
              let low : Int := -(Nat.pow 2 63 : Nat)
              let p := if rest = [] then p else p.complain (m.halfNumber a)
              if i > top then (top, p.complain (m.tooLarge a))
              else if i < low then (low, p.complain (m.tooLarge a))
              else (i, p)

/-- The longest front of a text that is a decimal. -/
def leadingDecimal (t : Octets) : Option (Binary64 × Octets) :=
  ((List.range (t.length + 1)).reverse.filterMap fun n =>
    if n = 0 then none
    else (Number.readFloat? (t.take n)).map fun x => (x, t.drop n)).head?

/-- The decimal of an argument. -/
def decimalArg (m : Manner) (p : Progress) : Binary64 × Progress :=
  match p.take with
  | (none, p) => (Binary64.zero false, p)
  | (some a, p) =>
      match a with
      | [] => (Binary64.zero false, p)
      | '\'' :: c :: _ => (Binary64.ofRatio false c.toNat 1, p)
      | '"' :: c :: _ => (Binary64.ofRatio false c.toNat 1, p)
      | _ =>
          match leadingDecimal a with
          | none => (Binary64.zero false, p.complain (m.noNumber a))
          | some (x, rest) => (x, if rest = [] then p else p.complain (m.halfNumber a))

/-- The signs at the front of a directive. -/
def flags (d : Directive) : Octets → Directive × Octets
  | '-' :: r => flags { d with left := true } r
  | '+' :: r => flags { d with plus := true } r
  | ' ' :: r => flags { d with space := true } r
  | '0' :: r => flags { d with zero := true } r
  | '#' :: r => flags { d with marked := true } r
  | r => (d, r)

/-- The width of a directive. -/
def widthOf (m : Manner) (d : Directive) (t : Octets) (p : Progress) :
    Directive × Octets × Progress :=
  match t with
  | '*' :: r =>
      let (i, p) := intArg m p false
      ({ d with width := i.natAbs, left := d.left || i < 0 }, r, p)
  | _ =>
      let ds := t.takeWhile Char.isDigit
      ({ d with width := digitsValue 10 ds }, t.drop ds.length, p)

/-- The precision of a directive. -/
def precisionOf (m : Manner) (d : Directive) (t : Octets) (p : Progress) :
    Directive × Octets × Progress :=
  match t with
  | '.' :: '*' :: r =>
      let (i, p) := intArg m p false
      ({ d with precision := if i < 0 then none else some i.toNat }, r, p)
  | '.' :: r =>
      let ds := r.takeWhile Char.isDigit
      ({ d with precision := some (digitsValue 10 ds) }, r.drop ds.length, p)
  | _ => (d, t, p)

/-- Write one argument. -/
def writeOne (m : Manner) (d : Directive) (p : Progress) : Option Progress :=
  match d.kind with
  | 's' =>
      let (a, p) := p.take
      some (p.write (string d (a.getD [])))
  | 'c' =>
      let (a, p) := p.take
      some (p.write (pad d ((a.getD []).take 1)))
  | 'b' =>
      let (a, p) := p.take
      let a := a.getD []
      let (t, stop) := unescape true m.hex (a.length + 1) a
      some { p.write (string d t) with stopped := stop }
  | 'q' =>
      if m.quotes then
        let (a, p) := p.take
        some (p.write (string d (m.quote (a.getD []))))
      else none
  | k =>
      if k = 'd' || k = 'i' then
        let (i, p) := intArg m p false
        some (p.write (signed d i))
      else if k = 'o' || k = 'u' || k = 'x' || k = 'X' then
        let (i, p) := intArg m p true
        some (p.write (unsigned d i))
      else if "eEfFgG".toList.contains k then
        let (x, p) := decimalArg m p
        some (p.write (decimal d x))
      else none

/-- Go through a format once. -/
def pass (m : Manner) : Nat → Octets → Progress → Progress
  | 0, _, p => p
  | _, [], p => p
  | n + 1, '%' :: '%' :: rest, p => pass m n rest (p.write ['%'])
  | n + 1, '%' :: rest, p =>
      let (d, t) := flags {} rest
      let (d, t, p) := widthOf m d t p
      let (d, t, p) := precisionOf m d t p
      let t := t.dropWhile fun c => m.sizes && "hlLjzt".toList.contains c
      match t with
      | [] => { p.complain (m.noLetter ('%' :: rest)) with broken := true }
      | k :: after =>
          match writeOne m { d with kind := k } p with
          | some p => if p.stopped then p else pass m n after p
          | none =>
              let shown := '%' :: rest.take (rest.length - after.length)
              { p.complain (m.badDirective shown) with broken := true }
  | n + 1, '\\' :: c :: rest, p =>
      let length :=
        if isOctal c then (((c :: rest).take 3).takeWhile isOctal).length
        else if c = 'x' && m.hex then 1 + ((rest.take 2).takeWhile isHex).length
        else 1
      if c = 'c' && m.hex then { p with stopped := true }
      else
        let (t, _) := unescape false m.hex 2 ('\\' :: (c :: rest).take length)
        let t := if c = '"' && m.hex then ['"'] else t
        pass m n ((c :: rest).drop length) (p.write t)
  | n + 1, c :: rest, p => pass m n rest (p.write [c])

/-- Go through a format again and again. -/
def passes (m : Manner) (format : Octets) : Nat → Progress → Progress
  | 0, p => p
  | n + 1, p =>
      let p := pass m (format.length + 1) format { p with taken := false }
      if p.broken || p.stopped || p.args.isEmpty || !p.taken then p else passes m format n p

/-- Write arguments as a format says. -/
def run (m : Manner) (format : Octets) (args : List Octets) : Progress :=
  passes m format (args.length + 1) { args }

/-- What was written. -/
def Progress.text (p : Progress) : Octets := p.out.reverse.flatten

end Format
end Shell
end AmbientBundle
