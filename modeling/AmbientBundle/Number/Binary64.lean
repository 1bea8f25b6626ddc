/-!
# Binary floating-point numbers

A number of 64 bits is a sign, a mantissa below 2^53 and an exponent of two of at
least −1074, or an infinity, or not a number.  `ofRatio` rounds a ratio of two
natural numbers to the nearest such number, a tie going to the even mantissa.
All arithmetic is on natural numbers, so nothing is lost on the way.
-/

namespace AmbientBundle

/-- A floating-point number of 64 bits. -/
inductive Binary64 where
  /-- The number `mantissa * 2 ^ exponent`, or its opposite. -/
  | finite (negative : Bool) (mantissa : Nat) (exponent : Int)
  /-- An infinity. -/
  | infinite (negative : Bool)
  /-- Not a number. -/
  | nan
  deriving DecidableEq, Repr

namespace Binary64

/-- The least exponent. -/
def leastExponent : Int := -1074

/-- The greatest exponent. -/
def greatestExponent : Int := 971

/-- The zero of a sign. -/
def zero (negative : Bool) : Binary64 := .finite negative 0 leastExponent

/-- The ratio `num / den` divided by a power of two, as a numerator and a denominator. -/
def scaled (num den : Nat) (e : Int) : Nat × Nat :=
  if 0 ≤ e then (num, den * Nat.pow 2 e.toNat) else (num * Nat.pow 2 ((-e).toNat), den)

/-- The exponent at which a ratio has a mantissa of 53 bits, or the least one. -/
def exponentOf (num den : Nat) : Int :=
  let guess : Int := (num.log2 : Int) - (den.log2 : Int) - 52
  let (n, d) := scaled num den guess
  let e := if n / d < Nat.pow 2 52 then guess - 1 else guess
  max e leastExponent

/-- A quotient rounded to the nearest number, a tie going to the even one. -/
def roundDiv (n d : Nat) : Nat :=
  let q := n / d
  let r := n % d
  if d < 2 * r ∨ (2 * r = d ∧ q % 2 = 1) then q + 1 else q

/-- The number nearest to a ratio. -/
def ofRatio (negative : Bool) (num den : Nat) : Binary64 :=
  if num = 0 then zero negative
  else
    let e := exponentOf num den
    let (n, d) := scaled num den e
    let m := roundDiv n d
    let (m, e) := if m = Nat.pow 2 53 then (Nat.pow 2 52, e + 1) else (m, e)
    if greatestExponent < e then .infinite negative else .finite negative m e

/-- The number nearest to `digits * 10 ^ exponent`.  Exponents far out of range are answered
at once. -/
def ofDecimal (negative : Bool) (digits : Nat) (exponent : Int) : Binary64 :=
  let size : Int := exponent + ((Nat.toDigits 10 digits).length : Int)
  if digits = 0 then zero negative
  else if 320 < size then .infinite negative
  else if size < -340 then zero negative
  else if 0 ≤ exponent then ofRatio negative (digits * Nat.pow 10 exponent.toNat) 1
  else ofRatio negative digits (Nat.pow 10 ((-exponent).toNat))

/-- The magnitude of a number as a numerator and a denominator. -/
def ratio (m : Nat) (e : Int) : Nat × Nat :=
  if 0 ≤ e then (m * Nat.pow 2 e.toNat, 1) else (m, Nat.pow 2 ((-e).toNat))

/-- The opposite of a number. -/
def negate : Binary64 → Binary64
  | .finite s m e => .finite (!s) m e
  | .infinite s => .infinite (!s)
  | .nan => .nan

/-- The number nearest to a natural number, if there is one that is finite. -/
def ofNat? (n : Nat) : Option Binary64 :=
  match ofRatio false n 1 with
  | .finite s m e => some (.finite s m e)
  | _ => none

/-- The product of two numbers, rounded. -/
def mul : Binary64 → Binary64 → Binary64
  | .finite s m e, .finite s' m' e' =>
      let (n, d) := ratio m e
      let (n', d') := ratio m' e'
      ofRatio (s != s') (n * n') (d * d')
  | .infinite s, .infinite s' => .infinite (s != s')
  | .infinite s, .finite s' m _ => if m = 0 then .nan else .infinite (s != s')
  | .finite s m _, .infinite s' => if m = 0 then .nan else .infinite (s != s')
  | .nan, _ => .nan
  | _, .nan => .nan

/-- The sum of two numbers, rounded.  A sum of nothing is below zero only if both are. -/
def add : Binary64 → Binary64 → Binary64
  | .finite s m e, .finite s' m' e' =>
      let (n, d) := ratio m e
      let (n', d') := ratio m' e'
      let left : Int := if s then -((n * d' : Nat) : Int) else ((n * d' : Nat) : Int)
      let right : Int := if s' then -((n' * d : Nat) : Int) else ((n' * d : Nat) : Int)
      if left + right = 0 then zero (s && s')
      else ofRatio (left + right < 0) (left + right).natAbs (d * d')
  | .infinite s, .infinite s' => if s = s' then .infinite s else .nan
  | .infinite s, .finite .. => .infinite s
  | .finite .., .infinite s => .infinite s
  | .nan, _ => .nan
  | _, .nan => .nan

/-- The whole part of a number, towards zero; nothing for infinities and for what is no
number. -/
def truncate? : Binary64 → Option Int
  | .finite s m e =>
      let (n, d) := ratio m e
      let q : Int := ((n / d : Nat) : Int)
      some (if s then -q else q)
  | _ => none

/-- Whether a number is zero. -/
def isZero : Binary64 → Bool
  | .finite _ m _ => m = 0
  | _ => false

end Binary64
end AmbientBundle
