import AmbientBundle.Number.Binary64
import AmbientBundle.Text

/-!
# Shortest decimals

A floating-point number is shown by the fewest decimal digits that read back as
the same number, and among those by the digits nearest to it.

The decimals that read back as a number fill an interval around it: half-way to
its neighbours, with the ends included when the mantissa is even.  `shortest`
tries one digit, two digits and so on.  If any decimal with that many digits lies
in the interval, then one of the two nearest to the number does.

`Decimal.toText` writes the digits.  The point stays in its place while the number
has at most sixteen digits before it and at most three zeros after it; otherwise
an exponent is written, with its sign and at least two digits.
-/

namespace AmbientBundle

/-- The decimal `digits * 10 ^ exponent`. -/
structure Decimal where
  /-- The digits. -/
  digits : Nat
  /-- The exponent of ten. -/
  exponent : Int
  deriving DecidableEq, Repr

namespace Decimal

/-- The greatest power of ten that is not above a positive ratio. -/
def magnitude (num den : Nat) : Int :=
  if den ≤ num then ((Nat.toDigits 10 (num / den)).length : Int) - 1
  else
    let j := (Nat.toDigits 10 (den / num)).length - 1
    if den = num * Nat.pow 10 j then -(j : Int) else -(j : Int) - 1

/-- The ratio `num / den` divided by a power of ten, as a numerator and a denominator. -/
def scaledTen (num den : Nat) (k : Int) : Nat × Nat :=
  if 0 ≤ k then (num, den * Nat.pow 10 k.toNat) else (num * Nat.pow 10 ((-k).toNat), den)

/-- The interval of decimals that read back as `mantissa * 2 ^ exponent`, in quarters of the
last place: the lower and the upper distance. -/
def margins (m : Nat) (e : Int) : Nat × Nat :=
  if m = Nat.pow 2 52 ∧ Binary64.leastExponent < e then (1, 2) else (2, 2)

/-- Whether a decimal `c * 10 ^ k` reads back as `m * 2 ^ e`. -/
def readsBack (m : Nat) (e : Int) (c : Nat) (k : Int) : Bool :=
  let (lo, hi) := margins m e
  let (n, d) := Binary64.ratio 1 (e - 2)
  -- compare `c * 10 ^ k` with `(4 m ± margin) * n / d`
  let (cn, cd) := if 0 ≤ k then (c * Nat.pow 10 k.toNat, 1) else (c, Nat.pow 10 ((-k).toNat))
  let left := cn * d
  let low := (4 * m - lo) * n * cd
  let high := (4 * m + hi) * n * cd
  if m % 2 = 0 then low ≤ left && left ≤ high else low < left && left < high

/-- The decimal with a number of digits that reads back and is nearest, if there is one. -/
def withDigits? (m : Nat) (e : Int) (count : Nat) : Option Decimal :=
  let (n, d) := Binary64.ratio m e
  let k := magnitude n d + 1 - (count : Int)
  let (sn, sd) := scaledTen n d k
  let below := sn / sd
  let rest := sn % sd
  let lowHit := readsBack m e below k
  let highHit := readsBack m e (below + 1) k
  match lowHit, highHit with
  | true, true => some ⟨if 2 * rest < sd ∨ (2 * rest = sd ∧ below % 2 = 0) then below
      else below + 1, k⟩
  | true, false => some ⟨below, k⟩
  | false, true => some ⟨below + 1, k⟩
  | false, false => none

/-- The first answer for a rising number of digits. -/
def firstHit (m : Nat) (e : Int) : Nat → Nat → Decimal
  | 0, count => (withDigits? m e count).getD ⟨m, e⟩
  | more + 1, count =>
      match withDigits? m e count with
      | some x => x
      | none => firstHit m e more (count + 1)

/-- The shortest decimal that reads back as `mantissa * 2 ^ exponent`. -/
def shortest (m : Nat) (e : Int) : Decimal := firstHit m e 16 1

/-- Digits without the zeros at their end, and how many those were. -/
def dropZeros (ds : Text) : Text := (ds.reverse.dropWhile (· = '0')).reverse

/-- The text of a decimal above zero. -/
def toText (x : Decimal) : Text :=
  let all := Nat.toDigits 10 x.digits
  let ds := dropZeros all
  let point : Int := (all.length : Int) + x.exponent
  if -4 < point ∧ point ≤ 16 then
    if point ≤ 0 then '0' :: '.' :: List.replicate (-point).toNat '0' ++ ds
    else if (ds.length : Int) ≤ point then
      ds ++ List.replicate (point.toNat - ds.length) '0' ++ ['.', '0']
    else ds.take point.toNat ++ '.' :: ds.drop point.toNat
  else
    let front :=
      match ds with
      | [] => []
      | [d] => [d]
      | d :: more => d :: '.' :: more
    let ex := point - 1
    let mag := Nat.toDigits 10 ex.natAbs
    let mag := if mag.length < 2 then '0' :: mag else mag
    front ++ 'e' :: (if ex < 0 then '-' else '+') :: mag

end Decimal

/-- The text of a floating-point number. -/
def Binary64.toText : Binary64 → Text
  | .nan => ['n', 'a', 'n']
  | .infinite s => (if s then ['-'] else []) ++ ['i', 'n', 'f']
  | .finite s m e =>
      (if s then ['-'] else []) ++
        (if m = 0 then ['0', '.', '0'] else (Decimal.shortest m e).toText)

end AmbientBundle
