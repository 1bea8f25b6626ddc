import AmbientBundle.Number.Binary64
import AmbientBundle.Text.Blank
import AmbientBundle.Text.Digits

/-!
# Reading numbers

Digits in a base, and decimals with a point and an exponent.  A decimal has at
least one digit before or after its point, and the number nearest to it is taken.

A number may stand between white space, have a sign, and be written with the digits
of any script.  `plain` brings it into the form with the digits `0` to `9`.
-/

namespace AmbientBundle
namespace Number

/-- The value of a digit, up to `f`. -/
def digit? (c : Char) : Option Nat :=
  if '0' ≤ c ∧ c ≤ '9' then some (c.toNat - '0'.toNat)
  else if 'a' ≤ c ∧ c ≤ 'f' then some (c.toNat - 'a'.toNat + 10)
  else if 'A' ≤ c ∧ c ≤ 'F' then some (c.toNat - 'A'.toNat + 10)
  else none

/-- Whether a character is one of the digits `0` to `9`. -/
def isDigit (c : Char) : Bool := '0' ≤ c && c ≤ '9'

/-- Whether a character is a hexadecimal digit. -/
def isHexDigit (c : Char) : Bool := (digit? c).isSome

/-- The number whose digits follow those of another. -/
def readFrom (base : Nat) (acc : Nat) : Text → Option Nat
  | [] => some acc
  | c :: rest =>
      match digit? c with
      | none => none
      | some d => if d < base then readFrom base (acc * base + d) rest else none

/-- The number written by some digits, of which there is at least one. -/
def readNat? (base : Nat) (t : Text) : Option Nat :=
  if t = [] then none else readFrom base 0 t

/-- The decimal digits a whole number may have. -/
def digitLimit : Nat := 4300

/-- The number written by decimal digits; other characters count as nothing. -/
def ofDigits (t : Text) : Nat := (readFrom 10 0 t).getD 0

/-- The exponent that ends a decimal: a letter, a sign and digits. -/
def readExponent? : Text → Option Int
  | [] => some 0
  | c :: rest =>
      if c = 'e' ∨ c = 'E' then
        match rest with
        | '-' :: ds => (readNat? 10 ds).map fun n => -(n : Int)
        | '+' :: ds => (readNat? 10 ds).map fun n => (n : Int)
        | ds => (readNat? 10 ds).map fun n => (n : Int)
      else none

/-- The number nearest to an unsigned decimal. -/
def readDecimal? (negative : Bool) (t : Text) : Option Binary64 :=
  let whole := t.takeWhile isDigit
  let after := t.dropWhile isDigit
  let (frac, tail) :=
    match after with
    | '.' :: rest => (rest.takeWhile isDigit, rest.dropWhile isDigit)
    | rest => ([], rest)
  if whole = [] ∧ frac = [] then none
  else
    (readExponent? tail).map fun e =>
      Binary64.ofDecimal negative (ofDigits (whole ++ frac)) (e - (frac.length : Int))

/-! ## Numbers with a sign -/

/-- White space that may stand around a number.  The four separators of ASCII are none. -/
def isMargin (c : Char) : Bool := Text.isBlank c && !(0x1c ≤ c.toNat && c.toNat ≤ 0x1f)

/-- A number without white space around it, in the digits `0` to `9`. -/
def plain (t : Text) : Text :=
  (((t.dropWhile isMargin).reverse.dropWhile isMargin).reverse).map Text.plainDigit

/-- Whether a minus sign stands in front of a text, and what follows the sign. -/
def signed (t : Text) : Bool × Text :=
  match t with
  | '-' :: rest => (true, rest)
  | '+' :: rest => (false, rest)
  | _ => (false, t)

/-- The letter that may mark digits of a base, after a zero. -/
def baseLetter? (base : Nat) : Option Char :=
  if base = 2 then some 'b' else if base = 8 then some 'o' else if base = 16 then some 'x' else none

/-- Digits without the mark of their base. -/
def dropBaseMark (base : Nat) (t : Text) : Text :=
  match t with
  | '0' :: c :: rest => if baseLetter? base = some c.toLower then rest else t
  | _ => t

/-- The whole number of a text.  In base ten there may not be too many digits. -/
def readInt? (base : Nat) (t : Text) : Option Int :=
  let (negative, rest) := signed (plain t)
  let digits := dropBaseMark base rest
  if base = 10 ∧ digitLimit < digits.length then none
  else (readNat? base digits).map fun n => if negative then -(n : Int) else (n : Int)

/-- Digits without the low lines between them; nothing if one stands elsewhere. -/
def ungrouped? (before : Bool) : Text → Option Text
  | [] => some []
  | '_' :: c :: rest =>
      if before && isDigit c then (ungrouped? true rest).map (c :: ·) else none
  | ['_'] => none
  | c :: rest => (ungrouped? (isDigit c) rest).map (c :: ·)

/-- The number nearest to a decimal with a sign in front of it, or an infinity, or what is no
number.  Single low lines may stand between digits. -/
def readFloat? (t : Text) : Option Binary64 :=
  (ungrouped? false (plain t)).bind fun digits =>
    let (negative, rest) := signed digits
    let word := String.ofList (Text.lower rest)
    if word = "inf" ∨ word = "infinity" then some (.infinite negative)
    else if word = "nan" then some .nan
    else readDecimal? negative rest

end Number
end AmbientBundle
