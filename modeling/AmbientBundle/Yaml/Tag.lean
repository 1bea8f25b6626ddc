import AmbientBundle.Number.Reading
import AmbientBundle.Text

/-!
# Tags

Every node has a tag that says what it stands for.  A scalar that leaves the choice
open gets its tag from its form: truth values, numbers, dates and the like are
recognised by their letters, and everything else is a text.
-/

namespace AmbientBundle
namespace Yaml
namespace Tag

/-- What the standard tags start with. -/
def standardStart : Text := "tag:yaml.org,2002:".toList

/-- A standard tag. -/
def standard (name : String) : Text := standardStart ++ name.toList

def null : Text := standard "null"
def bool : Text := standard "bool"
def int : Text := standard "int"
def float : Text := standard "float"
def timestamp : Text := standard "timestamp"
def binary : Text := standard "binary"
def text : Text := standard "str"
def sequence : Text := standard "seq"
def mapping : Text := standard "map"
def set : Text := standard "set"
def orderedMap : Text := standard "omap"
def pairs : Text := standard "pairs"
def merge : Text := standard "merge"
def value : Text := standard "value"
def indicator : Text := standard "yaml"

/-! ## Forms -/

/-- Whether a text is one of some words. -/
def isWord (ws : List String) (t : Text) : Bool := ws.any fun w => w.toList = t

/-- The words for truth values. -/
def isBool (t : Text) : Bool :=
  isWord ["yes", "Yes", "YES", "no", "No", "NO", "true", "True", "TRUE", "false", "False", "FALSE",
    "on", "On", "ON", "off", "Off", "OFF"] t

/-- The words for nothing. -/
def isNull (t : Text) : Bool := isWord ["", "~", "null", "Null", "NULL"] t

/-- A text without a sign in front. -/
def dropSign : Text → Text
  | '-' :: rest => rest
  | '+' :: rest => rest
  | t => t

/-- A digit or an underscore. -/
def isDigitOr_ (c : Char) : Bool := Number.isDigit c || c = '_'

/-- A digit followed by digits and underscores. -/
def isDigits : Text → Bool
  | c :: rest => Number.isDigit c && rest.all isDigitOr_
  | [] => false

/-- Digits in base sixty: one digit, or two of which the first is below six. -/
def isSixtieth : Text → Bool
  | [c] => Number.isDigit c
  | [b, c] => ('0' ≤ b && b ≤ '5') && Number.isDigit c
  | _ => false

/-- Nothing, or an exponent with a sign. -/
def isExponent : Text → Bool
  | [] => true
  | e :: sign :: ds =>
      (e = 'e' || e = 'E') && (sign = '-' || sign = '+') && ds ≠ [] && ds.all Number.isDigit
  | _ => false

/-- Digits and underscores, followed by an exponent or nothing. -/
def isFraction (t : Text) : Bool := isExponent (t.dropWhile isDigitOr_)

/-- Whether a text is a number with a point. -/
def isFloat (t : Text) : Bool :=
  let u := dropSign t
  let pieces := Text.splitOn '.' u
  let plain :=
    match pieces with
    | [whole, frac] => isDigits whole && isFraction frac
    | _ => false
  let bare :=
    match t with
    | '.' :: c :: rest => Number.isDigit c && isFraction rest
    | _ => false
  let sixty :=
    match pieces with
    | [whole, frac] =>
        match Text.splitOn ':' whole with
        | first :: second :: more =>
            isDigits first && (second :: more).all isSixtieth && frac.all isDigitOr_
        | _ => false
    | _ => false
  plain || bare || sixty || isWord [".inf", ".Inf", ".INF"] u || isWord [".nan", ".NaN", ".NAN"] t

/-- Whether a text is a whole number. -/
def isInt (t : Text) : Bool :=
  let some' (p : Char → Bool) (ds : Text) : Bool := ds ≠ [] && ds.all p
  match dropSign t with
  | '0' :: 'b' :: ds => some' (fun c => c = '0' || c = '1' || c = '_') ds
  | '0' :: 'x' :: ds => some' (fun c => Number.isHexDigit c || c = '_') ds
  | '0' :: ds => ds.all fun c => ('0' ≤ c && c ≤ '7') || c = '_'
  | c :: ds =>
      ('1' ≤ c && c ≤ '9') &&
        match Text.splitOn ':' ds with
        | first :: more => first.all isDigitOr_ && more.all isSixtieth
        | [] => false
  | [] => false

/-! ## Times -/

/-- A time as it was written. -/
structure Stamp where
  /-- The day. -/
  year : Nat
  month : Nat
  day : Nat
  /-- The time of day, with the digits of the fraction. -/
  time : Option (Nat × Nat × Nat × Text) := none
  /-- The offset: universal time, or a sign with hours and minutes. -/
  offset : Option (Option (Bool × Nat × Nat)) := none
  deriving DecidableEq, Repr

/-- At least and at most so many digits at the front of a text. -/
def digits? (least most : Nat) (t : Text) : Option (Nat × Text) :=
  let ds := (t.takeWhile Number.isDigit).take most
  if ds.length < least then none else some (Number.ofDigits ds, t.drop ds.length)

/-- A character at the front of a text. -/
def char? (c : Char) : Text → Option Text
  | d :: rest => if c = d then some rest else none
  | [] => none

/-- A blank of a time. -/
def isTimeBlank (c : Char) : Bool := c = ' ' || c = '\t'

/-- The offset at the end of a text. -/
def offset? (t : Text) : Option (Option (Option (Bool × Nat × Nat))) :=
  match t.dropWhile isTimeBlank with
  | [] => if t = [] then some none else none
  | ['Z'] => some (some none)
  | sign :: rest =>
      if sign = '-' ∨ sign = '+' then do
        let (hours, rest) ← digits? 1 2 rest
        match rest with
        | [] => some (some (some (sign = '-', hours, 0)))
        | _ => do
            let rest ← char? ':' rest
            let (minutes, rest) ← digits? 2 2 rest
            if rest = [] then some (some (some (sign = '-', hours, minutes))) else none
      else none

/-- The time of day at the end of a text, after the mark that separates it from the day. -/
def time? (t : Text) : Option ((Nat × Nat × Nat × Text) × Option (Option (Bool × Nat × Nat))) := do
  let (hour, t) ← digits? 1 2 t
  let t ← char? ':' t
  let (minute, t) ← digits? 2 2 t
  let t ← char? ':' t
  let (second, t) ← digits? 2 2 t
  let (fraction, t) :=
    match t with
    | '.' :: rest => (rest.takeWhile Number.isDigit, rest.dropWhile Number.isDigit)
    | rest => ([], rest)
  let offset ← offset? t
  pure ((hour, minute, second, fraction), offset)

/-- Read a time.  With `strict` a day alone has two digits for the month and two for the day. -/
def stamp? (strict : Bool) (t : Text) : Option Stamp := do
  let (year, t) ← digits? 4 4 t
  let t ← char? '-' t
  let (month, afterMonth) ← digits? 1 2 t
  let rest ← char? '-' afterMonth
  let (day, tail) ← digits? 1 2 rest
  match tail with
  | [] =>
      if !strict || (t.length - afterMonth.length = 2 && rest.length = 2) then
        some { year, month, day }
      else none
  | c :: more =>
      let clock ←
        if c = 'T' ∨ c = 't' then some more
        else if isTimeBlank c then some (more.dropWhile isTimeBlank)
        else none
      let (time, offset) ← time? clock
      pure { year, month, day, time := some time, offset }

/-! ## The tag of a scalar without one -/

/-- A text without the line feed that ends it, unless that is all there is. -/
def dropFinalNewline (t : Text) : Text :=
  match t.reverse with
  | '\n' :: c :: front => (c :: front).reverse
  | _ => t

/-- The tag of a form. -/
def ofForm (t : Text) : Text :=
  if isBool t then bool
  else if isFloat t then float
  else if isInt t then int
  else if t = ['<', '<'] then merge
  else if isNull t then null
  else if (stamp? true t).isSome then timestamp
  else if t = ['='] then value
  else if t = ['!'] ∨ t = ['&'] ∨ t = ['*'] then indicator
  else text

/-- The tag that the form of a scalar gives it.  A line feed at the end does not count. -/
def ofPlain (t : Text) : Text := ofForm (dropFinalNewline t)

end Tag
end Yaml
end AmbientBundle
