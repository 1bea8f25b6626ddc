import AmbientBundle.Base64
import AmbientBundle.Value
import AmbientBundle.Yaml.Error
import AmbientBundle.Yaml.Tag

/-!
# What scalars mean

A scalar is a text, and its tag says what the text means: nothing, a truth value, a
number, a day or time, or bytes.  A tag can be given to any scalar, so every reading
can fail.

Underscores do not count in numbers, and one sign in front of a number is taken off
before it is read.  A number with colons is written in base sixty.
-/

namespace AmbientBundle
namespace Yaml
namespace Meaning

/-! ## Numbers -/

/-- The text without underscores. -/
def dropUnderscores (t : Text) : Text := t.filter (· ≠ '_')

/-- Numbers in base sixty, the last one counting once. -/
def sixties (ns : List Int) : Int := ns.foldl (fun acc n => acc * 60 + n) 0

/-- The whole number of a text without a sign. -/
def wholeOf? (t : Text) : Option Int :=
  match t with
  | ['0'] => some 0
  | '0' :: 'b' :: rest => Number.readInt? 2 rest
  | '0' :: 'x' :: rest => Number.readInt? 16 rest
  | '0' :: _ => Number.readInt? 8 t
  | _ =>
      if t.contains ':' then ((Text.splitOn ':' t).mapM (Number.readInt? 10)).map sixties
      else Number.readInt? 10 t

/-- The whole number of a text. -/
def int (t : Text) : Except Error Value :=
  let u := dropUnderscores t
  let (negative, body) := Number.signed u
  if u = [] ∨ body = [] then .error (.misuse .position)
  else
    match wholeOf? body with
    | some n => .ok (.int (if negative then -n else n))
    | none => .error (.misuse .range)

/-- Numbers in base sixty, the last one first.  Each place is rounded before it counts, and a
place that is too large to be rounded is an error. -/
def sixtiesFloat : Nat → Binary64 → List Binary64 → Except Error Binary64
  | _, acc, [] => .ok acc
  | place, acc, x :: rest =>
      match Binary64.ofNat? place with
      | none => .error (.misuse .size)
      | some weight => sixtiesFloat (place * 60) (acc.add (x.mul weight)) rest

/-- The text of the number that is no number. -/
def noNumber : Text := ".nan".toList

/-- The floating-point number of a text without a sign, in lower case. -/
def realOf (t : Text) : Except Error Binary64 :=
  if t = ".inf".toList then .ok (.infinite false)
  else if t = noNumber then .ok .nan
  else if t.contains ':' then
    match (Text.splitOn ':' t).mapM Number.readFloat? with
    | none => .error (.misuse .range)
    | some xs => sixtiesFloat 1 (Binary64.zero false) xs.reverse
  else
    match Number.readFloat? t with
    | none => .error (.misuse .range)
    | some x => .ok x

/-- Whether a minus sign stands in front of a floating-point number, and what follows it. -/
def realBody (t : Text) : Bool × Text := Number.signed (Text.lower (dropUnderscores t))

/-- The floating-point number of a text. -/
def float (t : Text) : Except Error Value :=
  if dropUnderscores t = [] then .error (.misuse .position)
  else
    let (negative, body) := realBody t
    match realOf body with
    | .error e => .error e
    | .ok x => .ok (.float (if negative then x.negate else x))

/-- Whether a text is the word for what is no number. -/
def isNoNumber (t : Text) : Bool := (realBody t).2 = noNumber

/-! ## Times -/

/-- Whether there is such a day. -/
def isDay (year month day : Nat) : Bool :=
  1 ≤ year && 1 ≤ month && month ≤ 12 && 1 ≤ day && day ≤ Value.daysIn year month

/-- The millionths that some digits of a fraction stand for. -/
def millionths (ds : Text) : Nat :=
  let front := ds.take 6
  Number.ofDigits (front ++ List.replicate (6 - front.length) '0')

/-- The offset of a time, if it is less than a day. -/
def offsetOf : Option (Option (Bool × Nat × Nat)) → Option Offset
  | none => some .unknown
  | some none => some .universal
  | some (some (behind, hours, minutes)) =>
      let m := hours * 60 + minutes
      if 1440 ≤ m then none
      else if m = 0 then some .universal
      else some (.minutes (if behind then -(m : Int) else (m : Int)))

/-- The day or time of a text. -/
def time (t : Text) : Except Error Value :=
  match Tag.stamp? false (Tag.dropFinalNewline t) with
  | none => .error (.misuse .operation)
  | some s =>
      match s.time with
      | none =>
          if isDay s.year s.month s.day then .ok (.date s.year s.month s.day)
          else .error (.misuse .range)
      | some (hour, minute, second, fraction) =>
          match offsetOf s.offset with
          | none => .error (.misuse .range)
          | some offset =>
              if !isDay s.year s.month s.day ∨ 24 ≤ hour ∨ 60 ≤ minute ∨ 60 ≤ second then
                .error (.misuse .range)
              else
                .ok (.moment s.year s.month s.day hour minute second (millionths fraction) offset)

/-! ## Words and bytes -/

/-- The truth value of a word. -/
def bool (t : Text) : Except Error Value :=
  let w := String.ofList (Text.lower t)
  if w = "yes" ∨ w = "true" ∨ w = "on" then .ok (.bool true)
  else if w = "no" ∨ w = "false" ∨ w = "off" then .ok (.bool false)
  else .error (.misuse .word)

/-- Whether a character is one of ASCII. -/
def isAscii (c : Char) : Bool := c.toNat < 0x80

/-- The complaint about the first characters of a text that are not in ASCII. -/
def notAscii (t : Text) : String :=
  let before := (t.takeWhile isAscii).length
  let outside := (t.dropWhile isAscii).takeWhile (!isAscii ·)
  let what :=
    match outside with
    | [c] =>
        let n := c.toNat
        let code :=
          if n ≤ 0xff then 'x' :: Text.hex 2 n
          else if n ≤ 0xffff then 'u' :: Text.hex 4 n
          else 'U' :: Text.hex 8 n
        "character '\\" ++ Text.toString code ++ "' in position " ++ toString before
    | _ =>
        "characters in position " ++ toString before ++ "-" ++
          toString (before + outside.length - 1)
  "'ascii' codec can't encode " ++ what ++ ": ordinal not in range(128)"

/-- The bytes of a text in base 64, for a node that starts at a place. -/
def binary (t : Text) (m : Mark) : Except Error Value :=
  if t.all isAscii then
    match Base64.decode t with
    | .ok bs => .ok (.bytes bs)
    | .error e => .error (.form none none ("failed to decode base64 data: " ++ e.message) m)
  else .error (.form none none ("failed to convert base64 data into ascii: " ++ notAscii t) m)

/-! ## Tags -/

/-- What a text means under a tag, for a node that starts at a place; nothing if the tag is not
one of a scalar. -/
def of? (tag value : Text) (m : Mark) : Option (Except Error Value) :=
  if tag = Tag.text then some (.ok (.text value))
  else if tag = Tag.null then some (.ok .null)
  else if tag = Tag.bool then some (bool value)
  else if tag = Tag.int then some (int value)
  else if tag = Tag.float then some (float value)
  else if tag = Tag.timestamp then some (time value)
  else if tag = Tag.binary then some (binary value m)
  else none

end Meaning
end Yaml
end AmbientBundle
