import AmbientBundle.Number.Reading
import AmbientBundle.Text.Half
import AmbientBundle.Value

/-!
# JSON

A manifest is JSON.  `Json.read` reads one value with white space around it and
nothing else.  Besides the values of the standard it takes `NaN`, `Infinity` and
`-Infinity`.  A string holds no control characters, but it may hold half a pair of
codes, if that is asked for by its code.  In an object with a repeated key the last
value counts.

The readers take a number of steps that is larger than the text is long, so they
never run out, and the number of arrays and objects that may still be opened in one
another.
-/

namespace AmbientBundle
namespace Json

/-- Why a text cannot be read. -/
inductive Error where
  /-- It is no JSON. -/
  | malformed
  /-- A whole number with more digits than are read. -/
  | tooLong
  /-- Arrays and objects that lie in one another too deep. -/
  | tooDeep
  deriving DecidableEq, Repr

/-- White space between the parts of a text. -/
def isSpace (c : Char) : Bool := c = ' ' || c = '\t' || c = '\n' || c = '\r'

/-- Drop white space. -/
def skip (t : Text) : Text := t.dropWhile isSpace

/-! ## Strings -/

/-- The character of a one-letter escape. -/
def escape? : Char → Option Char
  | '"' => some '"'
  | '\\' => some '\\'
  | '/' => some '/'
  | 'b' => some '\x08'
  | 'f' => some '\x0c'
  | 'n' => some '\n'
  | 'r' => some '\r'
  | 't' => some '\t'
  | _ => none

/-- Four hexadecimal digits at the front of a text. -/
def hexFour? (t : Text) : Option (Nat × Text) :=
  match t with
  | a :: b :: c :: d :: rest => (Number.readNat? 16 [a, b, c, d]).map fun n => (n, rest)
  | _ => none

/-- Whether a code opens a pair of codes. -/
def opensPair (n : Nat) : Bool := 0xd800 ≤ n && n ≤ 0xdbff

/-- Whether a code closes a pair of codes. -/
def closesPair (n : Nat) : Bool := 0xdc00 ≤ n && n ≤ 0xdfff

/-- A character written by its code, after `\u`.  Two codes that form a pair are one
character. -/
def code? (halves : Halves) (t : Text) : Option (Char × Text) :=
  match hexFour? t with
  | none => none
  | some (n, rest) =>
      if opensPair n then
        match rest with
        | '\\' :: 'u' :: more =>
            match hexFour? more with
            | none => none
            | some (m, tail) =>
                if closesPair m then
                  some (Char.ofNat (0x10000 + (n - 0xd800) * 1024 + (m - 0xdc00)), tail)
                else some (halves.char n, rest)
        | _ => some (halves.char n, rest)
      else some (halves.char n, rest)

/-- The rest of a string, after its opening quote. -/
def stringRest (halves : Halves) : Nat → Text → Option (Text × Text)
  | 0, _ => none
  | _ + 1, [] => none
  | steps + 1, c :: rest =>
      if c = '"' then some ([], rest)
      else if c = '\\' then
        match rest with
        | [] => none
        | 'u' :: more =>
            match code? halves more with
            | none => none
            | some (d, tail) => (stringRest halves steps tail).map fun r => (d :: r.1, r.2)
        | d :: tail =>
            match escape? d with
            | none => none
            | some e => (stringRest halves steps tail).map fun r => (e :: r.1, r.2)
      else if c.toNat < 0x20 then none
      else (stringRest halves steps rest).map fun r => (c :: r.1, r.2)

/-! ## Numbers -/

/-- The digits of the whole part: a single zero or digits that start with another one. -/
def wholePart? (t : Text) : Option (Text × Text) :=
  match t with
  | '0' :: rest => some (['0'], rest)
  | _ =>
      match t.takeWhile Number.isDigit with
      | [] => none
      | ds => some (ds, t.dropWhile Number.isDigit)

/-- The fraction at the front of a text, with its point. -/
def fraction (t : Text) : Text × Text :=
  match t with
  | '.' :: rest =>
      match rest.takeWhile Number.isDigit with
      | [] => ([], t)
      | ds => ('.' :: ds, rest.dropWhile Number.isDigit)
  | _ => ([], t)

/-- The exponent at the front of a text, with its letter and sign. -/
def exponent (t : Text) : Text × Text :=
  match t with
  | c :: rest =>
      if c = 'e' ∨ c = 'E' then
        let (sign, ds) :=
          match rest with
          | '-' :: ds => (['-'], ds)
          | '+' :: ds => (['+'], ds)
          | ds => ([], ds)
        match ds.takeWhile Number.isDigit with
        | [] => ([], t)
        | digits => ('e' :: sign ++ digits, ds.dropWhile Number.isDigit)
      else ([], t)
  | [] => ([], t)

/-- The number after its sign. -/
def number (negative : Bool) (t : Text) : Except Error (Value × Text) :=
  match wholePart? t with
  | none => .error .malformed
  | some (whole, rest) =>
      let (frac, rest) := fraction rest
      let (ex, rest) := exponent rest
      if frac = [] ∧ ex = [] then
        if Number.digitLimit < whole.length then .error .tooLong
        else
          let n : Int := (Number.ofDigits whole : Int)
          .ok (.int (if negative then -n else n), rest)
      else
        match Number.readDecimal? negative (whole ++ frac ++ ex) with
        | none => .error .malformed
        | some x => .ok (.float x, rest)

/-! ## Values -/

/-- The words that stand for a value. -/
def words : List (Text × Value) :=
  [("null".toList, .null), ("true".toList, .bool true), ("false".toList, .bool false),
    ("NaN".toList, .float .nan), ("Infinity".toList, .float (.infinite false)),
    ("-Infinity".toList, .float (.infinite true))]

/-- The word at the front of a text. -/
def word? (t : Text) : List (Text × Value) → Option (Value × Text)
  | [] => none
  | (w, v) :: more =>
      match Text.dropWord? w t with
      | some rest => some (v, rest)
      | none => word? t more

mutual

/-- A value at the front of a text. -/
def value (halves : Halves) (room : Nat) : Nat → Text → Except Error (Value × Text)
  | 0, _ => .error .malformed
  | steps + 1, t =>
      match t with
      | '"' :: rest =>
          match stringRest halves steps rest with
          | none => .error .malformed
          | some (s, tail) => .ok (.text s, tail)
      | '{' :: rest =>
          if room = 0 then .error .tooDeep
          else
            match skip rest with
            | '}' :: tail => .ok (.map [], tail)
            | more =>
                match members halves (room - 1) steps more with
                | .error e => .error e
                | .ok (es, tail) => .ok (.map (Value.mapOf es), tail)
      | '[' :: rest =>
          if room = 0 then .error .tooDeep
          else
            match skip rest with
            | ']' :: tail => .ok (.list [], tail)
            | more =>
                match items halves (room - 1) steps more with
                | .error e => .error e
                | .ok (vs, tail) => .ok (.list vs, tail)
      | _ =>
          match word? t words with
          | some found => .ok found
          | none =>
              match t with
              | '-' :: rest => number true rest
              | _ => number false t

/-- The members of an object up to its end. -/
def members (halves : Halves) (room : Nat) :
    Nat → Text → Except Error (List (Value × Value) × Text)
  | 0, _ => .error .malformed
  | steps + 1, t =>
      match t with
      | '"' :: rest =>
          match stringRest halves steps rest with
          | none => .error .malformed
          | some (k, tail) =>
              match skip tail with
              | ':' :: more =>
                  match value halves room steps (skip more) with
                  | .error e => .error e
                  | .ok (v, tail) =>
                      match skip tail with
                      | '}' :: tail => .ok ([(.text k, v)], tail)
                      | ',' :: more =>
                          match members halves room steps (skip more) with
                          | .error e => .error e
                          | .ok (es, tail) => .ok ((.text k, v) :: es, tail)
                      | _ => .error .malformed
              | _ => .error .malformed
      | _ => .error .malformed

/-- The items of an array up to its end. -/
def items (halves : Halves) (room : Nat) : Nat → Text → Except Error (List Value × Text)
  | 0, _ => .error .malformed
  | steps + 1, t =>
      match value halves room steps t with
      | .error e => .error e
      | .ok (v, tail) =>
          match skip tail with
          | ']' :: tail => .ok ([v], tail)
          | ',' :: more =>
              match items halves room steps (skip more) with
              | .error e => .error e
              | .ok (vs, tail) => .ok (v :: vs, tail)
          | _ => .error .malformed

end

/-- How many arrays and objects may lie in one another. -/
def nestingLimit : Nat := 988

/-- Read a text as one value. -/
def read (halves : Halves) (t : Text) : Except Error Value :=
  match value halves nestingLimit (2 * t.length + 2) (skip t) with
  | .error e => .error e
  | .ok (v, rest) => if skip rest = [] then .ok v else .error .malformed

end Json
end AmbientBundle
