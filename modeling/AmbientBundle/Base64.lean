import AmbientBundle.Utf8

/-!
# Base 64

Four characters of base 64 are three bytes.  The last group may be short: then `=`
fills it up, and what follows a group that is filled up is not read any more.
Characters that are no digits of base 64 are passed over, and so is an `=` that fills
nothing up.
-/

namespace AmbientBundle
namespace Base64

/-- Why a text holds no bytes. -/
inductive Error where
  /-- The last group is short and nothing fills it up. -/
  | short
  /-- The last group has a single digit; the count is that of all digits. -/
  | single (count : Nat)
  deriving DecidableEq, Repr

/-- The value of a digit. -/
def digit? (c : Char) : Option Nat :=
  if 'A' ≤ c ∧ c ≤ 'Z' then some (c.toNat - 65)
  else if 'a' ≤ c ∧ c ≤ 'z' then some (c.toNat - 71)
  else if '0' ≤ c ∧ c ≤ '9' then some (c.toNat + 4)
  else if c = '+' then some 62
  else if c = '/' then some 63
  else none

/-- The bytes of a group. -/
def group : List Nat → Bytes
  | [a, b] => [UInt8.ofNat (a * 4 + b / 16)]
  | [a, b, c] => [UInt8.ofNat (a * 4 + b / 16), UInt8.ofNat (b % 16 * 16 + c / 4)]
  | [a, b, c, d] =>
      [UInt8.ofNat (a * 4 + b / 16), UInt8.ofNat (b % 16 * 16 + c / 4),
        UInt8.ofNat (c % 4 * 64 + d)]
  | _ => []

/-- The bytes of the rest of a text, given the digits of the group that is open, how many `=`
have followed them, and how many groups are full. -/
def decodeFrom (digits : List Nat) (fill full : Nat) : Text → Except Error Bytes
  | [] =>
      match digits with
      | [] => .ok []
      | [_] => .error (.single (full * 4 + 1))
      | _ => .error .short
  | c :: rest =>
      if c = '=' then
        if digits.length < 2 then decodeFrom digits fill full rest
        else if 4 ≤ digits.length + fill + 1 then .ok (group digits)
        else decodeFrom digits (fill + 1) full rest
      else
        match digit? c with
        | none => decodeFrom digits fill full rest
        | some d =>
            if digits.length = 3 then
              match decodeFrom [] 0 (full + 1) rest with
              | .error e => .error e
              | .ok bs => .ok (group (digits ++ [d]) ++ bs)
            else decodeFrom (digits ++ [d]) 0 full rest

/-- The bytes of a text. -/
def decode (t : Text) : Except Error Bytes := decodeFrom [] 0 0 t

/-- The message of an error. -/
def Error.message : Error → String
  | .short => "Incorrect padding"
  | .single count =>
      "Invalid base64-encoded string: number of data characters (" ++ toString count ++
        ") cannot be 1 more than a multiple of 4"

/-- The digits in their order. -/
def alphabet : Text :=
  "ABCDEFGHIJKLMNOPQRSTUVWXYZabcdefghijklmnopqrstuvwxyz0123456789+/".toList

/-- The character of a digit. -/
def letter (n : Nat) : Char := (alphabet[n % 64]?).getD '='

/-- Bytes as digits, three bytes as four digits; what is missing at the end is filled up. -/
def encode : Bytes → Text
  | [] => []
  | [a] => [letter (a.toNat / 4), letter (a.toNat * 16), '=', '=']
  | [a, b] =>
      [letter (a.toNat / 4), letter (a.toNat % 4 * 16 + b.toNat / 16), letter (b.toNat % 16 * 4), '=']
  | a :: b :: c :: rest =>
      letter (a.toNat / 4) :: letter (a.toNat % 4 * 16 + b.toNat / 16) ::
        letter (b.toNat % 16 * 4 + c.toNat / 64) :: letter c.toNat :: encode rest

end Base64
end AmbientBundle
