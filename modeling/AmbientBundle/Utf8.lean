import AmbientBundle.Text
import AmbientBundle.Text.Quoted

/-!
# UTF-8

Files hold bytes.  `decode` reads them as UTF-8 and refuses every sequence that
is not well formed: a stray or missing continuation byte, a longer form than
needed, a surrogate, a code point that is too large.  `flaw?` says what is wrong with
such bytes.  `encode` writes a text.
-/

namespace AmbientBundle
namespace Utf8

/-- The content of a file. -/
abbrev Bytes := List UInt8

/-- The bytes of a text, counted. -/
def size (t : List Char) : Nat := t.foldl (fun n c => n + c.utf8Size) 0

/-- A byte of the form `10xxxxxx`, within bounds. -/
def isNext (b : UInt8) (lo hi : UInt8) : Bool := lo ≤ b && b ≤ hi

/-- The value of a continuation byte. -/
def nextBits (b : UInt8) : Nat := b.toNat % 64

/-- The bounds of the byte after the lead of a three-byte form: no longer form than needed
and no surrogate. -/
def secondOfThree (lead : UInt8) : UInt8 × UInt8 :=
  if lead = 0xe0 then (0xa0, 0xbf) else if lead = 0xed then (0x80, 0x9f) else (0x80, 0xbf)

/-- The bounds of the byte after the lead of a four-byte form: no longer form than needed and
nothing above the last code point. -/
def secondOfFour (lead : UInt8) : UInt8 × UInt8 :=
  if lead = 0xf0 then (0x90, 0xbf) else if lead = 0xf4 then (0x80, 0x8f) else (0x80, 0xbf)

/-- Read bytes as UTF-8. -/
def decode : Bytes → Option Text
  | [] => some []
  | a :: rest =>
      if a < 0x80 then (decode rest).map (Char.ofNat a.toNat :: ·)
      else if 0xc2 ≤ a && a ≤ 0xdf then
        match rest with
        | b :: rest =>
            if isNext b 0x80 0xbf then
              (decode rest).map (Char.ofNat (a.toNat % 32 * 64 + nextBits b) :: ·)
            else none
        | [] => none
      else if 0xe0 ≤ a && a ≤ 0xef then
        match rest with
        | b :: c :: rest =>
            if isNext b (secondOfThree a).1 (secondOfThree a).2 && isNext c 0x80 0xbf then
              (decode rest).map
                (Char.ofNat (a.toNat % 16 * 4096 + nextBits b * 64 + nextBits c) :: ·)
            else none
        | _ => none
      else if 0xf0 ≤ a && a ≤ 0xf4 then
        match rest with
        | b :: c :: d :: rest =>
            if isNext b (secondOfFour a).1 (secondOfFour a).2 && isNext c 0x80 0xbf &&
                isNext d 0x80 0xbf then
              (decode rest).map
                (Char.ofNat
                  (a.toNat % 8 * 262144 + nextBits b * 4096 + nextBits c * 64 + nextBits d) :: ·)
            else none
        | _ => none
      else none

/-! ## Flaws -/

/-- What is wrong with bytes that are not UTF-8. -/
inductive Flaw where
  /-- A byte starts no sequence. -/
  | start
  /-- A sequence does not go on as it should. -/
  | next
  /-- The bytes end inside of a sequence. -/
  | tail
  deriving DecidableEq, Repr

/-- The wording of a flaw. -/
def Flaw.text : Flaw → String
  | .start => "invalid start byte"
  | .next => "invalid continuation byte"
  | .tail => "unexpected end of data"

/-- The bounds of the bytes that have to follow a lead byte; nothing if it is none. -/
def following? (lead : UInt8) : Option (List (UInt8 × UInt8)) :=
  if lead < 0x80 then some []
  else if 0xc2 ≤ lead && lead ≤ 0xdf then some [(0x80, 0xbf)]
  else if 0xe0 ≤ lead && lead ≤ 0xef then some [secondOfThree lead, (0x80, 0xbf)]
  else if 0xf0 ≤ lead && lead ≤ 0xf4 then some [secondOfFour lead, (0x80, 0xbf), (0x80, 0xbf)]
  else none

/-- How many of some bytes are as they have to be, and whether they end too early. -/
def goodNext : List (UInt8 × UInt8) → Bytes → Nat × Option Flaw
  | [], _ => (0, none)
  | _ :: _, [] => (0, some .tail)
  | (lo, hi) :: more, b :: rest =>
      if isNext b lo hi then
        let (n, flaw) := goodNext more rest
        (n + 1, flaw)
      else (0, some .next)

/-- The first flaw of some bytes: where it starts and how many bytes it takes. -/
def flaw? : Nat → Nat → Bytes → Option (Flaw × Nat × Nat)
  | 0, _, _ => none
  | _ + 1, _, [] => none
  | steps + 1, position, lead :: rest =>
      match following? lead with
      | none => some (.start, position, 1)
      | some bounds =>
          match goodNext bounds rest with
          | (n, some flaw) => some (flaw, position, n + 1)
          | (n, none) => flaw? steps (position + n + 1) (rest.drop n)

/-- The complaint about bytes that are not UTF-8. -/
def complaint (bs : Bytes) : String :=
  match flaw? (bs.length + 1) 0 bs with
  | none => ""
  | some (flaw, position, length) =>
      let what :=
        if length = 1 then
          "byte 0x" ++ Text.toString (Text.hex 2 (bs.getD position 0).toNat) ++ " in position " ++
            toString position
        else
          "bytes in position " ++ toString position ++ "-" ++ toString (position + length - 1)
      "'utf-8' codec can't decode " ++ what ++ ": " ++ flaw.text

/-- Write a text as UTF-8. -/
def encode (t : Text) : Bytes := t.flatMap String.utf8EncodeChar

end Utf8

/-- The content of a file. -/
abbrev Bytes := Utf8.Bytes

end AmbientBundle
