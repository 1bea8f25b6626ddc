import AmbientBundle.Number.Reading
import AmbientBundle.Number.Shortest
import AmbientBundle.Text.Quoted

/-!
# Values

A project file gives each option a value of any kind: nothing, a truth value, a
number, a text, a date, a sequence or a mapping.  What an option accepts is
decided later.  Here stand the questions that are asked of any value.

* `Value.holds` says whether the value counts as given: nothing, zero, an empty
  text and an empty collection do not.
* `Value.shown` is the text of the value in messages and where a text is wanted;
  inside a collection a text is quoted.
* `Value.sameKey` says whether two values are the same key of a mapping.  Truth
  values and numbers are the same key when they are the same number, and times with
  a known offset when they are the same instant.
* `Value.tooLong` and `Value.depth` measure what limits there are on writing a value.
-/

namespace AmbientBundle

/-- The offset of a time from universal time. -/
inductive Offset where
  /-- No offset is known. -/
  | unknown
  /-- Universal time. -/
  | universal
  /-- Some minutes ahead, or behind when negative. -/
  | minutes (m : Int)
  deriving DecidableEq, Repr

/-- A value of a project file. -/
inductive Value where
  /-- Nothing. -/
  | null
  /-- A truth value. -/
  | bool (b : Bool)
  /-- A whole number. -/
  | int (i : Int)
  /-- A floating-point number. -/
  | float (x : Binary64)
  /-- A text. -/
  | text (t : Text)
  /-- A day. -/
  | date (year month day : Nat)
  /-- A day and a time. -/
  | moment (year month day hour minute second micro : Nat) (offset : Offset)
  /-- Raw bytes. -/
  | bytes (bs : List UInt8)
  /-- A sequence. -/
  | list (items : List Value)
  /-- A fixed group. -/
  | tuple (items : List Value)
  /-- A collection without order. -/
  | set (items : List Value)
  /-- A mapping, in order. -/
  | map (entries : List (Value × Value))
  /-- A collection that this value lies in, a mapping or else a sequence. -/
  | again (isMap : Bool)
  deriving Inhabited, Repr

namespace Value

/-! ## Whether a value counts as given -/

/-- Whether a value is more than nothing, zero or empty. -/
def holds : Value → Bool
  | .null => false
  | .bool b => b
  | .int i => i ≠ 0
  | .float x => !x.isZero
  | .text t => !t.isEmpty
  | .bytes bs => !bs.isEmpty
  | .list vs => !vs.isEmpty
  | .tuple vs => !vs.isEmpty
  | .set vs => !vs.isEmpty
  | .map es => !es.isEmpty
  | .date .. => true
  | .moment .. => true
  | .again _ => true

/-- Whether a value is a number; a truth value counts as one. -/
def isNumber : Value → Bool
  | .bool _ => true
  | .int _ => true
  | .float _ => true
  | _ => false

/-- The whole number that a value is; a truth value counts as one. -/
def whole? : Value → Option Int
  | .bool b => some (if b then 1 else 0)
  | .int i => some i
  | _ => none

/-- The text of a text value. -/
def text? : Value → Option Text
  | .text t => some t
  | _ => none

/-! ## Keys -/

/-- The number of a truth value or of a number, as a numerator over a denominator. -/
def asRatio? : Value → Option (Int × Nat)
  | .bool b => some (if b then 1 else 0, 1)
  | .int i => some (i, 1)
  | .float (.finite s m e) =>
      let (n, d) := Binary64.ratio m e
      some (if s then -(n : Int) else (n : Int), d)
  | _ => none

/-- The days before a year. -/
def daysBefore (year : Nat) : Nat :=
  let y := year - 1
  y * 365 + y / 4 - y / 100 + y / 400

/-- Whether a year has a day more than the others. -/
def isLeap (year : Nat) : Bool := year % 4 = 0 && (year % 100 ≠ 0 || year % 400 = 0)

/-- The days of a month. -/
def daysIn (year month : Nat) : Nat :=
  if month = 2 then if isLeap year then 29 else 28
  else if month = 4 ∨ month = 6 ∨ month = 9 ∨ month = 11 then 30
  else 31

/-- The days of a year before a month. -/
def daysBeforeMonth (year : Nat) : Nat → Nat
  | 0 => 0
  | 1 => 0
  | month + 2 => daysBeforeMonth year (month + 1) + daysIn year (month + 1)

/-- The minutes by which a clock is ahead of universal time, if that is known. -/
def aheadOf? : Offset → Option Int
  | .unknown => none
  | .universal => some 0
  | .minutes m => some m

/-- The seconds of universal time up to a time, given by how much its clock is ahead. -/
def instant (y m d h n s : Nat) (ahead : Int) : Int :=
  let days := daysBefore y + daysBeforeMonth y m + d
  ((days * 86400 + h * 3600 + n * 60 + s : Nat) : Int) - ahead * 60

/-- Whether two times are the same instant.  A time without an offset is only the same as one
that is written the same. -/
def sameMoment (a b : Nat × Nat × Nat × Nat × Nat × Nat) (o o' : Offset) : Bool :=
  match aheadOf? o, aheadOf? o' with
  | some x, some x' =>
      let (y, m, d, h, n, s) := a
      let (y', m', d', h', n', s') := b
      instant y m d h n s x = instant y' m' d' h' n' s' x'
  | none, none => a = b
  | _, _ => false

/-- Whether two values are the same key. -/
def sameKey (a b : Value) : Bool :=
  match a, b with
  | .text s, .text t => s = t
  | .null, .null => true
  | .bytes s, .bytes t => s = t
  | .date y m d, .date y' m' d' => y = y' && m = m' && d = d'
  | .moment y m d h n s u o, .moment y' m' d' h' n' s' u' o' =>
      u = u' && sameMoment (y, m, d, h, n, s) (y', m', d', h', n', s') o o'
  | .float (.infinite s), .float (.infinite t) => s = t
  | _, _ =>
      match asRatio? a, asRatio? b with
      | some (n, d), some (n', d') => n * (d' : Int) = n' * (d : Int)
      | _, _ => false

/-- Set the value of a key, at the place the key already has or else at the end. -/
def setKey (k v : Value) : List (Value × Value) → List (Value × Value)
  | [] => [(k, v)]
  | (k', v') :: rest => if sameKey k' k then (k', v) :: rest else (k', v') :: setKey k v rest

/-- A mapping in which each key stands once, where it was first met, with its last value. -/
def mapOf (es : List (Value × Value)) : List (Value × Value) :=
  es.foldl (fun acc e => setKey e.1 e.2 acc) []

/-! ## Texts of values -/

/-- A number with at least some digits. -/
def padded (width n : Nat) : Text :=
  let ds := Nat.toDigits 10 n
  List.replicate (width - ds.length) '0' ++ ds

/-- The digits of a whole number. -/
def intText (i : Int) : Text :=
  if i < 0 then '-' :: Nat.toDigits 10 i.natAbs else Nat.toDigits 10 i.natAbs

/-- A day. -/
def dayText (y m d : Nat) : Text := padded 4 y ++ '-' :: padded 2 m ++ '-' :: padded 2 d

/-- An offset, as it follows a time. -/
def offsetText : Offset → Text
  | .unknown => []
  | .universal => ['+', '0', '0', ':', '0', '0']
  | .minutes m =>
      (if m < 0 then '-' else '+') :: padded 2 (m.natAbs / 60) ++ ':' :: padded 2 (m.natAbs % 60)

/-- A day and a time. -/
def momentText (y m d h n s u : Nat) (o : Offset) : Text :=
  dayText y m d ++ ' ' :: padded 2 h ++ ':' :: padded 2 n ++ ':' :: padded 2 s ++
    (if u = 0 then [] else '.' :: padded 6 u) ++ offsetText o

/-- Texts with commas between them. -/
def commas (ts : List Text) : Text := List.intercalate [',', ' '] ts

/-- Numbers with commas between them. -/
def numbers (ns : List Nat) : Text := commas (ns.map (Nat.toDigits 10))

/-- An offset inside a collection. -/
def offsetDetail : Offset → Text
  | .unknown => []
  | .universal => Text.ofString ", tzinfo=datetime.timezone.utc"
  | .minutes m =>
      let seconds := m * 60
      let inner :=
        if seconds < 0 then
          Text.ofString "days=-1, seconds=" ++ intText (86400 + seconds)
        else Text.ofString "seconds=" ++ intText seconds
      Text.ofString ", tzinfo=datetime.timezone(datetime.timedelta(" ++ inner ++ [')', ')']

/-- A byte inside quotes. -/
def byteText (q : Char) (b : UInt8) : Text :=
  let c := Char.ofNat b.toNat
  if c = q || c = '\\' then ['\\', c]
  else if c = '\n' then ['\\', 'n']
  else if c = '\r' then ['\\', 'r']
  else if c = '\t' then ['\\', 't']
  else if b < 0x20 || 0x7f ≤ b then '\\' :: 'x' :: Text.hex 2 b.toNat
  else [c]

/-- Bytes in quotes. -/
def bytesText (bs : List UInt8) : Text :=
  let q := Text.quoteFor (bs.map fun b => Char.ofNat b.toNat)
  'b' :: q :: bs.flatMap (byteText q) ++ [q]

mutual

/-- The text of a value inside a collection, given how texts are put in quotes. -/
def detail (quote : Text → Text) : Value → Text
  | .null => Text.ofString "None"
  | .bool b => Text.ofString (if b then "True" else "False")
  | .int i => intText i
  | .float x => x.toText
  | .text t => quote t
  | .date y m d => Text.ofString "datetime.date(" ++ numbers [y, m, d] ++ [')']
  | .moment y m d h n s u o =>
      let tail := if u ≠ 0 then [s, u] else if s ≠ 0 then [s] else []
      Text.ofString "datetime.datetime(" ++ numbers ([y, m, d, h, n] ++ tail) ++
        offsetDetail o ++ [')']
  | .bytes bs => bytesText bs
  | .list vs => '[' :: commas (details quote vs) ++ [']']
  | .tuple vs =>
      match details quote vs with
      | [one] => '(' :: one ++ [',', ')']
      | ts => '(' :: commas ts ++ [')']
  | .set vs =>
      if vs.isEmpty then Text.ofString "set()" else '{' :: commas (details quote vs) ++ ['}']
  | .map es => '{' :: commas (entryDetails quote es) ++ ['}']
  | .again isMap => Text.ofString (if isMap then "\x7b...\x7d" else "[...]")

/-- The texts of values inside a collection. -/
def details (quote : Text → Text) : List Value → List Text
  | [] => []
  | v :: vs => detail quote v :: details quote vs

/-- The texts of the entries of a mapping. -/
def entryDetails (quote : Text → Text) : List (Value × Value) → List Text
  | [] => []
  | (k, v) :: es => (detail quote k ++ ':' :: ' ' :: detail quote v) :: entryDetails quote es

end

/-- The text of a value, given how texts are put in quotes. -/
def shownWith (quote : Text → Text) : Value → Text
  | .text t => t
  | .date y m d => dayText y m d
  | .moment y m d h n s u o => momentText y m d h n s u o
  | v => detail quote v

/-- The text of a value. -/
def shown : Value → Text := shownWith Text.quote

/-! ## Limits -/

mutual

/-- Whether a value holds a whole number with too many digits to be written. -/
def tooLong : Value → Bool
  | .int i => Number.digitLimit < (Nat.toDigits 10 i.natAbs).length
  | .list vs => anyTooLong vs
  | .tuple vs => anyTooLong vs
  | .set vs => anyTooLong vs
  | .map es => anyEntryTooLong es
  | _ => false

/-- Whether one of some values holds such a number. -/
def anyTooLong : List Value → Bool
  | [] => false
  | v :: vs => tooLong v || anyTooLong vs

/-- Whether one of some entries holds such a number. -/
def anyEntryTooLong : List (Value × Value) → Bool
  | [] => false
  | (k, v) :: es => tooLong k || tooLong v || anyEntryTooLong es

end

mutual

/-- How many collections lie in one another. -/
def depth : Value → Nat
  | .list vs => depthOfAll vs + 1
  | .tuple vs => depthOfAll vs + 1
  | .set vs => depthOfAll vs + 1
  | .map es => depthOfEntries es + 1
  | _ => 0

/-- The largest depth of some values. -/
def depthOfAll : List Value → Nat
  | [] => 0
  | v :: vs => max (depth v) (depthOfAll vs)

/-- The largest depth of the values of some entries. -/
def depthOfEntries : List (Value × Value) → Nat
  | [] => 0
  | (_, v) :: es => max (depth v) (depthOfEntries es)

end

end Value
end AmbientBundle
