import AmbientBundle.Text.Member
import AmbientBundle.Utility.Filters

/-!
# Utilities for single bytes

`tr` replaces, drops or squeezes bytes; `od` shows them as numbers or characters.
-/

namespace AmbientBundle
namespace Utility

/-! ## Replacing bytes -/

/-- A part of a list of bytes. -/
inductive TrItem where
  /-- Bytes one after the other. -/
  | bytes (t : Octets)
  /-- A class of bytes. -/
  | kind (name : String)
  /-- A byte so many times; zero stands for as often as needed. -/
  | repeated (c : Char) (n : Nat)
  deriving Repr

/-- Whether a part is a class. -/
def TrItem.isKind : TrItem → Bool
  | .kind _ => true
  | _ => false

/-- The byte that an escape stands for, and what follows it. -/
def trEscape : Octets → Char × Octets
  | 'n' :: r => ('\n', r)
  | 't' :: r => ('\t', r)
  | 'r' :: r => ('\r', r)
  | 'a' :: r => ('\x07', r)
  | 'b' :: r => ('\x08', r)
  | 'f' :: r => ('\x0c', r)
  | 'v' :: r => ('\x0b', r)
  | c :: r =>
      let isOctal (c : Char) : Bool := '0' ≤ c && c ≤ '7'
      if isOctal c then
        let ds := ((c :: r).take 3).takeWhile isOctal
        (Char.ofNat (ds.foldl (fun n c => n * 8 + (c.toNat - 48)) 0 % 256), (c :: r).drop ds.length)
      else (c, r)
  | [] => ('\\', [])

/-- The next byte of a list. -/
def trByte : Octets → Option (Char × Octets)
  | [] => none
  | '\\' :: rest => some (trEscape rest)
  | c :: rest => some (c, rest)

/-- The parts of a list of bytes. -/
def trItems : Nat → Octets → Except Octets (List TrItem)
  | 0, _ => .ok []
  | n + 1, t =>
      match t with
      | [] => .ok []
      | '[' :: ':' :: rest =>
          let name := rest.takeWhile (· ≠ ':')
          match rest.drop name.length with
          | ':' :: ']' :: after =>
              if ["alpha", "digit", "alnum", "upper", "lower", "space", "blank", "punct", "print",
                  "graph", "cntrl", "xdigit"].contains (String.ofList name) then
                (trItems n after).map (.kind (String.ofList name) :: ·)
              else .error ("invalid character class ".toList ++ curled name)
          | _ => plain n t
      | '[' :: '=' :: c :: '=' :: ']' :: after => (trItems n after).map (.bytes [c] :: ·)
      | '[' :: c :: '*' :: rest =>
          let ds := rest.takeWhile Char.isDigit
          match rest.drop ds.length with
          | ']' :: after =>
              let count := if ds.head? = some '0' then
                ds.foldl (fun n c => n * 8 + (c.toNat - 48)) 0 else (Octets.toNat? ds).getD 0
              (trItems n after).map (.repeated c count :: ·)
          | _ => plain n t
      | _ => plain n t
where
  /-- A byte or a range of bytes. -/
  plain (n : Nat) (t : Octets) : Except Octets (List TrItem) :=
    match trByte t with
    | none => .ok []
    | some (a, '-' :: rest) =>
        match trByte rest with
        | none => .ok [.bytes [a, '-']]
        | some (b, after) =>
            if b < a then
              .error ("range-endpoints of '".toList ++ [a, '-', b] ++
                "' are in reverse collating sequence order".toList)
            else
              let bytes := (List.range (b.toNat - a.toNat + 1)).map fun k => Char.ofNat (a.toNat + k)
              (trItems n after).map (.bytes bytes :: ·)
    | some (a, rest) => (trItems n rest).map (.bytes [a] :: ·)

/-- All bytes. -/
def allBytes : Octets := (List.range 256).map Char.ofNat

/-- The bytes of a list, filled up to a length where a byte is repeated as needed. -/
def trBytes (items : List TrItem) (wanted : Nat) : Octets :=
  let fixed := (items.map fun
    | .bytes t => t.length
    | .kind name => (allBytes.filter (inClass name)).length
    | .repeated _ n => n).foldl (· + ·) 0
  items.flatMap fun
    | .bytes t => t
    | .kind name => allBytes.filter (inClass name)
    | .repeated c 0 => List.replicate (wanted - fixed) c
    | .repeated c n => List.replicate n c

/-- Whether a part is one of the two classes of letters. -/
def TrItem.isCase : TrItem → Bool
  | .kind name => name = "lower" || name = "upper"
  | _ => false

/-- Where the classes of letters start. -/
def casePlaces (items : List TrItem) : List Nat :=
  (List.range items.length).filterMap fun i =>
    if (items[i]?.map TrItem.isCase).getD false then some (trBytes (items.take i) 0).length else none

/-- Why one list of bytes cannot be replaced by another. -/
def mismatch? (complemented : Bool) (a b : List TrItem) (set1 set2 : Octets) : Option String :=
  if b.any fun i => i.isKind && !i.isCase then
    some ("when translating, the only character classes that may appear in\n" ++
      "string2 are 'upper' and 'lower'")
  else if !complemented && (casePlaces b).any (!(casePlaces a).contains ·) then
    some "misaligned [:upper:] and/or [:lower:] construct"
  else if set1.length > set2.length && (b.getLast?.map TrItem.isKind).getD false then
    some ("when translating with string1 longer than string2,\n" ++
      "the latter string must not end with a character class")
  else if complemented && a.any TrItem.isKind && set2.any (· ≠ set2.headD ' ') then
    some ("when translating with complemented character classes,\n" ++
      "string2 must map all characters in the domain to one")
  else if set2.isEmpty then some "when not truncating set1, string2 must be non-empty"
  else none

/-- A text in which a byte from a set never follows itself. -/
def squeezed (inSet : Char → Bool) (last : Option Char) : Octets → Octets
  | [] => []
  | c :: rest =>
      if last = some c && inSet c then squeezed inSet last rest
      else c :: squeezed inSet (some c) rest

/-- Replace, drop or squeeze bytes. -/
def tr : Tool := fun name args =>
  { Options.of "cCdst" [("complement", 'c', .none), ("delete", 'd', .none),
      ("squeeze-repeats", 's', .none), ("truncate-set1", 't', .none)] with strict := true }.handle
    name args fun gs ops => do
      let deletes := given gs 'd'
      let squeezes := given gs 's'
      let note (t : String) : Work Unit := do
        Work.rawComplaint (t.toList ++ ['\n'])
        pointToHelp name
        Work.fail 1
      let most := if deletes && !squeezes then 1 else 2
      match ops with
      | [] => misused name "missing operand".toList
      | first :: rest =>
          if rest.isEmpty && deletes && squeezes then
            Work.complain name ("missing operand after ".toList ++ curled first)
            note "Two strings must be given when both deleting and squeezing repeats."
          else if rest.isEmpty && !deletes && !squeezes then
            Work.complain name ("missing operand after ".toList ++ curled first)
            note "Two strings must be given when translating."
          else if ops.length > most then
            Work.complain name ("extra operand ".toList ++ curled ((ops.drop most).headD []))
            if most = 1 && ops.length = 2 then
              note "Only one string may be given when deleting without squeezing repeats."
            else
              pointToHelp name
              Work.fail 1
          else
            match trItems (first.length + 1) first,
                trItems ((rest.headD []).length + 1) (rest.headD []) with
            | .error t, _ => Work.refuse name t
            | _, .error t => Work.refuse name t
            | .ok a, .ok b =>
                let set1 := trBytes a 0
                let set1 := if givenAny gs "cC" then allBytes.filter (!set1.contains ·) else set1
                let set2 := trBytes b set1.length
                let input ← Work.takeInput
                let open' := b.any fun
                  | .repeated _ 0 => true
                  | _ => false
                if open' && (deletes || rest.isEmpty) then
                  Work.refuse name
                    "the [c*] construct may appear in string2 only when translating".toList
                else if deletes then
                  let kept := input.filter (!set1.contains ·)
                  Work.write (if squeezes then squeezed set2.contains none kept else kept)
                else if rest.isEmpty then Work.write (squeezed set1.contains none input)
                else if let some t := mismatch? (givenAny gs "cC") a b set1 set2 then
                  Work.refuse name t.toList
                else
                  let filler := set2.getLastD ' '
                  let full := if given gs 't' then set2 else
                    set2 ++ List.replicate (set1.length - set2.length) filler
                  let table := (set1.zip full).foldl
                    (fun (t : Array Char) (p : Char × Char) => t.setIfInBounds p.1.toNat p.2)
                    allBytes.toArray
                  let out := input.map fun c : Char => (table[c.toNat]?).getD c
                  Work.write (if squeezes then squeezed set2.contains none out else out)

/-! ## Showing bytes -/

/-- Digits with zeros in front. -/
def padded (base width n : Nat) : Octets :=
  let ds := Nat.toDigits base n
  List.replicate (width - ds.length) '0' ++ ds

/-- A byte as a character of three columns. -/
def odChar (c : Char) : Octets :=
  let t : Octets :=
    match c with
    | '\x00' => ['\\', '0']
    | '\x07' => ['\\', 'a']
    | '\x08' => ['\\', 'b']
    | '\t' => ['\\', 't']
    | '\n' => ['\\', 'n']
    | '\x0b' => ['\\', 'v']
    | '\x0c' => ['\\', 'f']
    | '\r' => ['\\', 'r']
    | c => if c.toNat < 32 || c.toNat ≥ 127 then padded 8 3 c.toNat else [c]
  List.replicate (3 - t.length) ' ' ++ t

/-- The values of a row, by the letters of a type. -/
def odRow (kind : Octets) (row : Octets) : Octets :=
  let unit := (Octets.toNat? (kind.drop 1)).getD (match kind.head? with
    | some 'x' => 4
    | some 'o' => 4
    | some 'd' => 4
    | some 'u' => 4
    | _ => 1)
  let value (bs : Octets) : Nat := (bs.reverse).foldl (fun n c => n * 256 + c.toNat) 0
  let groups := (List.range ((row.length + unit - 1) / max unit 1)).map fun k =>
    (row.drop (k * unit)).take unit
  match kind.head? with
  | some 'c' => row.flatMap fun c => ' ' :: odChar c
  | some 'x' => groups.flatMap fun g => ' ' :: padded 16 (2 * unit) (value g)
  | some 'o' =>
      let width := if unit = 1 then 3 else if unit = 2 then 6 else 11
      groups.flatMap fun g => ' ' :: padded 8 width (value g)
  | some 'u' =>
      let width := if unit = 1 then 3 else if unit = 2 then 5 else 10
      groups.flatMap fun g => ' ' :: atRight width (value g)
  | some 'd' =>
      let width := if unit = 1 then 4 else if unit = 2 then 6 else 11
      groups.flatMap fun g => ' ' :: atRight width (value g)
  | _ => row.flatMap fun c => ' ' :: odChar c

/-- Rows of sixteen bytes with their places.  A row like the one before is not shown again. -/
def odRows (address : Nat → Octets) (kinds : List Octets) (all : Bool) :
    Nat → Nat → Option Octets → Bool → Octets → List Octets
  | 0, _, _, _, _ => []
  | n + 1, at', last, starred, t =>
      if t.isEmpty then (if (address at').isEmpty then [] else [address at'])
      else
        let row := t.take 16
        if last = some row && !all && t.length > 16 then
          (if starred then [] else [['*']]) ++
            odRows address kinds all n (at' + 16) last true (t.drop 16)
        else
          let front := address at'
          let blank := List.replicate front.length ' '
          let shownRows := kinds.zipIdx.map fun (k, i) =>
            (if i = 0 then front else blank) ++ odRow k row
          shownRows ++ odRows address kinds all n (at' + row.length) (some row) false (t.drop 16)

/-- Show bytes. -/
def od : Tool := fun name args =>
  (Options.of "A:t:N:j:bcdoxv" [("address-radix", 'A', .one), ("format", 't', .one),
      ("read-bytes", 'N', .one), ("skip-bytes", 'j', .one),
      ("output-duplicates", 'v', .none)]).handle name args fun gs ops => do
    let kinds := gs.filterMap fun (c, a) =>
      match c with
      | 't' => some a
      | 'b' => some ['o', '1']
      | 'c' => some ['c']
      | 'd' => some ['u', '2']
      | 'o' => some ['o', '2']
      | 'x' => some ['x', '2']
      | _ => none
    let kinds := if kinds.isEmpty then [['o', '2']] else kinds
    let address (n : Nat) : Octets :=
      match argumentOf? gs 'A' with
      | some ['n'] => []
      | some ['d'] => padded 10 7 n
      | some ['x'] => padded 16 6 n
      | _ => padded 8 7 n
    let mut all : List Octets := []
    for p in orInput ops do
      match ← Work.read p with
      | .ok t => all := t :: all
      | .error e => Work.refuse name (shown p ++ ": ".toList ++ reason e)
    let start := ((argumentOf? gs 'j').bind Octets.toNat?).getD 0
    let t := all.reverse.flatten.drop start
    let t := ((argumentOf? gs 'N').bind Octets.toNat?).elim t t.take
    Work.write (Octets.unlines (odRows address kinds (given gs 'v') (t.length + 2) start none false t))

end Utility
end AmbientBundle
