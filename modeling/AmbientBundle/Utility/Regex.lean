import AmbientBundle.Text.Member

/-!
# Regular expressions

There are two ways to write them.  In the basic one, parentheses, braces, `+`, `?` and
`|` stand for themselves and have a meaning after a backslash; in the extended one it is
the other way round.

A match is the leftmost one, and among those the longest.  `Regex.run` tries everything
that an expression can match and hands each to what comes after it; of all ends it keeps
the furthest, and of equal ones the first, which is the one where repetitions took as
much as they could.
-/

namespace AmbientBundle
namespace Utility

/-- A regular expression. -/
inductive Regex where
  /-- Nothing. -/
  | empty
  /-- A character. -/
  | char (c : Char)
  /-- Any character. -/
  | any
  /-- One of some characters, or none of them. -/
  | among (negated : Bool) (members : List Member)
  /-- The start of the text. -/
  | start
  /-- The end of the text. -/
  | finish
  /-- The edge of a word; which one, by a letter. -/
  | edge (kind : Char)
  /-- One after the other. -/
  | next (a b : Regex)
  /-- One or the other. -/
  | either (a b : Regex)
  /-- A group with its number. -/
  | group (n : Nat) (r : Regex)
  /-- So many times at least, and at most. -/
  | times (r : Regex) (least : Nat) (most : Option Nat)
  /-- What a group matched. -/
  | again (n : Nat)
  deriving Repr, Inhabited

namespace Regex

/-! ## Matching -/

/-- What the groups matched: where each starts and ends. -/
abbrev Groups := List (Nat × Nat × Nat)

/-- A match: its end and its groups. -/
structure Found where
  /-- Where it ends. -/
  stop : Nat
  /-- Its groups. -/
  groups : Groups
  deriving Repr

/-- The better of two matches; the second one is looked for only if the first one could be
bettered. -/
def better (size : Nat) (a : Option Found) (b : Unit → Option Found) : Option Found :=
  match a with
  | none => b ()
  | some x =>
      if x.stop = size then a
      else
        match b () with
        | some y => if y.stop > x.stop then some y else a
        | none => a

/-- Whether a character belongs to a word. -/
def isWordChar (c : Char) : Bool := c.isAlphanum || c = '_' || c.toNat ≥ 128

/-- Whether a place is an edge of a word. -/
def isEdge (t : Array Char) (i : Nat) (kind : Char) : Bool :=
  let before := i > 0 && ((t[i - 1]?).map isWordChar).getD false
  let after := ((t[i]?).map isWordChar).getD false
  match kind with
  | '<' => !before && after
  | '>' => before && !after
  | 'b' => before != after
  | 'B' => before = after
  | _ => false

/-- Whether two characters are alike. -/
def alike (fold : Bool) (a b : Char) : Bool := a = b || (fold && a.toLower = b.toLower)

/-- Whether a list in brackets has a character. -/
def hasMember (fold negated : Bool) (ms : List Member) (c : Char) : Bool :=
  (ms.any (Member.has c) ||
    (fold && (ms.any (Member.has c.toLower) || ms.any (Member.has c.toUpper)))) != negated

/-- Whether a stretch of a text stands at another place of it. -/
def stretchAt (fold : Bool) (t : Array Char) (a b i : Nat) : Bool :=
  (List.range (b - a)).all fun k =>
    match t[a + k]?, t[i + k]? with
    | some x, some y => alike fold x y
    | _, _ => false

/-- Match an expression at a place and hand on where it ended.  The first number bounds the
steps. -/
def run (fold : Bool) (t : Array Char) :
    Nat → Regex → Nat → Groups → (Nat → Groups → Option Found) → Option Found
  | 0, _, _, _, _ => none
  | n + 1, r, i, gs, k =>
      let one (p : Char → Bool) : Option Found :=
        match t[i]? with
        | some c => if p c then k (i + 1) gs else none
        | none => none
      match r with
      | .empty => k i gs
      | .char c => one (alike fold c)
      | .any => one fun _ => true
      | .among negated ms => one (hasMember fold negated ms)
      | .start => if i = 0 then k i gs else none
      | .finish => if i = t.size then k i gs else none
      | .edge kind => if isEdge t i kind then k i gs else none
      | .next a b => run fold t n a i gs fun j gs => run fold t n b j gs k
      | .either a b => better t.size (run fold t n a i gs k) fun _ => run fold t n b i gs k
      | .group m a =>
          run fold t n a i gs fun j gs => k j ((m, i, j) :: gs.filter (·.1 ≠ m))
      | .again m =>
          match gs.lookup m with
          | none => none
          | some (a, b) => if stretchAt fold t a b i then k (i + (b - a)) gs else none
      | .times a least most =>
          if most = some 0 then k i gs
          else
            let more (_ : Unit) : Option Found :=
              run fold t n a i gs fun j gs =>
                if j = i && least = 0 then none
                else run fold t n (.times a (least - 1) (most.map (· - 1))) j gs k
            if least > 0 then more ()
            else better t.size (more ()) fun _ => k i gs

/-- The nodes of an expression. -/
def size : Regex → Nat
  | .next a b => a.size + b.size + 1
  | .either a b => a.size + b.size + 1
  | .group _ a => a.size + 1
  | .times a least _ => a.size + least + 2
  | _ => 1

/-- The groups of an expression. -/
def groupCount : Regex → Nat
  | .next a b => a.groupCount + b.groupCount
  | .either a b => a.groupCount + b.groupCount
  | .group _ a => a.groupCount + 1
  | .times a _ _ => a.groupCount
  | _ => 0

/-- A bound on the steps of a match. -/
def steps (r : Regex) (t : Array Char) : Nat := (r.size + 2) * (t.size + 2) + 10

/-- The longest match at a place. -/
def matchAt (r : Regex) (fold : Bool) (t : Array Char) (i : Nat) : Option Found :=
  run fold t (r.steps t) r i [] fun j gs => some ⟨j, gs⟩

/-- The first of some places with a match. -/
def searchFrom (r : Regex) (fold : Bool) (t : Array Char) : Nat → Nat → Option (Nat × Found)
  | 0, _ => none
  | n + 1, i =>
      if i > t.size then none
      else
        match r.matchAt fold t i with
        | some f => some (i, f)
        | none => searchFrom r fold t n (i + 1)

/-- The leftmost match from a place on. -/
def search (r : Regex) (fold : Bool) (t : Array Char) (i : Nat) : Option (Nat × Found) :=
  searchFrom r fold t (t.size + 2 - i) i

/-! ## Reading -/

/-- Where reading stands: what is left and how many groups there were. -/
structure Parsing where
  /-- What is left. -/
  rest : Text
  /-- The last group. -/
  groups : Nat := 0
  /-- The groups that are closed. -/
  closed : List Nat := []

/-- Reading an expression; a message says why it cannot be read. -/
abbrev Parse := StateT Parsing (Except String)

/-- What is left. -/
def peek : Parse Text := return (← get).rest

/-- Go on. -/
def drop (n : Nat) : Parse Unit := modify fun s => { s with rest := s.rest.drop n }

/-- The sign that comes next, with its backslash if it has one, and its length. -/
def signOf (extended : Bool) (t : Text) : Option (Char × Nat) :=
  match t with
  | '\\' :: c :: _ => if !extended && "()\x7b\x7d|+?".toList.contains c then some (c, 2) else none
  | c :: _ => if extended && "()\x7b\x7d|+?".toList.contains c then some (c, 1) else none
  | [] => none

/-- The names of classes. -/
def classNames : List String :=
  ["alpha", "digit", "alnum", "upper", "lower", "space", "blank", "punct", "print", "graph", "cntrl",
    "xdigit"]

/-- A member that stands for one character: itself or one between marks. -/
def singleMember? (t : Text) : Option (Char × Text) :=
  match t with
  | '[' :: '.' :: c :: '.' :: ']' :: rest => some (c, rest)
  | '[' :: '=' :: c :: '=' :: ']' :: rest => some (c, rest)
  | c :: rest => some (c, rest)
  | [] => none

/-- The members of a list in brackets, and what follows it. -/
def membersFrom : Nat → Bool → Text → Except String (List Member × Text)
  | 0, _, _ => .error "Unmatched [, [^, [:, [., or [="
  | n + 1, first, t =>
      match t with
      | [] => .error "Unmatched [, [^, [:, [., or [="
      | ']' :: rest =>
          if first then ranged n ']' rest else .ok ([], rest)
      | '[' :: ':' :: rest =>
          let name := rest.takeWhile (· ≠ ':')
          match rest.drop name.length with
          | ':' :: ']' :: after =>
              if classNames.contains (String.ofList name) then do
                let (ms, after) ← membersFrom n false after
                .ok (.kind (String.ofList name) :: ms, after)
              else .error "Invalid character class name"
          | _ => .error "Unmatched [, [^, [:, [., or [="
      | _ =>
          match singleMember? t with
          | some (c, rest) => ranged n c rest
          | none => .error "Unmatched [, [^, [:, [., or [="
where
  /-- A character, maybe the start of a range, and the other members. -/
  ranged (n : Nat) (c : Char) (rest : Text) : Except String (List Member × Text) :=
    match rest with
    | '-' :: ']' :: _ => do
        let (ms, after) ← membersFrom n false rest
        .ok (.range c c :: ms, after)
    | '-' :: more =>
        match singleMember? more with
        | some (d, after) =>
            if d < c then .error "Invalid range end"
            else do
              let (ms, after) ← membersFrom n false after
              .ok (.range c d :: ms, after)
        | none => .error "Unmatched [, [^, [:, [., or [="
    | _ => do
        let (ms, after) ← membersFrom n false rest
        .ok (.range c c :: ms, after)

/-- A list in brackets, after its opening one. -/
def bracket : Parse Regex := do
  let t ← peek
  let (negated, t) := match t with
    | '^' :: rest => (true, rest)
    | _ => (false, t)
  if t.isEmpty then throw "Invalid regular expression"
  match membersFrom (t.length + 1) true t with
  | .error e => throw e
  | .ok (ms, rest) =>
      modify fun s => { s with rest }
      return .among negated ms

/-- The numbers in braces, and what follows them. -/
def interval? (extended : Bool) (t : Text) : Option (Nat × Option Nat × Text) :=
  let low := t.takeWhile Char.isDigit
  let close (r : Text) : Option Text :=
    match r with
    | '}' :: rest => if extended then some rest else none
    | '\\' :: '}' :: rest => if extended then none else some rest
    | _ => none
  let value (ds : Text) : Nat := ds.foldl (fun n c => n * 10 + (c.toNat - 48)) 0
  match t.drop low.length with
  | ',' :: rest =>
      let high := rest.takeWhile Char.isDigit
      (close (rest.drop high.length)).map fun r =>
        (value low, if high.isEmpty then none else some (value high), r)
  | r => if low.isEmpty then none else (close r).map fun r => (value low, some (value low), r)

/-- Repetitions after an expression. -/
def repeats (extended : Bool) : Nat → Regex → Parse Regex
  | 0, r => return r
  | n + 1, r => do
      let t ← peek
      match t with
      | '*' :: _ => drop 1; repeats extended n (.times r 0 none)
      | _ =>
          match signOf extended t with
          | some ('+', k) => drop k; repeats extended n (.times r 1 none)
          | some ('?', k) => drop k; repeats extended n (.times r 0 (some 1))
          | some ('{', k) =>
              match interval? extended (t.drop k) with
              | some (a, b, rest) =>
                  if (b.map fun b => decide (b < a)).getD false then
                    throw "Invalid content of \\\x7b\\\x7d"
                  else
                    modify fun s => { s with rest }
                    repeats extended n (.times r a b)
              | none =>
                  if extended then return r
                  else if (t.drop k).contains '}' then throw "Invalid content of \\\x7b\\\x7d"
                  else throw "Unmatched \\\x7b"
          | _ => return r

/-- What a backslash makes of a character outside of brackets. -/
def escape (c : Char) : Parse Regex := do
  let word : List Member := [.kind "alnum", .range '_' '_']
  match c with
  | 'w' => return .among false word
  | 'W' => return .among true word
  | 's' => return .among false [.kind "space"]
  | 'S' => return .among true [.kind "space"]
  | 'b' => return .edge 'b'
  | 'B' => return .edge 'B'
  | '<' => return .edge '<'
  | '>' => return .edge '>'
  | '`' => return .start
  | '\'' => return .finish
  | 'n' => return .char '\n'
  | c =>
      if '1' ≤ c && c ≤ '9' then
        let m := c.toNat - 48
        if (← get).closed.contains m then return .again m else throw "Invalid back reference"
      else return .char c

/-- Whether an end sign stands where it means the end. -/
def endsHere (extended : Bool) (after : Text) : Bool :=
  extended || after.isEmpty ||
    (match signOf extended after with
      | some (')', _) => true
      | some ('|', _) => true
      | _ => false)

/-- Read alternatives up to a closing parenthesis or the end; how deep in parentheses is given. -/
def alternatives (extended : Bool) : Nat → Nat → Parse Regex
  | 0, _ => return .empty
  | n + 1, depth => do
      let before := (← get).closed
      let first ← sequence n depth n true .empty
      match signOf extended (← peek) with
      | some ('|', k) =>
          drop k
          -- An alternative knows nothing of the groups of those before it.
          let closed := (← get).closed
          modify fun s => { s with closed := before }
          let other ← alternatives extended n depth
          modify fun s => { s with closed := s.closed ++ closed }
          return .either first other
      | _ => return first
where
  /-- Read expressions one after the other. -/
  sequence (fuel depth : Nat) : Nat → Bool → Regex → Parse Regex
    | 0, _, acc => return acc
    | m + 1, first, acc => do
        let t ← peek
        let go (r : Regex) : Parse Regex := do
          let r ← repeats extended (fuel + 1) r
          sequence fuel depth m false (match acc with
            | .empty => r
            | a => .next a r)
        match t with
        | [] => return acc
        | c :: rest =>
            match signOf extended t with
            | some ('(', k) =>
                drop k
                let number := (← get).groups + 1
                modify fun s => { s with groups := number }
                let inner ← alternatives extended fuel (depth + 1)
                match signOf extended (← peek) with
                | some (')', k) =>
                    drop k
                    modify fun s => { s with closed := number :: s.closed }
                    go (.group number inner)
                | _ => throw "Unmatched ( or \\("
            | some (')', k) =>
                if depth > 0 then return acc
                else if extended then
                  if k = 1 then throw "Unmatched ) or \\)" else return acc
                else throw "Unmatched ) or \\)"
            | some ('|', _) => return acc
            | some (s, k) =>
                -- A repetition with nothing before it, or a lone brace.
                if s = '{' && extended && !first then
                  drop k
                  go (.char '{')
                else if s = '}' then
                  drop k
                  go (.char '}')
                else if first && extended then
                  drop k
                  if s = '{' then
                    if (interval? extended (t.drop k)).isSome then
                      throw "Invalid preceding regular expression"
                    else go (.char '{')
                  else sequence fuel depth m true acc
                else if first && !extended then
                  drop k
                  if s = '{' then throw "Invalid preceding regular expression" else go (.char s)
                else
                  drop k
                  go (.char s)
            | none =>
                drop 1
                if c = '\\' then
                  match rest with
                  | [] => throw "Trailing backslash"
                  | d :: _ =>
                      drop 1
                      go (← escape d)
                else if c = '.' then go .any
                else if c = '[' then go (← bracket)
                else if c = '*' && first then
                  if extended then sequence fuel depth m true acc else go (.char '*')
                else if c = '^' && extended then
                  sequence fuel depth m true (match acc with
                    | .empty => .start
                    | a => .next a .start)
                else if c = '^' && first then
                  match acc with
                  | .empty => sequence fuel depth m true .start
                  | _ => go (.char c)
                else if c = '$' && endsHere extended rest then go .finish
                else go (.char c)

/-- Read an expression. -/
def parse (extended : Bool) (t : Text) : Except String Regex := do
  let (r, left) ← (alternatives extended (2 * t.length + 4) 0).run { rest := t }
  if left.rest.isEmpty then .ok r else .error "Unmatched ) or \\)"

/-- An expression that stands for a text itself. -/
def literal (t : Text) : Regex :=
  t.foldr (fun c r => match r with
    | .empty => .char c
    | r => .next (.char c) r) .empty

end Regex
end Utility
end AmbientBundle
