import AmbientBundle.Octets
import AmbientBundle.Shell.Command

/-!
# Arithmetic of the shell

Expressions over whole numbers of 64 bits, with the usual operators.  A name stands for
the number its variable holds, and may be set.  The plain way knows no `++` and `--`, and
a variable has to hold a number; in the way with more forms it may hold an expression
again.

An expression is read into a tree first, so that the part that is not chosen by `&&`,
`||` or `?` is never carried out.  What cannot be read is a leaf of the tree: it stops the
work when it is reached, and what stands before it has been worked out by then.
-/

namespace AmbientBundle
namespace Shell
namespace Arithmetic

/-- Why an expression has no value. -/
inductive Fault where
  /-- It cannot be read; what is missing and where. -/
  | unreadable (reason : String) (rest : Octets)
  /-- It divides by zero. -/
  | division (rest : Octets)
  /-- A variable does not hold a number. -/
  | notNumber (t : Octets)
  /-- A digit does not fit its base. -/
  | badDigit (t : Octets)
  /-- A variable is needed and not set. -/
  | unset (name : Octets)
  deriving DecidableEq, Repr

/-- An expression. -/
inductive Expr where
  /-- A number. -/
  | number (n : Int)
  /-- A variable, maybe an element of an array. -/
  | variable (name : Octets) (index : Option Expr)
  /-- An operator before its operand. -/
  | unary (op : String) (e : Expr)
  /-- An operator between its operands. -/
  | binary (op : String) (a b : Expr)
  /-- A choice. -/
  | choose (test yes no : Expr)
  /-- A variable set to a value, which an operator may combine with the old one. -/
  | assign (op : String) (name : Octets) (index : Option Expr) (e : Expr)
  /-- A variable that is changed by one, and whether its new value is taken. -/
  | step (up new : Bool) (name : Octets) (index : Option Expr)
  /-- What cannot be read. -/
  | broken (fault : Fault)
  deriving Inhabited

/-- A piece of an expression. -/
inductive Lexeme where
  /-- A number as it is written. -/
  | number (t : Octets)
  /-- A name. -/
  | name (t : Octets)
  /-- An operator. -/
  | sign (s : String)
  deriving DecidableEq, Repr

/-! ## Numbers -/

/-- A whole number brought into 64 bits. -/
def wrap (i : Int) : Int := Int.bmod i (Nat.pow 2 64)

/-- The value of a letter or a digit in a base. -/
def digit? (base : Nat) (c : Char) : Option Nat :=
  let d :=
    if c.isDigit then some (c.toNat - 48)
    else if c.isLower then some (c.toNat - 87)
    else if c.isUpper then some (if base ≤ 36 then c.toNat - 55 else c.toNat - 29)
    else if c = '@' then some 62
    else if c = '_' then some 63
    else none
  d.filter (· < base)

/-- The number at the front of a text, by its digits. -/
def digitsFrom (base : Nat) (acc : Nat) : Octets → Nat × Octets
  | [] => (acc, [])
  | c :: rest =>
      match digit? base c with
      | some d => digitsFrom base (acc * base + d) rest
      | none => (acc, c :: rest)

/-- The number at the front of a text: hexadecimal after `0x`, octal after `0`. -/
def constant (t : Octets) : Nat × Octets :=
  match t with
  | '0' :: x :: d :: rest =>
      if (x = 'x' || x = 'X') && (digit? 16 d).isSome then digitsFrom 16 0 (d :: rest)
      else digitsFrom 8 0 t
  | '0' :: _ => digitsFrom 8 0 t
  | _ => digitsFrom 10 0 t

/-- The largest number. -/
def largest : Nat := Nat.pow 2 63 - 1

/-- A blank. -/
def isBlank (c : Char) : Bool := c = ' ' || ('\t' ≤ c && c ≤ '\r')

/-- A text without blanks around it. -/
def trimmed (t : Octets) : Octets :=
  ((t.dropWhile isBlank).reverse.dropWhile isBlank).reverse

/-- The whole number that a text is. -/
def wholeNumber? (t : Octets) : Option Int :=
  let t := trimmed t
  let (negative, digits) :=
    match t with
    | '-' :: r => (true, r)
    | '+' :: r => (false, r)
    | r => (false, r)
  match digits with
  | [] => none
  | c :: _ =>
      if !c.isDigit then none
      else
        match constant digits with
        | (n, []) =>
            let n := min n largest
            some (if negative then -(n : Int) else (n : Int))
        | _ => none

/-! ## Reading -/

/-- The operators, longer ones first. -/
def signs : List String :=
  ["<<=", ">>=", "**", "++", "--", "<<", ">>", "<=", ">=", "==", "!=", "&&", "||", "+=", "-=", "*=",
    "/=", "%=", "&=", "^=", "|=", "<", ">", "+", "-", "*", "/", "%", "&", "^", "|", "!", "~", "?",
    ":", "=", "(", ")", ",", "[", "]"]

/-- The operator at the front of a text. -/
def signAt? (more : Bool) (t : Octets) : List String → Option (String × Octets)
  | [] => none
  | s :: rest =>
      let known := more || !(s = "++" || s = "--" || s = "**" || s = "[" || s = "]" || s = ",")
      match known, Text.dropWord? s.toList t with
      | true, some after => some (s, after)
      | _, _ => signAt? more t rest

/-- The pieces of an expression, each with what was left before it. -/
def lexemes (more : Bool) : Nat → Octets → List (Lexeme × Octets)
  | 0, _ => []
  | _, [] => []
  | n + 1, c :: rest =>
      if c = ' ' || c = '\t' || c = '\n' then lexemes more n rest
      else if c.isDigit then
        let isPart (d : Char) : Bool := isNameChar d || (more && (d = '#' || d = '@'))
        let written :=
          if more then (c :: rest).takeWhile isPart
          else (c :: rest).take ((c :: rest).length - (constant (c :: rest)).2.length)
        (.number written, c :: rest) :: lexemes more n ((c :: rest).drop written.length)
      else if isNameStart c then
        let name := (c :: rest).takeWhile isNameChar
        (.name name, c :: rest) :: lexemes more n ((c :: rest).drop name.length)
      else
        match signAt? more (c :: rest) signs with
        | some (s, after) => (.sign s, c :: rest) :: lexemes more n after
        | none => [(.sign "bad", c :: rest)]

/-- How an expression is read: what is left of its pieces. -/
abbrev Read := StateM (List (Lexeme × Octets))

/-- The next piece. -/
def peek : Read (Option Lexeme) := do return (← get).head?.map (·.1)

/-- What is left of the text. -/
def restText : Read Octets := do return ((← get).head?.map (·.2)).getD []

/-- Skip a piece. -/
def skip : Read Unit := modify List.tail

/-- Skip an operator if it comes next. -/
def accept (s : String) : Read Bool := do
  if (← peek) = some (.sign s) then skip; return true
  else return false

/-- Give up; nothing more is read. -/
def giveUp (f : Fault) : Read Expr := do
  set ([] : List (Lexeme × Octets))
  return .broken f

/-- Give up because something is missing. -/
def fail (reason : String) : Read Expr := do giveUp (.unreadable reason (← restText))

/-- An expression, after which something has to come. -/
def followedBy (s reason : String) (e : Expr) : Read Expr := do
  if ← accept s then return e else return .binary "," e (← fail reason)

/-- How tightly an operator between operands binds. -/
def binding? : String → Option Nat
  | "||" => some 3
  | "&&" => some 4
  | "|" => some 5
  | "^" => some 6
  | "&" => some 7
  | "==" => some 8
  | "!=" => some 8
  | "<" => some 9
  | ">" => some 9
  | "<=" => some 9
  | ">=" => some 9
  | "<<" => some 10
  | ">>" => some 10
  | "+" => some 11
  | "-" => some 11
  | "*" => some 12
  | "/" => some 12
  | "%" => some 12
  | "**" => some 13
  | _ => none

/-- The operators that set a variable. -/
def assigning : List String :=
  ["=", "+=", "-=", "*=", "/=", "%=", "<<=", ">>=", "&=", "^=", "|="]

/-- The value of a number that is written with more forms. -/
def written? (t : Octets) : Option Nat :=
  let base := t.takeWhile (· ≠ '#')
  match t.drop base.length with
  | '#' :: digits =>
      match Octets.toNat? base with
      | some b =>
          match digitsFrom b 0 digits with
          | (n, []) => if digits = [] then none else some n
          | _ => none
      | none => none
  | _ =>
      match constant t with
      | (n, []) => some n
      | _ => none

/-- The index in brackets after a name. -/
def indexOf (expression : Read Expr) : Read (Option Expr) := do
  if ← accept "[" then some <$> followedBy "]" "expecting ']'" (← expression) else return none

/-- What stands for a value by itself.  `expression` reads what stands in brackets, `setting`
what a variable is set to, if one can be set here, and `again` what comes after an operator. -/
def primary (more : Bool) (expression : Read Expr) (setting : Option (Read Expr))
    (again : Read Expr) : Read Expr := do
  match ← peek with
  | some (.number t) =>
      skip
      if more then
        match written? t with
        | some n => return .number (wrap n)
        | none => giveUp (.badDigit t)
      else return .number (min (constant t).1 largest : Nat)
  | some (.name t) =>
      skip
      let index ← indexOf expression
      if more && (← peek) = some (.sign "++") then skip; return .step true false t index
      else if more && (← peek) = some (.sign "--") then skip; return .step false false t index
      else
        match setting, ← peek with
        | some value, some (.sign s) =>
            if assigning.contains s then
              skip
              return .assign s t index (← value)
            else return .variable t index
        | _, _ => return .variable t index
  | some (.sign "(") =>
      skip
      followedBy ")" "expecting ')'" (← expression)
  | some (.sign s) =>
      if s = "!" || s = "~" || s = "-" || s = "+" then
        skip
        return .unary s (← again)
      else if s = "++" || s = "--" then
        skip
        match ← peek with
        | some (.name t) => skip; return .step (s = "++") true t (← indexOf expression)
        | _ =>
            let sign := if s = "++" then "+" else "-"
            return .unary sign (.unary sign (← again))
      else fail "expecting primary"
  | none => fail "expecting primary"

/-- Operands with operators between them that bind at least so tightly. -/
def binaryFrom (operand : Nat → Read Expr) (least : Nat) : Nat → Expr → Read Expr
  | 0, e => return e
  | n + 1, a => do
      match ← peek with
      | some (.sign s) =>
          match binding? s with
          | some level =>
              if level < least then return a
              else
                skip
                let b ← operand (if s = "**" then level else level + 1)
                binaryFrom operand least n (.binary s a b)
          | none => return a
      | _ => return a

/-- Read an expression.  The level is how tightly its operators have to bind: 0 for a whole
expression, 1 for one that may set a variable, 2 for one that may choose, 14 for an operand; the
levels between are those of the operators. -/
def expressionFrom (more : Bool) : Nat → Nat → Read Expr
  | 0, _ => fail "expecting primary"
  | n + 1, level => do
      let whole := expressionFrom more n 0
      let setting := if level ≤ 1 then some (expressionFrom more n 1) else none
      let first ← primary more whole setting (expressionFrom more n 14)
      if level = 14 then return first
      else
        let e ← binaryFrom (expressionFrom more n) (max level 3) (n + 1) first
        if level > 2 then return e
        else
          let e ←
            if ← accept "?" then
              let yes ← whole
              if ← accept ":" then pure (Expr.choose e yes (← expressionFrom more n 2))
              else pure (Expr.choose e yes (← fail "expecting ':'"))
            else pure e
          if level = 0 && more then
            if ← accept "," then return .binary "," e (← whole) else return e
          else return e

/-- Read a text as an expression. -/
def parse (more : Bool) (t : Octets) : Expr :=
  let ls := lexemes more (t.length + 1) t
  if ls = [] then if more then .number 0 else .broken (.unreadable "expecting primary" [])
  else
    let (e, left) := (expressionFrom more (4 * ls.length + 20) 0).run ls
    match left with
    | [] => e
    | (_, r) :: _ => .binary "," e (.broken (.unreadable "expecting EOF" r))

/-! ## Values -/

/-- What an expression can ask and change. -/
structure Store where
  /-- The text that a variable holds. -/
  get : Octets → Option Int → Option Octets
  /-- The variables that were set, last one first. -/
  set : List ((Octets × Option Int) × Int) := []
  /-- Whether a variable has to be set. -/
  strict : Bool := false

/-- Working out a value. -/
abbrev Eval := StateT Store (Except Fault)

/-- The bits of a whole number. -/
def toBits (i : Int) : Nat := (i % ((Nat.pow 2 64 : Nat) : Int)).toNat

/-- The number of some bits. -/
def ofBits (n : Nat) : Int := wrap (n : Int)

/-- A truth value as a number. -/
def truth (b : Bool) : Int := if b then 1 else 0

/-- A power of a whole number. -/
def power (a : Int) (n : Nat) : Int :=
  (List.range n).foldl (fun acc _ => wrap (acc * a)) 1

/-- The value of an operator between two values. -/
def combine (op : String) (a b : Int) : Except Fault Int :=
  match op with
  | "+" => .ok (wrap (a + b))
  | "-" => .ok (wrap (a - b))
  | "*" => .ok (wrap (a * b))
  | "/" => if b = 0 then .error (.division []) else .ok (wrap (Int.tdiv a b))
  | "%" => if b = 0 then .error (.division []) else .ok (wrap (Int.tmod a b))
  | "**" => .ok (power a b.toNat)
  | "<<" => .ok (wrap (a * (Nat.pow 2 (toBits b % 64) : Nat)))
  | ">>" => .ok (Int.fdiv a (Nat.pow 2 (toBits b % 64) : Nat))
  | "<" => .ok (truth (a < b))
  | ">" => .ok (truth (b < a))
  | "<=" => .ok (truth (a ≤ b))
  | ">=" => .ok (truth (b ≤ a))
  | "==" => .ok (truth (a = b))
  | "!=" => .ok (truth (a ≠ b))
  | "&" => .ok (ofBits (Nat.land (toBits a) (toBits b)))
  | "|" => .ok (ofBits (Nat.lor (toBits a) (toBits b)))
  | "^" => .ok (ofBits (Nat.xor (toBits a) (toBits b)))
  | _ => .ok b

/-- The value of an operator before a value. -/
def alone (op : String) (a : Int) : Int :=
  match op with
  | "-" => wrap (-a)
  | "!" => truth (a = 0)
  | "~" => wrap (-a - 1)
  | _ => a

/-- The operator that a setting combines with. -/
def settingOperator (op : String) : String := (op.dropEnd 1).toString

/-- What a variable holds. -/
def fetch (name : Octets) (index : Option Int) : Eval Octets := do
  let s ← get
  match s.set.lookup (name, index) with
  | some i => return Octets.ofInt i
  | none =>
      match s.get name index with
      | some t => return t
      | none => if s.strict then throw (.unset name) else return []

/-- Set a variable. -/
def store (name : Octets) (index : Option Int) (i : Int) : Eval Unit :=
  modify fun s => { s with set := ((name, index), i) :: s.set }

/-- Work out a value.  In the way with more forms a variable may hold an expression.  What is not
live was not chosen: it is gone through, and nothing comes of it unless it cannot be read. -/
def eval (more : Bool) : Nat → Bool → Expr → Eval Int
  | 0, _, _ => return 0
  | n + 1, live, e => do
      let at? (index : Option Expr) : Eval (Option Int) :=
        match index with
        | none => pure none
        | some i => some <$> eval more n live i
      let value (name : Octets) (index : Option Int) : Eval Int := do
        let t ← fetch name index
        match wholeNumber? t with
        | some i => return i
        | none =>
            if trimmed t = [] then return 0
            else if more then eval more n true (parse more t)
            else throw (.notNumber t)
      match e with
      | .number i => return i
      | .broken f => throw f
      | .variable name index => do
          let i ← at? index
          if live then value name i else return 0
      | .unary op a => return alone op (← eval more n live a)
      | .binary "&&" a b => do
          let x ← eval more n live a
          let y ← eval more n (live && x ≠ 0) b
          return truth (x ≠ 0 && y ≠ 0)
      | .binary "||" a b => do
          let x ← eval more n live a
          let y ← eval more n (live && x = 0) b
          return truth (x ≠ 0 || y ≠ 0)
      | .binary op a b => do
          let x ← eval more n live a
          let y ← eval more n live b
          if live then combine op x y else return y
      | .choose t a b => do
          let x ← eval more n live t
          let y ← eval more n (live && x ≠ 0) a
          let z ← eval more n (live && x = 0) b
          return if x ≠ 0 then y else z
      | .assign op name index a => do
          let i ← at? index
          let x ← eval more n live a
          if !live then return x
          else
            let result ←
              if op = "=" then pure x
              else do
                let old ← value name i
                combine (settingOperator op) old x
            store name i result
            return result
      | .step up new name index => do
          let i ← at? index
          if !live then return 0
          else
            let old ← value name i
            let result := wrap (if up then old + 1 else old - 1)
            store name i result
            return if new then result else old

/-- The value of a text, and the variables that are set on the way. -/
def value (more : Bool) (s : Store) (t : Octets) :
    Except Fault (Int × List ((Octets × Option Int) × Int)) := do
  let (i, s) ← (eval more 1000 true (parse more t)).run s
  return (i, s.set)

end Arithmetic
end Shell
end AmbientBundle
