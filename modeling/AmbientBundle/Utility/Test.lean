import AmbientBundle.FileTree
import AmbientBundle.Octets

/-!
# Tests

A test asks about a text, two texts, two numbers or a file, and tests can be joined.
There are two readings of its words.  The first one reads them from the left and looks
at most two words ahead.  The second one goes by the number of words, and joins tests
only where there are more than four.
-/

namespace AmbientBundle
namespace Utility
namespace Test

/-- What tests ask about files. -/
structure Files where
  /-- The entry at a path. -/
  look : Octets → Option Entry
  /-- Whether two paths lead to the same place. -/
  same : Octets → Octets → Bool := fun _ _ => false
  /-- Whether a variable is set. -/
  isSet : Octets → Bool := fun _ => false

/-- The tests of one word. -/
def unary : List String :=
  ["-b", "-c", "-d", "-e", "-f", "-g", "-h", "-k", "-L", "-n", "-p", "-r", "-s", "-S", "-t", "-u",
    "-w", "-x", "-z", "-G", "-O"]

/-- The tests of two words. -/
def binary : List String :=
  ["=", "!=", "<", ">", "-eq", "-ne", "-gt", "-ge", "-lt", "-le", "-nt", "-ot", "-ef"]

/-- Whether a file passes a test. -/
def ofFile (test : String) (e : Entry) : Bool :=
  match test, e with
  | "-d", e => e.isDir
  | "-f", .file _ m => m ≠ .sink
  | "-f", .dir _ => false
  | "-s", .file c _ => !c.isEmpty
  | "-s", .dir _ => true
  | "-x", .file _ m => m = .program
  | "-x", .dir _ => true
  | "-c", .file _ m => m = .sink
  | "-e", _ => true
  | "-r", _ => true
  | "-w", _ => true
  | "-O", _ => true
  | "-G", _ => true
  | "-a", _ => true
  | _, _ => false

/-- Whether a word passes a test. -/
def ofWord (fs : Files) (test : String) (w : Octets) : Bool :=
  match test with
  | "-n" => !w.isEmpty
  | "-z" => w.isEmpty
  | "-t" => false
  | "-v" => fs.isSet w
  | _ =>
      match fs.look w with
      | none => false
      | some e => ofFile test e

/-- The whole number of a word, in base ten. -/
def number? (w : Octets) : Option Int :=
  let blank (c : Char) : Bool := c = ' ' || ('\t' ≤ c && c ≤ '\r')
  let body := ((w.dropWhile blank).reverse.dropWhile blank).reverse
  match body with
  | '-' :: ds => (Octets.toNat? ds).map fun n => -(n : Int)
  | '+' :: ds => (Octets.toNat? ds).map fun n => (n : Int)
  | ds => (Octets.toNat? ds).map fun n => (n : Int)

/-- Whether a text comes before another, byte by byte. -/
def less : Octets → Octets → Bool
  | [], [] => false
  | [], _ :: _ => true
  | _ :: _, [] => false
  | a :: as, b :: bs => if a = b then less as bs else a < b

/-- Whether two words pass a test; one that is no number is the reason why not. -/
def ofWords (fs : Files) (test : String) (a b : Octets) : Except Octets Bool :=
  let compare (f : Int → Int → Bool) : Except Octets Bool :=
    match number? a, number? b with
    | some i, some j => .ok (f i j)
    | none, _ => .error a
    | _, none => .error b
  match test with
  | "=" => .ok (a = b)
  | "==" => .ok (a = b)
  | "!=" => .ok (a ≠ b)
  | "<" => .ok (less a b)
  | ">" => .ok (less b a)
  | "-eq" => compare fun i j => i = j
  | "-ne" => compare fun i j => i ≠ j
  | "-gt" => compare fun i j => j < i
  | "-ge" => compare fun i j => j ≤ i
  | "-lt" => compare fun i j => i < j
  | "-le" => compare fun i j => i ≤ j
  | "-ef" => .ok (fs.same a b)
  | "-nt" => .ok ((fs.look a).isSome && (fs.look b).isNone)
  | "-ot" => .ok ((fs.look a).isNone && (fs.look b).isSome)
  | _ => .ok false

/-! ## From the left -/

/-- Whether a word is a test of one word. -/
def isUnary (w : Octets) : Bool := unary.contains (String.ofList w)

/-- Whether a word is a test of two words. -/
def isBinary (w : Octets) : Bool := binary.contains (String.ofList w)

/-- What a word is taken for, given those after it. -/
inductive Role where
  /-- Nothing is there. -/
  | none
  /-- A test of one word. -/
  | unary
  /-- A test of two words. -/
  | binary
  /-- A sign that joins tests. -/
  | joint
  /-- A word that is tested. -/
  | operand
  deriving DecidableEq, Repr

/-- What the first of some words is taken for. -/
def role : List Octets → Role
  | [] => .none
  | w :: rest =>
      let isOperand :=
        match rest with
        | [] => true
        | [_] => false
        | s :: t :: _ => isBinary s && t ≠ [')']
      if isUnary w then if isOperand then .operand else .unary
      else if isBinary w then .binary
      else if w = ['('] then if rest.isEmpty then .operand else .joint
      else if w = [')'] || w = ['!'] || w = ['-', 'a'] || w = ['-', 'o'] then .joint
      else .operand

/-- Reading from the left: the words from the one that is looked at. -/
abbrev Read := StateT (List Octets) (Except Octets)

/-- Complain. -/
def wrong {α : Type} (t : String) : Read α := throw t.toList

/-- A complaint about a word, which is shown unless it is empty. -/
def about (w : Octets) (t : String) : Octets :=
  if w.isEmpty then t.toList else w ++ ": ".toList ++ t.toList

/-- Complain about a word. -/
def wrongAt {α : Type} (w : Octets) (t : String) : Read α := throw (about w t)

/-- Go on to the next word. -/
def next : Read (List Octets) := modifyGet fun ws => (ws.tail, ws.tail)

/-- The value of tests from the word that is looked at; the last word of them is looked at
afterwards.  The level tells which signs may join them. -/
def value (fs : Files) : Nat → Nat → Read Bool
  | 0, _ => return false
  | n + 1, level => do
      let ws ← get
      if level = 0 then
        let a ← value fs n 1
        if (← get).tail.head? = some ['-', 'o'] then
          let _ ← next
          let _ ← next
          let b ← value fs n 0
          return a || b
        else return a
      else if level = 1 then
        let a ← value fs n 2
        if (← get).tail.head? = some ['-', 'a'] then
          let _ ← next
          let _ ← next
          let b ← value fs n 1
          return a && b
        else return a
      else
        match ws with
        | [] => return false
        | w :: rest =>
            if w = ['!'] && role ws = .joint then
              if rest.isEmpty then return true
              else
                let _ ← next
                return !(← value fs n 2)
            else if w = ['('] && role ws = .joint then
              let after ← next
              if after.head? = some [')'] then return false
              else
                let r ← value fs n 0
                let after ← next
                if after.head? = some [')'] then return r else wrong "closing paren expected"
            else if role ws = .unary then
              let after ← next
              match after with
              | [] => wrongAt w "argument expected"
              | x :: _ => return ofWord fs (String.ofList w) x
            else
              match rest with
              | op :: more =>
                  if isBinary op then
                    let _ ← next
                    let _ ← next
                    match more with
                    | [] => wrongAt op "argument expected"
                    | b :: _ =>
                        match ofWords fs (String.ofList op) w b with
                        | .ok r => return r
                        | .error t => throw ("Illegal number: ".toList ++ t)
                  else return !w.isEmpty
              | [] => return !w.isEmpty

/-- The value of some words, read from the left. -/
def fromLeft (fs : Files) : Nat → Bool → List Octets → Except Octets Bool
  | 0, _, _ => .ok false
  | _, turned, [] => .ok turned
  | n + 1, turned, ws =>
      let whole (ws : List Octets) : Except Octets Bool := do
        let (r, left) ← (value fs (4 * ws.length + 4) 0).run ws
        match left with
        | w :: _ :: _ => .error (about w "unexpected operator")
        | _ => .ok (r != turned)
      match ws with
      | [a, op, b] =>
          if isBinary op then
            match ofWords fs (String.ofList op) a b with
            | .ok r => .ok (r != turned)
            | .error t => .error ("Illegal number: ".toList ++ t)
          else if a = ['('] && b = [')'] then .ok ((!op.isEmpty) != turned)
          else if a = ['!'] then fromLeft fs n (!turned) [op, b]
          else whole ws
      | [a, b, c, d] =>
          if a = ['('] && d = [')'] then fromLeft fs n turned [b, c]
          else if a = ['!'] then fromLeft fs n (!turned) [b, c, d]
          else whole ws
      | _ => whole ws

/-! ## By number -/

/-- The tests of two words that are known by number. -/
def isBinaryMore (w : Octets) : Bool := w = ['=', '='] || isBinary w

/-- Why words that are read by number have no value. -/
inductive Trouble where
  /-- A word is not a number. -/
  | notNumber (word : Octets)
  /-- The first of two words is no test. -/
  | notUnary (test word : Octets)
  /-- The second of three words is no test. -/
  | notBinary (test : Octets)
  /-- There are more words than tests can take. -/
  | tooMany (word : Octets)
  deriving DecidableEq, Repr

/-- What a shell says. -/
def Trouble.message : Trouble → Octets
  | .notNumber w => w ++ ": integer expression expected".toList
  | .notUnary t _ => t ++ ": unary operator expected".toList
  | .notBinary t => t ++ ": binary operator expected".toList
  | .tooMany _ => "too many arguments".toList

/-- A test of two words. -/
def pair (fs : Files) (a op b : Octets) : Except Trouble Bool :=
  match ofWords fs (String.ofList op) a b with
  | .ok r => .ok r
  | .error t => .error (.notNumber t)

/-- The value of some words by their number. -/
def byNumber (fs : Files) : Nat → List Octets → Except Trouble Bool
  | 0, _ => .ok false
  | _, [] => .ok false
  | _, [a] => .ok (!a.isEmpty)
  | _ + 1, [a, b] =>
      if a = ['!'] then .ok b.isEmpty
      else if isUnary a || a = ['-', 'v'] || a = ['-', 'a'] then .ok (ofWord fs (String.ofList a) b)
      else .error (.notUnary a b)
  | n + 1, [a, op, b] =>
      if isBinaryMore op then pair fs a op b
      else if op = ['-', 'a'] then .ok (!a.isEmpty && !b.isEmpty)
      else if op = ['-', 'o'] then .ok (!a.isEmpty || !b.isEmpty)
      else if a = ['!'] then (byNumber fs n [op, b]).map (!·)
      else if a = ['('] && b = [')'] then .ok (!op.isEmpty)
      else .error (.notBinary op)
  | n + 1, ws =>
      match ws with
      | [a, b, c, d] =>
          if a = ['!'] then (byNumber fs n [b, c, d]).map (!·)
          else if a = ['('] && d = [')'] then byNumber fs n [b, c]
          else joined n ws
      | _ => joined n ws
where
  /-- Tests with signs between them. -/
  joined (n : Nat) (ws : List Octets) : Except Trouble Bool := do
    match cutAt ['-', 'o'] ws with
    | some (a, b) =>
        let x ← byNumber fs n a
        let y ← byNumber fs n b
        .ok (x || y)
    | none =>
        match cutAt ['-', 'a'] ws with
        | some (a, b) =>
            let x ← byNumber fs n a
            let y ← byNumber fs n b
            .ok (x && y)
        | none =>
            match ws with
            | ['!'] :: rest => (byNumber fs n rest).map (!·)
            | _ => .error (.tooMany (ws[3]?.getD []))
  /-- The words before and after a sign. -/
  cutAt (sign : Octets) (ws : List Octets) : Option (List Octets × List Octets) :=
    let front := ws.tail.takeWhile (· ≠ sign)
    match ws.tail.drop front.length with
    | _ :: rest => if ws.isEmpty || rest.isEmpty then none else some (ws.take 1 ++ front, rest)
    | [] => none

end Test
end Utility
end AmbientBundle
