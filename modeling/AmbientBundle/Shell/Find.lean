import AmbientBundle.Shell.Launch

/-!
# Looking for files

`find` walks through directories and works out an expression for each file it meets.  An
expression asks about the file or does something with it; what is joined to it by `and`
is worked out only if it holds, what is joined by `or` only if it does not.
-/

namespace AmbientBundle
namespace Shell
namespace Find

/-- An expression. -/
inductive Expr where
  /-- The last name matches a pattern. -/
  | name (pattern : Octets) (fold : Bool)
  /-- The path matches a pattern. -/
  | path (pattern : Octets)
  /-- The kind of file. -/
  | kind (c : Char)
  /-- Nothing is in it. -/
  | empty
  /-- It can be run. -/
  | program
  /-- Its size in units of bytes, less than, exactly or more than a number. -/
  | size (sign : Char) (n unit : Nat)
  /-- Write the path, with an end. -/
  | print (stop : Char)
  /-- Write as a format says. -/
  | printf (format : Octets)
  /-- Run a program. -/
  | exec (words : List Octets)
  /-- Run a program at the end, for all files together. -/
  | gather (words : List Octets)
  /-- Remove it. -/
  | delete
  /-- Do not go into it. -/
  | prune
  /-- Stop. -/
  | quit
  /-- True or false. -/
  | const (b : Bool)
  /-- The opposite. -/
  | negate (e : Expr)
  /-- Both. -/
  | both (a b : Expr)
  /-- One of two. -/
  | either (a b : Expr)

/-- What a walk was told. -/
structure Plan where
  /-- The expression. -/
  expr : Expr
  /-- The least depth. -/
  least : Nat := 0
  /-- The greatest depth. -/
  most : Option Nat := none
  /-- Whether entries come before their directory. -/
  depthFirst : Bool := false

/-- What a walk gathers. -/
structure Walk where
  /-- The paths for programs that are run at the end, last one first. -/
  gathered : List (List Octets × Octets) := []
  /-- Whether the directory is not gone into. -/
  pruned : Bool := false
  /-- Whether everything stops. -/
  stopped : Bool := false
  /-- Whether something failed. -/
  failed : Bool := false

/-! ## Reading -/

/-- Reading an expression: the words that are left, and the limits of depth. -/
abbrev Read := StateT (List Octets × Plan) (Except Octets)

/-- The next word. -/
def next? : Read (Option Octets) := do
  let (ws, p) ← get
  match ws with
  | [] => return none
  | w :: rest =>
      set (rest, p)
      return some w

/-- The word an option needs. -/
def argument (option : Octets) : Read Octets := do
  match ← next? with
  | some w => return w
  | none => throw ("missing argument to `".toList ++ option ++ ['\''])

/-- The number an option needs. -/
def numberFor (option : Octets) : Read Nat := do
  let w ← argument option
  match Octets.toNat? w with
  | some n => return n
  | none =>
      throw ("Expected a positive decimal integer argument to ".toList ++ option ++ ", but got ".toList ++
        Utility.curled w)

/-- The words of a program, up to a semicolon, or a plus sign after braces. -/
def programWords (option : Octets) : Nat → List Octets → Read Expr
  | 0, _ => return .const false
  | n + 1, acc => do
      match ← next? with
      | none => throw ("missing argument to `".toList ++ option ++ ['\''])
      | some [';'] => return .exec acc.reverse
      | some ['+'] =>
          if acc.head? = some "\x7b\x7d".toList then return .gather acc.tail.reverse
          else programWords option n (['+'] :: acc)
      | some w => programWords option n (w :: acc)

/-- A test or an action. -/
def primary (w : Octets) : Read Expr := do
  let note (f : Plan → Plan) : Read Expr := do
    modify fun (ws, p) => (ws, f p)
    return .const true
  match String.ofList w with
  | "-name" => return .name (← argument w) false
  | "-iname" => return .name (← argument w) true
  | "-path" => return .path (← argument w)
  | "-wholename" => return .path (← argument w)
  | "-type" =>
      let t ← argument w
      match t with
      | [c] =>
          if "bcdflps".toList.contains c then return .kind c
          else throw ("Unknown argument to -type: ".toList ++ t)
      | _ => throw ("Unknown argument to -type: ".toList ++ t)
  | "-empty" => return .empty
  | "-executable" => return .program
  | "-perm" =>
      let t ← argument w
      return if t.contains 'x' || t.any (fun c => "1357".toList.contains c) then .program
        else .const true
  | "-size" =>
      let t ← argument w
      let sign := if t.head? = some '+' then '+' else if t.head? = some '-' then '-' else '='
      let body := if sign = '=' then t else t.drop 1
      let ds := body.takeWhile Char.isDigit
      let unit := match body.drop ds.length with
        | ['c'] => 1
        | ['k'] => 1024
        | ['M'] => 1048576
        | ['w'] => 2
        | _ => 512
      return .size sign ((Octets.toNat? ds).getD 0) unit
  | "-newer" => let _ ← argument w; return .const false
  | "-mtime" => let _ ← argument w; return .const true
  | "-mmin" => let _ ← argument w; return .const true
  | "-user" => let _ ← argument w; return .const true
  | "-print" => return .print '\n'
  | "-print0" => return .print '\x00'
  | "-printf" => return .printf (← argument w)
  | "-exec" => programWords w 10000 []
  | "-execdir" => programWords w 10000 []
  | "-ok" => programWords w 10000 []
  | "-delete" =>
      let _ ← note fun p => { p with depthFirst := true }
      return .delete
  | "-prune" => return .prune
  | "-quit" => return .quit
  | "-true" => return .const true
  | "-false" => return .const false
  | "-depth" => note fun p => { p with depthFirst := true }
  | "-d" => note fun p => { p with depthFirst := true }
  | "-follow" => return .const true
  | "-mount" => return .const true
  | "-xdev" => return .const true
  | "-maxdepth" =>
      let n ← numberFor w
      note fun p => { p with most := some n }
  | "-mindepth" =>
      let n ← numberFor w
      note fun p => { p with least := n }
  | _ =>
      if w.head? = some '-' then throw ("unknown predicate `".toList ++ w ++ ['\''])
      else throw ("paths must precede expression: `".toList ++ w ++ ['\''])

/-- Read an expression; the level tells which signs join its parts. -/
def expression : Nat → Nat → Read Expr
  | 0, _ => return .const true
  | n + 1, level => do
      match level with
      | 0 =>
          let a ← expression n 1
          match (← get).1.head?.map String.ofList with
          | some "-o" => let _ ← next?; return .either a (← expression n 0)
          | some "-or" => let _ ← next?; return .either a (← expression n 0)
          | some "," => let _ ← next?; return .either (.both a (.const false)) (← expression n 0)
          | _ => return a
      | 1 =>
          let a ← expression n 2
          match (← get).1.head?.map String.ofList with
          | none => return a
          | some "-o" => return a
          | some "-or" => return a
          | some "," => return a
          | some ")" => return a
          | some "-a" => let _ ← next?; return .both a (← expression n 1)
          | some "-and" => let _ ← next?; return .both a (← expression n 1)
          | some _ => return .both a (← expression n 1)
      | _ =>
          match ← next? with
          | none => return .const true
          | some w =>
              match String.ofList w with
              | "!" => return .negate (← expression n 2)
              | "-not" => return .negate (← expression n 2)
              | "(" =>
                  let e ← expression n 0
                  match ← next? with
                  | some [')'] => return e
                  | _ => throw "invalid expression; expected to find a ')' but didn't see one. Perhaps you need an extra predicate after '('".toList
              | _ => primary w

/-- Whether an expression does something by itself. -/
def acts : Expr → Bool
  | .print _ => true
  | .printf _ => true
  | .exec _ => true
  | .gather _ => true
  | .delete => true
  | .quit => true
  | .negate e => acts e
  | .both a b => acts a || acts b
  | .either a b => acts a || acts b
  | _ => false

/-- The plan that words are. -/
def plan (ws : List Octets) : Except Octets Plan := do
  let start : Plan := { expr := .const true }
  if ws.isEmpty then .ok { start with expr := .print '\n' }
  else
    let (e, left, p) ← (expression (8 * ws.length + 8) 0).run (ws, start)
    match left with
    | w :: _ => .error (if w = [')'] then
        "invalid expression; you have too many ')'".toList
        else "paths must precede expression: `".toList ++ w ++ ['\''])
    | [] => .ok { p with expr := if acts e then e else .both e (.print '\n') }

/-! ## Walking -/

/-- What a format of a file shows. -/
def formatted (path : Octets) (e : Entry) (depth : Nat) : Nat → Octets → Octets
  | 0, t => t
  | _, [] => []
  | n + 1, '%' :: c :: rest =>
      let body := match c with
        | 'p' => path
        | 'f' => Utility.lastName path
        | 'h' => Utility.directoryOf path
        | 's' => Octets.ofNat (Utility.entrySize e)
        | 'd' => Octets.ofNat depth
        | 'y' => if e.isDir then ['d'] else ['f']
        | '%' => ['%']
        | c => ['%', c]
      body ++ formatted path e depth n rest
  | n + 1, '\\' :: c :: rest =>
      let body := match c with
        | 'n' => ['\n']
        | 't' => ['\t']
        | '0' => ['\x00']
        | '\\' => ['\\']
        | c => ['\\', c]
      body ++ formatted path e depth n rest
  | n + 1, c :: rest => c :: formatted path e depth n rest

/-- Whether something is empty. -/
def isEmpty : Entry → Bool
  | .file c _ => c.isEmpty
  | .dir inner => inner = .nil

/-- Run a program for a path, and tell whether it succeeded. -/
def runFor (r : Runner) (name : Octets) (words : List Octets) : Run Bool := do
  let ending ← Process.inChild r do
    Launch.otherOr r words fun e =>
      name ++ ": ".toList ++ Utility.curled (words.headD []) ++ ": ".toList ++ e.text.toList ++ ['\n']
  return ending = .status 0

/-- Work out an expression for a file. -/
def holds (r : Runner) (name path : Octets) (e : Entry) (depth : Nat) :
    Expr → StateT Walk Run Bool
  | .name pattern fold => do
      let low (t : Octets) : Octets := if fold then t.map Char.toLower else t
      return Utility.Grep.fits (low pattern) (low (Utility.lastName path))
  | .path pattern => return Utility.Grep.fits pattern path
  | .kind c => return if c = 'd' then e.isDir else if c = 'f' then !e.isDir else false
  | .empty => return isEmpty e
  | .program => return match e with
      | .file _ m => m = .program
      | .dir _ => true
  | .size sign n unit =>
      let size := (Utility.entrySize e + unit - 1) / max unit 1
      return if sign = '+' then size > n else if sign = '-' then size < n else size = n
  | .print stop => do
      let _ ← Run.write 1 (path ++ [stop])
      return true
  | .printf format => do
      let _ ← Run.write 1 (formatted path e depth (format.length + 1) format)
      return true
  | .exec words => runFor r name (words.map fun w => Launch.replaceMark "\x7b\x7d".toList path (w.length + 1) w)
  | .gather words => do
      modify fun w => { w with gathered := (words, path) :: w.gathered }
      return true
  | .delete => do
      if path = ['.'] then return true
      else
        let s ← Run.shell
        let tree := (← Run.machine).tree
        match tree.statText s.cwd (Octets.toText path) with
        | .ok (spot, entry) =>
            if entry.isDir && !isEmpty entry then
              Run.complain (name ++ ": cannot delete ".toList ++ Utility.curled path ++
                ": Directory not empty\n".toList)
              modify fun w => { w with failed := true }
              return false
            else
              Run.onMachine fun m => { m with tree := m.tree.remove spot.place }
              return true
        | .error _ => return false
  | .prune => do
      modify fun w => { w with pruned := true }
      return true
  | .quit => do
      modify fun w => { w with stopped := true }
      return true
  | .const b => return b
  | .negate a => return !(← holds r name path e depth a)
  | .both a b => do if ← holds r name path e depth a then holds r name path e depth b else return false
  | .either a b => do if ← holds r name path e depth a then return true else holds r name path e depth b

/-- Walk through an entry and all below it. -/
def walk (r : Runner) (name : Octets) (p : Plan) : Nat → Nat → Octets → Entry → StateT Walk Run Unit
  | 0, _, _, _ => pure ()
  | n + 1, depth, path, e => do
      if (← get).stopped then pure ()
      else
        let here : StateT Walk Run Unit := do
          if depth < p.least then pure ()
          else
            let _ ← holds r name path e depth p.expr
        modify fun w => { w with pruned := false }
        if !p.depthFirst then here
        let pruned := (← get).pruned && !p.depthFirst
        match e with
        | .file .. => pure ()
        | .dir inner =>
            if pruned || (p.most.map fun m => decide (m ≤ depth)).getD false then pure ()
            else
              (Listing.sortByName inner.entries).forM fun c =>
                walk r name p n (depth + 1) (Utility.inDirectory path (Octets.ofText c.1)) c.2
        if p.depthFirst then here

/-- Walk from several starts. -/
def walkAll (r : Runner) (name : Octets) (p : Plan) : List Octets → StateT Walk Run Unit
  | [] => pure ()
  | start :: rest => do
      let s ← Run.shell
      match (← Run.machine).tree.statText s.cwd (Octets.toText start) with
      | .ok (_, e) => walk r name p 1000 0 start e
      | .error e =>
          Run.complain (name ++ ": ".toList ++ Utility.curled start ++ ": ".toList ++ e.text.toList ++
            ['\n'])
          modify fun w => { w with failed := true }
      walkAll r name p rest

/-- Run the programs for which paths were gathered. -/
def finish (r : Runner) (name : Octets) (w : Walk) : Run Bool := do
  let kinds := (w.gathered.map (·.1)).reverse.eraseDups
  let mut good := true
  for words in kinds do
    let paths := (w.gathered.filter (·.1 = words)).reverse.map (·.2)
    if !(← runFor r name (words ++ paths)) then good := false
  return good

/-- Look for files. -/
def run (r : Runner) (name : Octets) (args : List Octets) : Run Unit := do
  let args := args.dropWhile fun a => a = ['-', 'H'] || a = ['-', 'L'] || a = ['-', 'P']
  let isExpr (a : Octets) : Bool := a.head? = some '-' && a.length > 1 || a = ['!'] || a = ['(']
  let starts := args.takeWhile (!isExpr ·)
  match plan (args.drop starts.length) with
  | .error t =>
      Run.complain (name ++ ": ".toList ++ t ++ ['\n'])
      Run.setStatus 1
  | .ok p =>
      let ((), w) ← (walkAll r name p (if starts.isEmpty then [['.']] else starts)).run {}
      let good ← finish r name w
      Run.setStatus (if w.failed || !good then 1 else 0)

end Find
end Shell
end AmbientBundle
