import AmbientBundle.Shell.Pattern
import AmbientBundle.Utility.Filters
import AmbientBundle.Utility.Regex

/-!
# Lines that match

`grep` writes the lines of files that match one of some patterns, or what they match,
or only how many there are.  Lines around a match are written if that is wanted, with a
mark between groups that do not touch.
-/

namespace AmbientBundle
namespace Utility
namespace Grep

/-- What is looked for, and what is shown. -/
structure Search where
  /-- The patterns. -/
  patterns : List Regex
  /-- Whether case does not matter. -/
  fold : Bool
  /-- Whether a match is a whole word. -/
  word : Bool
  /-- Whether a match is a whole line. -/
  line : Bool
  /-- Whether the lines without a match are wanted. -/
  invert : Bool

/-- The longest match of a pattern at a place. -/
def matchAt (s : Search) (r : Regex) (t : Array Char) (i : Nat) : Option Regex.Found :=
  let wordEnd (j : Nat) : Bool :=
    !(((t[j]?).map Regex.isWordChar).getD false) &&
      !(i > 0 && ((t[i - 1]?).map Regex.isWordChar).getD false)
  Regex.run s.fold t (r.steps t) r i [] fun j gs =>
    if (s.line && !(i = 0 && j = t.size)) || (s.word && !wordEnd j) then none else some ⟨j, gs⟩

/-- The leftmost match of any pattern from a place on: where it starts and ends. -/
def searchFrom (s : Search) (t : Array Char) : Nat → Nat → Option (Nat × Nat)
  | 0, _ => none
  | n + 1, i =>
      if i > t.size then none
      else
        let stops := s.patterns.filterMap fun r => (matchAt s r t i).map (·.stop)
        match stops with
        | [] => searchFrom s t n (i + 1)
        | j :: js => some (i, js.foldl max j)

/-- Whether a line is wanted. -/
def wants (s : Search) (row : Text) : Bool :=
  let t := row.toArray
  (searchFrom s t (t.size + 2) 0).isSome != s.invert

/-- The matches in a line, without those that are empty. -/
def matchesOf (s : Search) (t : Array Char) : Nat → Nat → List (Nat × Nat)
  | 0, _ => []
  | n + 1, i =>
      match searchFrom s t (t.size + 2 - i) i with
      | none => []
      | some (a, b) =>
          if a = b then matchesOf s t n (a + 1) else (a, b) :: matchesOf s t n b

/-- What is shown of the lines of a file. -/
structure Showing where
  /-- The name in front of each line. -/
  title : Option Octets
  /-- Whether lines have their numbers. -/
  numbers : Bool
  /-- Whether lines have their places. -/
  places : Bool
  /-- Whether only matches are shown. -/
  only : Bool
  /-- How many lines before a match are shown. -/
  before : Nat
  /-- How many lines after a match are shown. -/
  after : Nat

/-- What stands in front of a line. -/
def Showing.front (s : Showing) (mark : Char) (number place : Nat) : Octets :=
  (s.title.map (· ++ [mark])).getD [] ++
    (if s.numbers then Octets.ofNat number ++ [mark] else []) ++
    (if s.places then Octets.ofNat place ++ [mark] else [])

/-- The lines that are shown: those that are wanted, and those around them. -/
def chosen (before after : Nat) (hits : List Bool) : List (Nat × Bool) :=
  let all := hits.toArray
  (List.range all.size).filterMap fun i =>
    if (all[i]?).getD false then some (i, true)
    else
      let near := ((List.range after).any fun k => i ≥ k + 1 && (all[i - (k + 1)]?).getD false) ||
        ((List.range before).any fun k => (all[i + k + 1]?).getD false)
      if near then some (i, false) else none

/-- Show lines, with marks between groups that do not touch. -/
def render (search : Search) (s : Showing) (rows : Array (Octets × Nat)) (grouped : Bool) :
    Option Nat → List (Nat × Bool) → Octets
  | _, [] => []
  | last, (i, hit) :: rest =>
      let gap := match last with
        | some k => if grouped && k + 1 < i then ['-', '-', '\n'] else []
        | none => []
      let (row, place) := (rows[i]?).getD ([], 0)
      let here :=
        if s.only then
          if hit && !search.invert then
            let t := (Octets.toText row).toArray
            (matchesOf search t (t.size + 1) 0).flatMap fun (a, b) =>
              let start := place + (Octets.ofText (t.toList.take a)).length
              s.front ':' (i + 1) start ++ Octets.ofText ((t.toList.drop a).take (b - a)) ++ ['\n']
          else []
        else s.front (if hit then ':' else '-') (i + 1) place ++ row ++ ['\n']
      gap ++ here ++ render search s rows grouped (some i) rest

/-- Lines with the places where they start. -/
def placed (at' : Nat) : List Octets → List (Octets × Nat)
  | [] => []
  | row :: rest => (row, at') :: placed (at' + row.length + 1) rest

/-- The files below a directory, with their paths. -/
def filesBelow (p : Octets) : Nat → Entry → List Octets
  | 0, _ => []
  | _, .file .. => [p]
  | n + 1, .dir inner =>
      (Listing.sortByName inner.entries).flatMap fun e =>
        filesBelow (if p.isEmpty then Octets.ofText e.1 else inDirectory p (Octets.ofText e.1)) n e.2

/-- The options. -/
def options : Options :=
  Options.of "A:B:C:EFGHLPRUZabcd:e:f:hilm:noqrsvwxyzTuD:"
    [("after-context", 'A', .one), ("before-context", 'B', .one), ("context", 'C', .one),
      ("extended-regexp", 'E', .none), ("fixed-strings", 'F', .none), ("basic-regexp", 'G', .none),
      ("with-filename", 'H', .none), ("files-without-match", 'L', .none), ("text", 'a', .none),
      ("byte-offset", 'b', .none), ("count", 'c', .none), ("regexp", 'e', .one),
      ("file", 'f', .one), ("no-filename", 'h', .none), ("ignore-case", 'i', .none),
      ("files-with-matches", 'l', .none), ("max-count", 'm', .one), ("line-number", 'n', .none),
      ("only-matching", 'o', .none), ("quiet", 'q', .none), ("silent", 'q', .none),
      ("recursive", 'r', .none), ("dereference-recursive", 'R', .none),
      ("no-messages", 's', .none), ("invert-match", 'v', .none), ("word-regexp", 'w', .none),
      ("line-regexp", 'x', .none), ("include", '1', .one), ("exclude", '2', .one),
      ("exclude-dir", '3', .one), ("color", '4', .maybe), ("colour", '4', .maybe),
      ("line-buffered", '5', .none), ("null", 'Z', .none), ("binary-files", '6', .one)]

/-- How it is called. -/
def usage : Octets :=
  ("Usage: grep [OPTION]... PATTERNS [FILE]...\nTry 'grep --help' for more " ++
    "information.\n").toList

/-- Read the patterns of some texts. -/
def readPatterns (kind : Char) (texts : List Octets) : Except String (List Regex) :=
  (texts.flatMap (Text.splitOn '\n')).mapM fun t =>
    if kind = 'F' then .ok (Regex.literal (Octets.toText t))
    else Regex.parse (kind = 'E') (Octets.toText t)

/-- Whether bytes are no text. -/
def isBinary (t : Octets) : Bool :=
  t.contains '\x00' || (t.any (·.toNat ≥ 128) && (Utf8.decode (Octets.toBytes t)).isNone)

/-- Whether a name is what a pattern of names says. -/
def fits (pattern name : Octets) : Bool :=
  Shell.Pattern.fits (Shell.Pattern.ofGlyphs true (Shell.glyphs false pattern)) name

/-- Whether a name is let through by the options. -/
def lets (gs : List GivenOption) (p : Octets) : Bool :=
  let includes := (gs.filter (·.1 = '1')).map (·.2)
  let excludes := (gs.filter (·.1 = '2')).map (·.2)
  (includes.isEmpty || includes.any fun g => fits g (lastName p)) &&
    !excludes.any fun g => fits g (lastName p)

/-- Search files. -/
def searchFiles (name : Octets) (gs : List GivenOption) (search : Search)
    (files : List Octets) : Work Unit := do
  let deep := givenAny gs "rR"
  let number (c : Char) : Option Nat := (argumentOf? gs c).bind Octets.toNat?
  let context := (number 'C').getD 0
  let files := if files.isEmpty then (if deep then [[]] else [['-']]) else files
  -- Directories are searched if that is wanted.
  let mut paths : List (Octets × Option Errno) := []
  let mut several : Bool := files.length > 1
  for p in files do
    if p = ['-'] then paths := (p, none) :: paths
    else
      match ← Work.stat (if p.isEmpty then ['.'] else p) with
      | .ok (_, .dir inner) =>
          if deep then
            several := true
            let below := (filesBelow p 1000 (.dir inner)).filter (lets gs)
            paths := (below.map fun q => (q, none)).reverse ++ paths
          else paths := (p, some .isDirectory) :: paths
      | .ok _ => if deep && !lets gs p then pure () else paths := (p, none) :: paths
      | .error e => paths := (p, some e) :: paths
  let titled := (several || given gs 'H') && !given gs 'h'
  let mut found := false
  let mut failed := false
  for (p, trouble) in paths.reverse do
    if given gs 'q' && found then pure ()
    else
      match trouble with
      | some e =>
          failed := true
          if given gs 's' then pure ()
          else Work.complain name (p ++ ": ".toList ++ reason e)
      | none =>
          match ← Work.read p with
          | .error e =>
              failed := true
              Work.complain name (p ++ ": ".toList ++ reason e)
          | .ok t =>
              let shownName := if p = ['-'] then "(standard input)".toList else p
              let rows := Octets.lines t
              let hits := rows.map fun row => wants search (Octets.toText row)
              let hits := match number 'm' with
                | some m => (hits.foldl (fun (acc, k) h =>
                    if h && k < m then (true :: acc, k + 1) else (false :: acc, k))
                    (([] : List Bool), 0)).1.reverse
                | none => hits
              let count := (hits.filter id).length
              let any := count > 0
              if any then found := true
              let title := if titled then some shownName else none
              if given gs 'q' then pure ()
              else if given gs 'l' then
                if any then Work.write (shownName ++ [if given gs 'Z' then '\x00' else '\n'])
              else if given gs 'L' then
                if !any then Work.write (shownName ++ [if given gs 'Z' then '\x00' else '\n'])
              else if given gs 'c' then
                Work.writeLine ((title.map (· ++ [':'])).getD [] ++ Octets.ofNat count)
              else if any && isBinary t && !given gs 'a' then
                Work.writeLine (name ++ ": ".toList ++ shownName ++ ": binary file matches".toList)
              else
                let showing : Showing :=
                  { title, numbers := given gs 'n', places := given gs 'b', only := given gs 'o'
                    before := (number 'B').getD context, after := (number 'A').getD context }
                let grouped := showing.before > 0 || showing.after > 0
                Work.write (render search showing (placed 0 rows).toArray grouped none
                  (chosen showing.before showing.after hits))
  Work.fail (if failed && !(given gs 'q' && found) then 2 else if found then 0 else 1)

/-- Write the lines that match.  The letter is the kind of pattern if no option says otherwise. -/
def tool (dflt : Char) : Tool := fun name args => do
  -- A number after a hyphen is a number of lines around matches.
  let args := args.flatMap fun a =>
    match a with
    | '-' :: c :: cs => if (c :: cs).all Char.isDigit then [['-', 'C'], c :: cs] else [a]
    | _ => [a]
  match options.parse args with
  | .error t =>
      Work.complain name t
      Work.rawComplaint usage
      Work.fail 2
  | .ok (gs, ops) =>
      let patternFiles := (gs.filter (·.1 = 'f')).map (·.2)
      let mut texts := (gs.filter (·.1 = 'e')).map (·.2)
      let mut broken := false
      for p in patternFiles do
        match ← Work.read p with
        | .ok t => texts := texts ++ Octets.lines t
        | .error e =>
            broken := true
            Work.refuse name (p ++ ": ".toList ++ reason e) 2
      let named := given gs 'e' || given gs 'f'
      let badContext := gs.find? fun g =>
        "ABC".toList.contains g.1 && (Octets.toNat? g.2).isNone
      match broken, named, ops, badContext with
      | true, _, _, _ => pure ()
      | _, _, _, some (_, t) =>
          Work.refuse name (t ++ ": invalid context length argument".toList) 2
      | _, false, [], _ =>
          Work.rawComplaint usage
          Work.fail 2
      | _, _, _, _ =>
          let wanted := if named then texts else [ops.headD []]
          let files := if named then ops else ops.tail
          let kind := (lastOf? gs "EFGP").getD dflt
          let kind := if kind = 'P' then 'E' else kind
          match readPatterns kind wanted with
          | .error t => Work.refuse name t.toList 2
          | .ok patterns =>
              searchFiles name gs
                { patterns, fold := givenAny gs "iy", word := given gs 'w', line := given gs 'x'
                  invert := given gs 'v' } files

end Grep
end Utility
end AmbientBundle
