import AmbientBundle.Utility.Filters
import AmbientBundle.Utility.Sed.Script

/-!
# The stream editor

Lines are taken one after the other.  For each of them the steps of the script are gone
through, and what has become of the line is written.  A second text is kept from line to
line.

Complaints about files come before the output, since output is held back.
-/

namespace AmbientBundle
namespace Utility
namespace Sed

/-- How the editor works. -/
structure Manner where
  /-- Whether lines are written only if the script says so. -/
  quiet : Bool := false
  /-- The name of the file. -/
  file : Octets := ['-']

/-- The editor at work. -/
structure Editor where
  /-- The lines that are left, each with whether it has an end. -/
  input : List (Octets × Bool)
  /-- The line. -/
  space : Octets := []
  /-- Whether the line has an end. -/
  ended : Bool := true
  /-- The text that is kept. -/
  hold : Octets := []
  /-- The number of the line. -/
  number : Nat := 0
  /-- What goes out after the line, each text with whether it is from a file. -/
  later : List (Bool × Octets) := []
  /-- What was written, last piece first. -/
  out : List Octets := []
  /-- Whether the last line that was written lacks its end. -/
  open' : Bool := false
  /-- What was written to files, last piece first. -/
  files : List (Octets × Octets) := []
  /-- The steps whose range of lines goes on, with a last line if that is known, and whether a
  line behind it is left out. -/
  active : List (Nat × Option (Nat × Bool)) := []
  /-- The steps whose range went on from the start. -/
  begun : List Nat := []
  /-- Whether something was replaced. -/
  replaced : Bool := false
  /-- The last expression that was used. -/
  lastRegex : Option (Regex × Bool) := none
  /-- The status. -/
  status : Nat := 0

/-- Working. -/
abbrev Edit := StateM Editor

/-- How a round ends. -/
inductive Finish where
  /-- The line is written and the next one taken. -/
  | next
  /-- The next line is taken. -/
  | drop
  /-- The script starts again without a new line. -/
  | restart
  /-- Everything ends; whether the line is written. -/
  | quit (prints : Bool)
  deriving DecidableEq

/-- Write a line; an end that lacks is put before it. -/
def writeRow (t : Octets) (ended : Bool) : Edit Unit :=
  modify fun e =>
    let front := if e.open' then ['\n'] else []
    { e with out := (front ++ t ++ if ended then ['\n'] else []) :: e.out, open' := !ended }

/-- Write a text as it is. -/
def writeRaw (t : Octets) : Edit Unit :=
  modify fun e => if t.isEmpty then e else { e with out := t :: e.out }

/-- Write a line to a file. -/
def writeFile (name t : Octets) : Edit Unit := do
  if name = "/dev/stdout".toList then writeRow t true
  else modify fun e => { e with files := (name, t ++ ['\n']) :: e.files }

/-- Write what goes out after the line. -/
def flushLater : Edit Unit := do
  let e ← get
  set { e with later := [] }
  e.later.reverse.forM fun (isFile, t) => do
    if (← get).open' then
      writeRaw ['\n']
      modify fun e => { e with open' := false }
    if isFile then writeRaw t else writeRow t.dropLast true

/-- Take the next line, and tell whether there is one. -/
def takeRow : Edit (Option (Octets × Bool)) := do
  let e ← get
  match e.input with
  | [] => return none
  | row :: rest =>
      set { e with input := rest, number := e.number + 1 }
      return some row

/-! ## Choosing lines -/

/-- The expression that is meant. -/
def meant (r : Option (Regex × Bool)) : Edit (Option (Regex × Bool)) := do
  match r with
  | some x =>
      modify fun e => { e with lastRegex := some x }
      return some x
  | none => return (← get).lastRegex

/-- Whether a line is chosen. -/
def chosen (a : Address) : Edit Bool := do
  let e ← get
  match a with
  | .line n => return e.number = n
  | .step first by' =>
      return if by' = 0 then e.number = first
        else e.number ≥ first && (e.number - first) % by' = 0
  | .last => return e.input.isEmpty
  | .regex r =>
      match ← meant r with
      | none => return false
      | some (r, fold) => return (r.search fold (Octets.toText e.space).toArray 0).isSome

/-- Whether a step is taken for the line. -/
def taken (index : Nat) (c : Choice) : Edit Bool := do
  let stop : Edit Unit := modify fun e => { e with active := e.active.filter (·.1 ≠ index) }
  let e ← get
  let yes ←
    match c.first, c.upTo with
    | none, _ => pure true
    | some a, none => chosen a
    | some a, some upTo =>
        -- A range that starts before the first line goes on from there.
        let fromZero := match a with
          | .line 0 => !e.begun.contains index
          | _ => false
        let begin' : Edit Unit := modify fun e => { e with begun := index :: e.begun }
        if fromZero then begin'
        let going := e.active.find? (·.1 = index)
        match going, fromZero with
        | some (_, some (n, strict)), _ =>
            if n ≤ e.number then stop
            pure (decide (e.number ≤ n) || !strict)
        | none, false =>
            if ← starts e a upTo then
              begin'
              let start (n : Option (Nat × Bool)) : Edit Unit :=
                modify fun e => { e with active := (index, n) :: e.active }
              match upTo with
              | .address (.line n) => if n > e.number then start (some (n, true))
              | .address _ => start none
              | .plus n => if n > 0 then start (some (e.number + n, false))
              | .multiple n =>
                  if n > 0 && e.number % n ≠ 0 then
                    start (some (e.number + (n - e.number % n), false))
              pure true
            else pure false
        | _, _ =>
            -- The range goes on until a line is chosen.
            if fromZero then modify fun e => { e with active := (index, none) :: e.active }
            match upTo with
            | .address b => if ← chosen b then stop
            | _ => pure ()
            pure true
  return yes != c.negated
where
  /-- Whether a range starts with the line.  One that starts at a number does so even if that line
  was passed over, unless its end was passed too. -/
  starts (e : Editor) (a : Address) (upTo : Until) : Edit Bool := do
    match a with
    | .line n =>
        let passed := match upTo with
          | .address (.line m) => m < e.number
          | _ => false
        return e.number = n || (e.number > n && !e.begun.contains index && !passed)
    | _ => chosen a

/-! ## Replacing -/

/-- Change letters as a piece before them says. -/
def changed (whole once : Option Char) (t : Text) : Text :=
  let all : Text := match whole with
    | some 'U' => t.map Char.toUpper
    | some 'L' => t.map Char.toLower
    | _ => t
  match once, all with
  | some 'u', c :: rest => c.toUpper :: rest
  | some 'l', c :: rest => c.toLower :: rest
  | _, t => t

/-- What a match is replaced by. -/
def filled (t : Text) (start : Nat) (f : Regex.Found) :
    Option Char → Option Char → List Piece → Text
  | _, _, [] => []
  | whole, once, p :: rest =>
      let put (u : Text) : Text :=
        changed whole once u ++ filled t start f whole (if u.isEmpty then once else none) rest
      match p with
      | .text u => put u
      | .group 0 => put ((t.drop start).take (f.stop - start))
      | .group n =>
          match f.groups.lookup n with
          | some (a, b) => put ((t.drop a).take (b - a))
          | none => put []
      | .letters c =>
          if c = 'u' || c = 'l' then filled t start f whole (some c) rest
          else if c = 'E' then filled t start f none none rest
          else filled t start f (some c) none rest

/-- Replace matches from a place on.  It is known which match comes next, and whether the place
lies right after a match. -/
def replaceFrom (r : Regex) (fold : Bool) (s : Replacement) (t : Text) (ts : Array Char) :
    Nat → Nat → Nat → Option Nat → Option Text
  | 0, _, _, _ => none
  | n + 1, i, k, last =>
      match r.search fold ts i with
      | none => none
      | some (a, f) =>
          let between := (t.drop i).take (a - i)
          let matched := (t.drop a).take (f.stop - a)
          -- An empty match right after another one does not count.
          if f.stop = a && last = some a then
            match t.drop a with
            | [] => none
            | c :: _ =>
                (replaceFrom r fold s t ts n (a + 1) k none).map fun rest => between ++ c :: rest
          else if k < s.number then
            let step := if f.stop = a then (t.drop a).take 1 else []
            let on := if f.stop = a then a + 1 else f.stop
            if f.stop = a && a ≥ ts.size then none
            else
              (replaceFrom r fold s t ts n on (k + 1) (if f.stop = a then none else some f.stop)).map
                fun rest => between ++ matched ++ step ++ rest
          else
            let new := filled t a f none none s.pieces
            if !s.all then some (between ++ new ++ t.drop f.stop)
            else if f.stop = a then
              match t.drop a with
              | [] => some (between ++ new)
              | c :: rest =>
                  let more := (replaceFrom r fold s t ts n (a + 1) (k + 1) none).getD rest
                  some (between ++ new ++ c :: more)
            else
              let more := (replaceFrom r fold s t ts n f.stop (k + 1) (some f.stop)).getD
                (t.drop f.stop)
              some (between ++ new ++ more)

/-- Replace matches in the line. -/
def replace (s : Replacement) : Edit Unit := do
  match ← meant s.regex with
  | none => pure ()
  | some (r, fold) =>
      let t := Octets.toText (← get).space
      match replaceFrom r fold s t t.toArray (t.length + 2) 0 1 none with
      | none => pure ()
      | some new =>
          let new := Octets.ofText new
          modify fun e => { e with space := new, replaced := true }
          if s.prints then writeRow new true
          match s.file with
          | some name => writeFile name new
          | none => pure ()

/-! ## Steps -/

/-- A line with everything visible. -/
def visibleRow (t : Octets) : Octets :=
  let one (c : Char) : Octets :=
    match c with
    | '\\' => ['\\', '\\']
    | '\n' => ['\\', 'n']
    | '\t' => ['\\', 't']
    | '\r' => ['\\', 'r']
    | '\x07' => ['\\', 'a']
    | '\x08' => ['\\', 'b']
    | '\x0b' => ['\\', 'v']
    | '\x0c' => ['\\', 'f']
    | c =>
        if c.toNat < 32 || c.toNat ≥ 127 then
          let ds := Nat.toDigits 8 c.toNat
          '\\' :: List.replicate (3 - ds.length) '0' ++ ds
        else [c]
  let rows := t.foldl
    (fun (acc : List Octets × Octets) c =>
      let u := one c
      if acc.2.length + u.length > 69 then ((acc.2 ++ ['\\']) :: acc.1, u) else (acc.1, acc.2 ++ u))
    ([], [])
  List.intercalate ['\n'] (rows.1.reverse ++ [rows.2 ++ ['$']])

/-- Carry out a letter; nothing means that the next step follows. -/
def letter (m : Manner) (c : Char) : Edit (Option Finish) := do
  let e ← get
  match c with
  | 'd' => return some .drop
  | 'D' =>
      if e.space.contains '\n' then
        set { e with space := (e.space.dropWhile (· ≠ '\n')).drop 1 }
        return some .restart
      else return some .drop
  | 'p' => writeRow e.space e.ended; return none
  | 'P' => writeRow (e.space.takeWhile (· ≠ '\n')) true; return none
  | '=' => writeRow (Octets.ofNat e.number) true; return none
  | 'l' => writeRow (visibleRow e.space) true; return none
  | 'F' => writeRow m.file true; return none
  | 'g' => set { e with space := e.hold }; return none
  | 'G' => set { e with space := e.space ++ '\n' :: e.hold }; return none
  | 'h' => set { e with hold := e.space }; return none
  | 'H' => set { e with hold := e.hold ++ '\n' :: e.space }; return none
  | 'x' => set { e with space := e.hold, hold := e.space }; return none
  | 'z' => set { e with space := [] }; return none
  | 'n' =>
      if e.input.isEmpty then return some (.quit true)
      else
        if m.quiet then pure () else writeRow e.space e.ended
        flushLater
        match ← takeRow with
        | some (t, ended) => modify fun e => { e with space := t, ended }
        | none => pure ()
        return none
  | 'N' =>
      if e.input.isEmpty then return some (.quit true)
      else
        flushLater
        match ← takeRow with
        | some (t, ended) => modify fun e => { e with space := e.space ++ '\n' :: t, ended }
        | none => pure ()
        return none
  | _ => return none

/-- Whether a range of lines goes on after the line. -/
def goesOn (index : Nat) : Edit Bool := return (← get).active.any (·.1 = index)

/-- Go through the steps from one on. -/
def go (m : Manner) (read : Octets → Option Octets) (s : Script) : Nat → Nat → Edit Finish
  | 0, _ => return .quit false
  | n + 1, pc => do
      match s.steps[pc]? with
      | none => return .next
      | some step =>
          if !(← taken pc step.choice) then
            match step.action with
            | .block stop => go m read s n stop
            | _ => go m read s n (pc + 1)
          else
            match step.action with
            | .block _ => go m read s n (pc + 1)
            | .nothing => go m read s n (pc + 1)
            | .letter c =>
                match ← letter m c with
                | some f => return f
                | none => go m read s n (pc + 1)
            | .text 'a' t =>
                modify fun e => { e with later := (false, t) :: e.later }
                go m read s n (pc + 1)
            | .text 'i' t =>
                writeRow t.dropLast true
                go m read s n (pc + 1)
            | .text _ t =>
                if step.choice.upTo.isNone || step.choice.negated || !(← goesOn pc) then
                  writeRow t.dropLast true
                return .drop
            | .replace r =>
                replace r
                go m read s n (pc + 1)
            | .swap table =>
                modify fun e =>
                  { e with space := Octets.ofText ((Octets.toText e.space).map fun c =>
                      (table.lookup c).getD c) }
                go m read s n (pc + 1)
            | .jump c label =>
                let target := if label.isEmpty then s.steps.size
                  else (s.labels.lookup label).getD s.steps.size
                let e ← get
                let jumps := match c with
                  | 'b' => true
                  | 't' => e.replaced
                  | _ => !e.replaced
                if c ≠ 'b' then modify fun e => { e with replaced := false }
                go m read s n (if jumps then target else pc + 1)
            | .quit c status =>
                modify fun e => { e with status }
                return .quit (c = 'q')
            | .file 'r' name =>
                match read name with
                | some t => modify fun e => { e with later := (true, t) :: e.later }
                | none => pure ()
                go m read s n (pc + 1)
            | .file 'w' name =>
                writeFile name (← get).space
                go m read s n (pc + 1)
            | .file 'W' name =>
                writeFile name ((← get).space.takeWhile (· ≠ '\n'))
                go m read s n (pc + 1)
            | .file _ _ => go m read s n (pc + 1)

/-- A bound on the steps for one line. -/
def stepLimit : Nat := 100000

/-- Go through the lines. -/
def rounds (m : Manner) (read : Octets → Option Octets) (s : Script) : Nat → Bool → Edit Unit
  | 0, _ => pure ()
  | n + 1, fresh => do
      let there ←
        if fresh then do
          match ← takeRow with
          | some (t, ended) =>
              modify fun e => { e with space := t, ended, replaced := false }
              pure true
          | none => pure false
        else pure true
      if there then
        let finish ← go m read s stepLimit 0
        let e ← get
        if finish = .next || finish = .quit true then
          if m.quiet then pure () else writeRow e.space e.ended
        flushLater
        match finish with
        | .quit _ => modify fun e => { e with input := [] }
        | .restart => rounds m read s n false
        | _ => rounds m read s n true

/-- Edit some lines. -/
def edit (m : Manner) (read : Octets → Option Octets) (s : Script) (e : Editor) : Editor :=
  ((rounds m read s (4 * e.input.length + 100000) true).run e).2

/-! ## The utility -/

/-- Lines, each with whether it has an end. -/
def rowsWithEnds (t : Octets) : List (Octets × Bool) :=
  (rowsOf t).map fun row =>
    if row.getLast? = some '\n' then (row.dropLast, true) else (row, false)

/-- The files that a script writes. -/
def writtenFiles (s : Script) : List Octets :=
  s.steps.toList.filterMap fun st =>
    match st.action with
    | .file 'w' name => some name
    | .file 'W' name => some name
    | .replace r => r.file
    | _ => none

/-- The options. -/
def options : Options :=
  Options.of "bsnrzuEe:f:l:i::V:s"
    [("quiet", 'n', .none), ("silent", 'n', .none), ("expression", 'e', .one), ("file", 'f', .one),
      ("in-place", 'i', .maybe), ("regexp-extended", 'E', .none), ("separate", 's', .none),
      ("unbuffered", 'u', .none), ("null-data", 'z', .none), ("line-length", 'l', .one),
      ("posix", 'p', .none), ("debug", '1', .none), ("follow-symlinks", '2', .none),
      ("sandbox", '3', .none)]

/-- Join a text that ends with a backslash to the next one. -/
def joinTexts : List (Origin × Octets) → List (Origin × Octets)
  | (o, t) :: rest =>
      match joinTexts rest with
      | (p, u) :: more =>
          if t.getLast? = some '\\' then (o, t ++ '\n' :: u) :: more else (o, t) :: (p, u) :: more
      | [] => [(o, t)]
  | [] => []

/-- The texts of a script, in the order they were given. -/
def scriptTexts (name : Octets) : Nat → List GivenOption → Work (Option (List (Origin × Octets)))
  | _, [] => return some []
  | n, ('e', t) :: rest => do
      return (← scriptTexts name (n + 1) rest).map fun r => (.expression n, t) :: r
  | n, ('f', p) :: rest => do
      match ← Work.read p with
      | .ok t => return (← scriptTexts name n rest).map fun r => (.file p, t) :: r
      | .error e =>
          Work.refuse name ("couldn't open file ".toList ++ p ++ ": ".toList ++ reason e) 4
          return none
  | n, _ :: rest => scriptTexts name n rest

/-- Put what was written to files in its place. -/
def saveFiles (s : Script) (e : Editor) : Work Unit :=
  (writtenFiles s).eraseDups.forM fun name => do
    if name = "/dev/stdout".toList then pure ()
    else
      let t := (e.files.filter (·.1 = name)).reverse.flatMap (·.2)
      let _ ← Work.save name t

/-- Edit streams and files. -/
def tool : Tool := fun name args =>
  options.handle name args fun gs ops => do
    let direct := !givenAny gs "ef"
    let gs := if direct then ('e', ops.headD []) :: gs else gs
    let files := if direct then ops.tail else ops
    if direct && ops.isEmpty then
      Work.rawComplaint
        ("Usage: sed [OPTION]... \x7bscript-only-if-no-other-script\x7d [input-file]...\n").toList
      Work.fail 1
    else
      match ← scriptTexts name 1 gs with
      | none => pure ()
      | some texts =>
          match parseAll (givenAny gs "rE") (joinTexts texts) {} [] with
          | .error t => Work.refuse name t
          | .ok script =>
              let d ← get
              let read (p : Octets) : Option Octets :=
                match d.tree.statText d.cwd (Octets.toText p) with
                | .ok (_, .file c _) => some (Octets.ofBytes c)
                | _ => none
              let quiet := given gs 'n' || (texts.head?.map fun t =>
                Text.startsWith t.2 "#n\n".toList).getD false
              let inPlace := given gs 'i'
              let apart := inPlace || given gs 's'
              let mut rows : List (List (Octets × Bool)) := []
              let mut state : Editor := { input := [] }
              let mut stopped := false
              for p in orInput files do
                if stopped then pure ()
                else
                  match inPlace, ← Work.read p with
                  | true, .error .isDirectory =>
                      Work.refuse name ("couldn't edit ".toList ++ p ++
                        ": not a regular file".toList) 4
                  | _, .error .isDirectory =>
                      Work.refuse name ("read error on ".toList ++ p ++ ": Is a directory".toList) 2
                  | _, .error e =>
                      Work.refuse name ("can't read ".toList ++ p ++ ": ".toList ++ reason e) 2
                  | _, .ok t =>
                      if apart then
                        let start : Editor :=
                          { state with input := rowsWithEnds t, number := 0
                                       out := if inPlace then [] else state.out }
                        let after := edit { quiet, file := p } read script start
                        state := { after with input := [] }
                        if after.status ≠ 0 then stopped := true
                        if inPlace then
                          let suffix := (argumentOf? gs 'i').getD []
                          if !suffix.isEmpty then
                            let _ ← Work.save (p ++ suffix) t
                          let _ ← Work.save p after.out.reverse.flatten
                          state := { state with out := [], open' := false }
                      else rows := rowsWithEnds t :: rows
              if !apart then
                state := edit { quiet, file := (orInput files).headD [] } read script
                  { input := rows.reverse.flatten }
              saveFiles script state
              Work.write state.out.reverse.flatten
              if state.status ≠ 0 then Work.fail state.status

end Sed
end Utility
end AmbientBundle
