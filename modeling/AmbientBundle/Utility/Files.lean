import AmbientBundle.Utility.Work

/-!
# Utilities that change the file tree

Directories are made and removed, files are made, removed and marked as programs.
Every path is worked on for itself: a complaint about one of them does not keep the
others from their turn.
-/

namespace AmbientBundle
namespace Utility

/-- Put an entry at a place. -/
def putAt (place : List Text) (e : Entry) : Work Unit :=
  modify fun d => { d with tree := d.tree.put place e }

/-- Remove what is at a place. -/
def removeAt (place : List Text) : Work Unit :=
  modify fun d => { d with tree := d.tree.remove place }

/-- Make one directory. -/
def makeDirectory (p : Octets) : Work (Except Errno Unit) := do
  if p.isEmpty then return .error .noEntry
  else Work.change fun tree cwd => tree.makeDir cwd (Path.parse (Octets.toText p))

/-- Complain about a directory that cannot be made. -/
def cannotMake (name p : Octets) (e : Errno) : Work Unit :=
  Work.refuse name ("cannot create directory ".toList ++ curled p ++ ": ".toList ++ reason e)

/-- Tell that a directory was made. -/
def tellMade (verbose : Bool) (name p : Octets) : Work Unit :=
  if verbose then
    Work.writeLine (name ++ ": created directory ".toList ++ quoted p)
  else pure ()

/-- The starts of a path up to each of its parts but the last one. -/
def ancestors (seen : Octets) : Octets → List Octets
  | [] => []
  | c :: rest =>
      let last := rest.all (· = '/')
      let here := if c = '/' && seen.getLast? ≠ some '/' && !seen.isEmpty && !last then [seen] else []
      here ++ ancestors (seen ++ [c]) rest

/-- Make the directories above a path; the first one that cannot be made comes out. -/
def makeAncestors (verbose : Bool) (name : Octets) : List Octets → Work (Option (Octets × Errno))
  | [] => return none
  | p :: rest => do
      match ← Work.stat p with
      | .ok (_, .dir _) => makeAncestors verbose name rest
      | .ok (_, .file ..) => return some (p, .notDirectory)
      | .error .noEntry =>
          match ← makeDirectory p with
          | .ok () =>
              tellMade verbose name p
              makeAncestors verbose name rest
          | .error e => return some (p, e)
      | .error e => return some (p, e)

/-- Make directories. -/
def mkdir : Tool := fun name args =>
  (Options.of "m:pvZ" [("mode", 'm', .one), ("parents", 'p', .none), ("verbose", 'v', .none)]).handle
    name args fun gs ops => do
      if ops.isEmpty then misused name "missing operand".toList
      else
        let verbose := given gs 'v'
        ops.forM fun p => do
          let above ← if given gs 'p' then makeAncestors verbose name (ancestors [] p) else pure none
          match above with
          | some (q, e) => cannotMake name q e
          | none =>
              match ← makeDirectory p with
              | .ok () => tellMade verbose name p
              | .error e =>
                  match given gs 'p', ← Work.stat p with
                  | true, .ok (_, .dir _) => pure ()
                  | _, _ => cannotMake name p e

/-- Remove an empty directory. -/
def removeDirectory (p : Octets) : Work (Except Errno Unit) := do
  match ← Work.stat p with
  | .error e => return .error e
  | .ok (_, .file ..) => return .error .notDirectory
  | .ok (s, .dir inner) =>
      if (withoutSlashes p).reverse.takeWhile (· ≠ '/') = ['.'] then return .error .invalid
      else if inner ≠ .nil then return .error .notEmpty
      else
        removeAt s.place
        return .ok ()

/-- The paths above a path, nearest first. -/
def pathsAbove : Nat → Octets → List Octets
  | 0, _ => []
  | n + 1, p =>
      let front := ((withoutSlashes p).reverse.dropWhile (· ≠ '/')).reverse
      let up := (front.reverse.dropWhile (· = '/')).reverse
      if up.isEmpty then [] else up :: pathsAbove n up

/-- Remove empty directories. -/
def rmdir : Tool := fun name args =>
  (Options.of "pv" [("parents", 'p', .none), ("verbose", 'v', .none),
      ("ignore-fail-on-non-empty", 'i', .none)]).handle name args fun gs ops => do
    if ops.isEmpty then misused name "missing operand".toList
    else
      ops.forM fun p => do
        let all := if given gs 'p' then p :: pathsAbove p.length p else [p]
        let mut go := true
        for q in all do
          if go then
            if given gs 'v' then
              Work.writeLine (name ++ ": removing directory, ".toList ++ quoted q)
            match ← removeDirectory q with
            | .ok () => pure ()
            | .error e =>
                go := false
                if e = .notEmpty && given gs 'i' then pure ()
                else
                  let what := if q = p then "failed to remove " else "failed to remove directory "
                  Work.refuse name (what.toList ++ quoted q ++ ": ".toList ++ reason e)

/-- The names of what is removed together with an entry, innermost first. -/
def removedNames (p : Octets) : Nat → Entry → List Octets
  | 0, _ => []
  | _, .file .. => ["removed ".toList ++ quoted p]
  | n + 1, .dir inner =>
      (Listing.sortByName inner.entries).flatMap
          (fun e => removedNames (inDirectory p (Octets.ofText e.1)) n e.2) ++
        ["removed directory ".toList ++ quoted p]

/-- Remove files, and directories if that is wanted. -/
def rm : Tool := fun name args =>
  (Options.of "fiIrRdv" [("force", 'f', .none), ("recursive", 'r', .none), ("dir", 'd', .none),
      ("verbose", 'v', .none), ("interactive", 'x', .maybe), ("no-preserve-root", 'n', .none),
      ("preserve-root", 'y', .maybe), ("one-file-system", 'z', .none)]).handle
    name args fun gs ops => do
      let force := given gs 'f'
      let deep := givenAny gs "rR"
      let cannot (p : Octets) (e : Errno) : Work Unit :=
        Work.refuse name ("cannot remove ".toList ++ quoted p ++ ": ".toList ++ reason e)
      let tell (t : Octets) : Work Unit := if given gs 'v' then Work.writeLine t else pure ()
      if ops.isEmpty && !force then misused name "missing operand".toList
      else
        ops.forM fun p => do
          let last := lastName p
          match ← Work.stat p with
          | .error e =>
              if force && (e = .noEntry || e = .notDirectory || e = .invalid) then pure ()
              else cannot p e
          | .ok (s, .file ..) =>
              removeAt s.place
              tell ("removed ".toList ++ quoted p)
          | .ok (s, .dir inner) =>
              if deep && (last = ['.'] || last = ['.', '.']) then
                Work.refuse name
                  ("refusing to remove '.' or '..' directory: skipping ".toList ++ quoted p)
              else if deep && s.place.isEmpty then
                Work.refuse name "it is dangerous to operate recursively on '/'".toList
                Work.complain name "use --no-preserve-root to override this failsafe".toList
              else if deep then
                removeAt s.place
                (removedNames p 1000 (.dir inner)).forM tell
              else if given gs 'd' then
                match ← removeDirectory p with
                | .ok () => tell ("removed directory ".toList ++ quoted p)
                | .error e => cannot p e
              else cannot p .isDirectory

/-- Remove one file. -/
def unlink : Tool := fun name args => do
  match args with
  | [] => misused name "missing operand".toList
  | p :: _ =>
      let cannot (e : Errno) : Work Unit :=
        Work.refuse name ("cannot unlink ".toList ++ quoted p ++ ": ".toList ++ reason e)
      match ← Work.stat p with
      | .error e => cannot e
      | .ok (_, .dir _) => cannot .isDirectory
      | .ok (s, .file ..) => removeAt s.place

/-- Make files that are missing. -/
def touch : Tool := fun name args =>
  (Options.of "acd:fhmr:t:" [("no-create", 'c', .none), ("date", 'd', .one),
      ("reference", 'r', .one), ("time", 'x', .one)]).handle name args fun gs ops => do
    if ops.isEmpty then misused name "missing file operand".toList
    else
      ops.forM fun p => do
        let cannot (what : String) (e : Errno) : Work Unit :=
          Work.refuse name (what.toList ++ quoted p ++ ": ".toList ++ reason e)
        match ← Work.stat p with
        | .ok _ => pure ()
        | .error e =>
            if given gs 'c' then
              if e = .noEntry then pure () else cannot "setting times of " e
            else
              match ← Work.save p [] with
              | .ok () => pure ()
              | .error .isDirectory => cannot "setting times of " e
              | .error e => cannot "cannot touch " e

/-! ## Permissions -/

/-- Whether permissions let a file be run, after a change of them is made; nothing if the change
cannot be read. -/
def changedMode (change : Octets) (old : FileMode) : Option FileMode :=
  if old = .sink then some .sink
  else if !change.isEmpty && change.all fun c => '0' ≤ c && c ≤ '7' then
    let bits := change.foldl (fun n c => n * 8 + (c.toNat - 48)) 0
    if bits > 4095 then none
    else some (if bits / 64 % 2 = 1 || bits / 8 % 2 = 1 || bits % 2 = 1 then .program else .data)
  else
    (Text.splitOn ',' change).foldl
      (fun acc clause =>
        acc.bind fun mode =>
          let who := clause.takeWhile fun c => "ugoa".toList.contains c
          match clause.drop who.length with
          | op :: letters =>
              if !"+-=".toList.contains op || !letters.all fun c => "rwxXstugo".toList.contains c then
                none
              else
                let runs := letters.contains 'x' || (letters.contains 'X' && mode = .program)
                let everyone := who.isEmpty || who.contains 'a'
                if op = '+' then some (if runs then .program else mode)
                else if op = '-' then some (if runs && everyone then .data else mode)
                else if everyone then some (if runs then .program else .data)
                else some (if runs then .program else mode)
          | [] => none)
      (some old)

/-- Change the permissions of an entry and of all below it. -/
def changeBelow (change : Octets) : Nat → List Text → Entry → Work Unit
  | 0, _, _ => pure ()
  | _, place, .file c m => putAt place (.file c ((changedMode change m).getD m))
  | n + 1, place, .dir inner =>
      inner.entries.forM fun e => changeBelow change n (place ++ [e.1]) e.2

/-- Change permissions. -/
def chmod : Tool := fun name args =>
  -- A change that takes permissions away looks like options.
  let isChange (a : Octets) : Bool :=
    match a with
    | '-' :: c :: cs => (c :: cs).all fun c => "rwxXst".toList.contains c
    | _ => false
  let (early, args) := (args.filter isChange, args.filter (!isChange ·))
  (Options.of "Rcfv" [("recursive", 'R', .none), ("verbose", 'v', .none), ("changes", 'c', .none),
      ("silent", 'f', .none), ("quiet", 'f', .none)]).handle name args fun gs ops => do
    match early ++ ops with
    | [] => misused name "missing operand".toList
    | [m] => misused name ("missing operand after ".toList ++ curled m)
    | m :: files =>
        if (changedMode m .data).isNone then misused name ("invalid mode: ".toList ++ curled m)
        else
          files.forM fun p => do
            match ← Work.stat p with
            | .error e =>
                Work.refuse name ("cannot access ".toList ++ quoted p ++ ": ".toList ++ reason e)
            | .ok (s, .file c mode) => putAt s.place (.file c ((changedMode m mode).getD mode))
            | .ok (s, .dir inner) =>
                if given gs 'R' then changeBelow m 1000 s.place (.dir inner) else pure ()

/-- Make a file or a directory with a new name. -/
def mktemp : Tool := fun name args =>
  (Options.of "dp:qtu" [("directory", 'd', .none), ("tmpdir", 'p', .maybe), ("quiet", 'q', .none),
      ("dry-run", 'u', .none), ("suffix", 's', .one)]).handle name args fun gs ops => do
    let dir := (argumentOf? gs 'p').getD "/tmp".toList
    let template := ops.headD "tmp.XXXXXXXXXX".toList
    let body := (template.reverse.dropWhile (· = 'X')).reverse
    let marks := template.length - body.length
    if marks < 3 then
      Work.refuse name ("too few X's in template ".toList ++ curled template)
    else
      let tree := (← get).tree
      let inside := ops.isEmpty || given gs 'p' || given gs 't'
      let path (k : Nat) : Octets :=
        let ds := Octets.ofNat (k + 1)
        let fresh := body ++ List.replicate (marks - ds.length) 'a' ++ ds
        (if inside then inDirectory dir fresh else fresh) ++ (argumentOf? gs 's').getD []
      let cwd := (← get).cwd
      let free := (List.range 1000).find? fun k => !tree.isThere cwd (Path.parse (Octets.toText (path k)))
      let p := path (free.getD 0)
      let made ←
        if given gs 'u' then pure (.ok ())
        else if given gs 'd' then makeDirectory p
        else Work.save p []
      match made with
      | .ok () => Work.writeLine p
      | .error e =>
          let kind := if given gs 'd' then "directory" else "file"
          Work.refuse name ("failed to create ".toList ++ kind.toList ++ " via template ".toList ++
            curled (if inside then inDirectory dir template else template) ++ ": ".toList ++ reason e)

end Utility
end AmbientBundle
