import AmbientBundle.Utility.Files

/-!
# Copying and moving

The last argument is where files go: into it if it is a directory, else in its place,
and then there can be only one file.  A directory is copied only if that is wanted, and
merges with a directory that is there.  Nothing is copied or moved into itself.
-/

namespace AmbientBundle
namespace Utility

/-- What is to be done with files, and where they go. -/
structure Transfer where
  /-- The files. -/
  sources : List Octets
  /-- Where they go. -/
  target : Octets
  /-- Whether they go into it. -/
  into : Bool

/-- Whether a path leads to a directory. -/
def leadsToDirectory (p : Octets) : Work Bool := do
  match ← Work.stat p with
  | .ok (_, .dir _) => return true
  | _ => return false

/-- Find out where files go, and go on with it. -/
def transfer (name : Octets) (gs : List GivenOption) (ops : List Octets)
    (go : Transfer → Work Unit) : Work Unit := do
  let why (p : Octets) : Work Octets := do
    match ← Work.stat p with
    | .error e => return reason e
    | .ok _ => return reason .notDirectory
  match argumentOf? gs 't', ops with
  | _, [] => misused name "missing file operand".toList
  | some dir, sources =>
      if ← leadsToDirectory dir then go ⟨sources, dir, true⟩
      else
        Work.refuse name ("target directory ".toList ++ quoted dir ++ ": ".toList ++ (← why dir))
  | none, [p] => misused name ("missing destination file operand after ".toList ++ quoted p)
  | none, ops =>
      let target := ops.getLastD []
      if given gs 'T' then
        match ops with
        | [a, b] => go ⟨[a], b, false⟩
        | _ => misused name ("extra operand ".toList ++ quoted ((ops.drop 2).headD []))
      else if ← leadsToDirectory target then go ⟨ops.dropLast, target, true⟩
      else if ops.length > 2 then
        Work.refuse name ("target ".toList ++ quoted target ++ ": ".toList ++ (← why target))
      else go ⟨ops.dropLast, target, false⟩

/-- Where one file goes. -/
def Transfer.place (t : Transfer) (source : Octets) : Octets :=
  if t.into then inDirectory t.target (lastName source) else t.target

/-- Whether a place is another one or lies below it. -/
def isWithin (inner outer : List Text) : Bool := outer.isPrefixOf inner

/-- How files are copied. -/
structure Copying where
  /-- How the utility was called. -/
  name : Octets
  /-- Whether directories are copied. -/
  deep : Bool
  /-- Whether files that are there stay. -/
  keeps : Bool
  /-- Whether every copy is told. -/
  verbose : Bool

/-- Tell of a copy. -/
def Copying.tell (c : Copying) (source target : Octets) : Work Unit :=
  if c.verbose then Work.writeLine (quoted source ++ " -> ".toList ++ quoted target) else pure ()

/-- Copy a file. -/
def Copying.file (c : Copying) (source target : Octets) (spot : Spot) (content : Bytes)
    (mode : FileMode) : Work Unit := do
  let mode := if mode = .sink then .data else mode
  match ← Work.stat target with
  | .ok (_, .dir _) =>
      Work.refuse c.name ("cannot overwrite directory ".toList ++ quoted target ++
        " with non-directory".toList)
  | .ok (there, .file _ old) =>
      if there.place = spot.place then
        Work.refuse c.name (quoted source ++ " and ".toList ++ quoted target ++
          " are the same file".toList)
      else if c.keeps then pure ()
      else
        putAt there.place (.file (old.kept content) old)
        c.tell source target
  | .error e =>
      let refuse (e : Errno) : Work Unit :=
        Work.refuse c.name ("cannot create regular file ".toList ++ quoted target ++ ": ".toList ++
          reason e)
      if e = .noEntry then
        let d ← get
        match d.tree.filePlace d.cwd (Octets.toText target) with
        | .ok place =>
            putAt place (.file content mode)
            c.tell source target
        | .error e => refuse (if e = .isDirectory then .notDirectory else e)
      else
        Work.refuse c.name ("cannot stat ".toList ++ quoted target ++ ": ".toList ++ reason e)

/-- Copy an entry with all below it. -/
def Copying.entry (c : Copying) : Nat → Octets → Octets → Spot → Entry → Work Unit
  | 0, _, _, _, _ => pure ()
  | _, source, target, spot, .file content mode => c.file source target spot content mode
  | n + 1, source, target, spot, .dir inner => do
      let below : Work Unit := do
        match ← Work.stat target with
        | .ok (there, .dir _) =>
            if isWithin there.place spot.place then
              if there.place = spot.place then pure ()
              else
                Work.refuse c.name ("cannot copy a directory, ".toList ++ quoted source ++
                  ", into itself, ".toList ++ quoted target)
        | _ => pure ()
        (Listing.sortByName inner.entries).forM fun e => do
          let child := Octets.ofText e.1
          c.entry n (inDirectory source child) (inDirectory target child)
            ⟨spot.place ++ [e.1], spot.lost⟩ e.2
      match ← Work.stat target with
      | .ok (_, .dir _) => below
      | .ok (_, .file ..) =>
          Work.refuse c.name ("cannot overwrite non-directory ".toList ++ quoted target ++
            " with directory ".toList ++ quoted source)
      | .error .noEntry =>
          match ← makeDirectory target with
          | .ok () =>
              c.tell source target
              below
          | .error e =>
              Work.refuse c.name ("cannot create directory ".toList ++ quoted target ++
                ": ".toList ++ reason e)
      | .error e =>
          Work.refuse c.name ("cannot stat ".toList ++ quoted target ++ ": ".toList ++ reason e)

/-- The options of copying. -/
def copyOptions : Options :=
  Options.of "abdfiHlLnPpRrsS:Tt:uvxZ"
    [("archive", 'a', .none), ("force", 'f', .none), ("interactive", 'i', .none),
      ("link", 'l', .none), ("dereference", 'L', .none), ("no-clobber", 'n', .none),
      ("no-dereference", 'P', .none), ("preserve", 'p', .maybe), ("parents", '1', .none),
      ("recursive", 'R', .none), ("symbolic-link", 's', .none), ("suffix", 'S', .one),
      ("target-directory", 't', .one), ("no-target-directory", 'T', .none), ("update", 'u', .maybe),
      ("verbose", 'v', .none), ("one-file-system", 'x', .none),
      ("strip-trailing-slashes", '2', .none), ("remove-destination", '3', .none)]

/-- Copy files. -/
def cp : Tool := fun name args =>
  copyOptions.handle name args fun gs ops =>
    transfer name gs ops fun t => do
      let c : Copying :=
        { name, deep := givenAny gs "arR", keeps := given gs 'n', verbose := given gs 'v' }
      let mut made : List (List Text) := []
      for source in t.sources do
        match ← Work.stat source with
        | .error e =>
            Work.refuse name ("cannot stat ".toList ++ quoted source ++ ": ".toList ++ reason e)
        | .ok (spot, entry) =>
            if entry.isDir && !c.deep then
              Work.refuse name ("-r not specified; omitting directory ".toList ++ quoted source)
            else
              let target :=
                if given gs '1' then inDirectory t.target (withoutSlashes source)
                else t.place source
              if given gs '1' then
                let _ ← makeAncestors false name (ancestors [] target)
              let there ← Work.stat target
              let again := match there with
                | .ok (s, .file ..) => made.contains s.place
                | _ => false
              if again then
                Work.refuse name ("will not overwrite just-created ".toList ++ quoted target ++
                  " with ".toList ++ quoted source)
              else
                c.entry 1000 source target spot entry
                match ← Work.stat target with
                | .ok (s, .file ..) => made := s.place :: made
                | _ => pure ()

/-- Move one file. -/
def moveOne (name : Octets) (keeps verbose : Bool) (source target : Octets) : Work Unit := do
  let refuse (t : Octets) : Work Unit := Work.refuse name t
  let cannotMove (e : Errno) : Work Unit :=
    refuse ("cannot move ".toList ++ quoted source ++ " to ".toList ++ quoted target ++
      ": ".toList ++ reason e)
  match ← Work.stat source with
  | .error e => refuse ("cannot stat ".toList ++ quoted source ++ ": ".toList ++ reason e)
  | .ok (spot, entry) =>
      let finish (place : List Text) : Work Unit := do
        if entry.isDir && isWithin place spot.place then
          refuse ("cannot move ".toList ++ quoted source ++ " to a subdirectory of itself, ".toList ++
            quoted target)
        else
          removeAt spot.place
          putAt place entry
          if verbose then
            Work.writeLine ("renamed ".toList ++ quoted source ++ " -> ".toList ++ quoted target)
      match ← Work.stat target with
      | .ok (there, old) =>
          if there.place = spot.place then
            refuse (quoted source ++ " and ".toList ++ quoted target ++ " are the same file".toList)
          else if keeps then pure ()
          else
            match entry, old with
            | .file .., .dir _ =>
                refuse ("cannot overwrite directory ".toList ++ quoted target ++
                  " with non-directory".toList)
            | .dir _, .file .. =>
                refuse ("cannot overwrite non-directory ".toList ++ quoted target ++
                  " with directory ".toList ++ quoted source)
            | .dir _, .dir inner =>
                if isWithin there.place spot.place then finish there.place
                else if inner ≠ .nil then cannotMove .notEmpty
                else finish there.place
            | .file .., .file .. => finish there.place
      | .error .noEntry =>
          let d ← get
          let raw := Octets.toText (if entry.isDir then withoutSlashes target else target)
          match d.tree.filePlace d.cwd raw with
          | .ok place => finish place
          | .error e => cannotMove (if e = .isDirectory then .notDirectory else e)
      | .error e => refuse ("cannot stat ".toList ++ quoted target ++ ": ".toList ++ reason e)

/-- Move files. -/
def mv : Tool := fun name args =>
  (Options.of "bfinS:Tt:uvZ" [("force", 'f', .none), ("interactive", 'i', .none),
      ("no-clobber", 'n', .none), ("target-directory", 't', .one),
      ("no-target-directory", 'T', .none), ("update", 'u', .maybe), ("verbose", 'v', .none),
      ("suffix", 'S', .one), ("strip-trailing-slashes", '2', .none)]).handle name args fun gs ops =>
    transfer name gs ops fun t =>
      t.sources.forM fun source =>
        moveOne name (given gs 'n') (given gs 'v') source (t.place source)

/-- The path of a link's source, seen from where the link is. -/
def linkSource (source target : Octets) : Octets :=
  if source.head? = some '/' then source
  else (target.reverse.dropWhile (· ≠ '/')).reverse ++ source

/-- Give a file a second name.  Both names then stand for the same bytes, which are copied; a
symbolic link is a copy of what it leads to at that time. -/
def ln : Tool := fun name args =>
  (Options.of "fisnvTt:r" [("force", 'f', .none), ("symbolic", 's', .none),
      ("verbose", 'v', .none), ("no-target-directory", 'T', .none),
      ("target-directory", 't', .one)]).handle name args fun gs ops =>
    transfer name gs (if ops.length = 1 then ops ++ [['.']] else ops) fun t =>
      t.sources.forM fun source => do
        let target := t.place source
        let symbolic := given gs 's'
        let arrow := if symbolic then " -> ".toList else " => ".toList
        let refuse (e : Errno) : Work Unit :=
          Work.refuse name
            ((if symbolic then "failed to create symbolic link " else "failed to create hard link ").toList
              ++ quoted target ++
              (if e = .alreadyExists || symbolic then [] else arrow ++ quoted source) ++
              ": ".toList ++ reason e)
        let put (entry : Option Entry) : Work Unit := do
          let d ← get
          match d.tree.filePlace d.cwd (Octets.toText target) with
          | .error .isDirectory => refuse .alreadyExists
          | .error e => refuse e
          | .ok place =>
              if d.tree.hasFile place && !given gs 'f' then refuse .alreadyExists
              else
                entry.forM (putAt place)
                if given gs 'v' then Work.writeLine (quoted target ++ arrow ++ quoted source)
        if symbolic then
          match ← Work.stat (linkSource source target) with
          | .error _ => put none
          | .ok (_, entry) => put (some entry)
        else
          match ← Work.stat source with
          | .error e =>
              Work.refuse name
                ("failed to access ".toList ++ quoted source ++ ": ".toList ++ reason e)
          | .ok (_, .dir _) =>
              Work.refuse name (source ++ ": hard link not allowed for directory".toList)
          | .ok (_, entry) => put (some entry)

end Utility
end AmbientBundle
