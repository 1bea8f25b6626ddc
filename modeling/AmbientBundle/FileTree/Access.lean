import AmbientBundle.FileTree
import AmbientBundle.Path
import AmbientBundle.Text.Quoted

/-!
# Access to a file tree

A path is followed through the tree one part at a time: every part but the last
has to be a directory that is there, and `..` leads to the directory above.  The
operations below fail as the file system does, with a reason and the path that
was asked for.  Names and paths may not be too long.

A relative path starts at a *spot*, the directory that someone is in.  That directory
can be removed while it is held: then it is empty, nothing can be put into it, and
`..` still leads out of it, even if something else has taken its place.

`makeDirs` makes a directory together with those above it that are missing, and is
content if it is there already.  `removeTree` removes a directory with everything
below it.  Both give the tree as they left it also where they fail, since part of
the work may have been done.  For a path without `..` a failure changes nothing.
-/

namespace AmbientBundle

/-- Why the file system refused. -/
inductive Errno where
  /-- Nothing is there. -/
  | noEntry
  /-- Something is there already. -/
  | alreadyExists
  /-- A file stands where a directory is needed. -/
  | notDirectory
  /-- A directory stands where a file is needed. -/
  | isDirectory
  /-- The name cannot be used for this. -/
  | invalid
  /-- The directory still has entries. -/
  | notEmpty
  /-- The directory is in use. -/
  | busy
  /-- The file may not be run. -/
  | denied
  /-- The file is no program. -/
  | notProgram
  /-- A name or a path has too many bytes. -/
  | nameTooLong
  deriving DecidableEq, Repr

/-- The number of a reason. -/
def Errno.code : Errno → Nat
  | .noEntry => 2
  | .alreadyExists => 17
  | .notDirectory => 20
  | .isDirectory => 21
  | .invalid => 22
  | .notEmpty => 39
  | .busy => 16
  | .denied => 13
  | .notProgram => 8
  | .nameTooLong => 36

/-- The wording of a reason. -/
def Errno.text : Errno → String
  | .noEntry => "No such file or directory"
  | .alreadyExists => "File exists"
  | .notDirectory => "Not a directory"
  | .isDirectory => "Is a directory"
  | .invalid => "Invalid argument"
  | .notEmpty => "Directory not empty"
  | .busy => "Device or resource busy"
  | .denied => "Permission denied"
  | .notProgram => "Exec format error"
  | .nameTooLong => "File name too long"

/-- The kind of error a reason is reported as. -/
def Errno.kind : Errno → String
  | .noEntry => "FileNotFoundError"
  | .alreadyExists => "FileExistsError"
  | .notDirectory => "NotADirectoryError"
  | .isDirectory => "IsADirectoryError"
  | .denied => "PermissionError"
  | _ => "OSError"

/-- A refusal: the reason and the path that was asked for. -/
structure OsFault where
  /-- The reason. -/
  errno : Errno
  /-- The path, as it was given; the working directory itself has none. -/
  path : Option Text
  /-- Whether the place had been opened before the refusal, which shows in the message. -/
  opened : Bool := false
  deriving DecidableEq, Repr

/-- A refusal of a path. -/
def OsFault.about (e : Errno) (p : Path) : OsFault := ⟨e, some p.toText, false⟩

/-- The refusal to name a working directory that has been removed. -/
def OsFault.adrift : OsFault := ⟨.noEntry, none, false⟩

/-- The message of a refusal. -/
def OsFault.message (e : OsFault) : String :=
  let shown :=
    match e.path with
    | none => ""
    | some p =>
        let quoted := Text.toString (Text.quote p)
        ": " ++ (if e.opened then "PosixPath(" ++ quoted ++ ")" else quoted)
  "[Errno " ++ toString e.errno.code ++ "] " ++ e.errno.text ++ shown

/-- A refusal in brief, without its path. -/
def OsFault.brief (e : OsFault) : String :=
  e.errno.kind ++ "(" ++ toString e.errno.code ++ ", '" ++ e.errno.text ++ "')"

/-! ## Limits -/

/-- The bytes that a name may have. -/
def nameLimit : Nat := 255

/-- The bytes that a path may have. -/
def pathLimit : Nat := 4095

/-- Whether a path has too many bytes. -/
def Path.isTooLong (p : Path) : Bool := pathLimit < Utf8.size p.toText

/-! ## Spots -/

/-- A directory or a file that someone holds. -/
structure Spot where
  /-- The names that lead to it, or led to it. -/
  place : List Text
  /-- How many of the last names have gone since. -/
  lost : Nat := 0
  deriving DecidableEq, Repr

/-- The directory above. -/
def Spot.up (s : Spot) : Spot := ⟨s.place.dropLast, s.lost - 1⟩

namespace Folder

/-- How many of the last names of a place lead nowhere. -/
def missing (f : Folder) : List Text → Nat
  | [] => 0
  | n :: ns =>
      match f.find? n with
      | some (.dir inner) => inner.missing ns
      | _ => ns.length + 1

/-- The entry at a spot.  A directory that has been removed is empty. -/
def entryAt (root : Folder) (s : Spot) : Option Entry :=
  if s.lost = 0 then root.get? s.place else some (.dir .nil)

/-! ## Following a path -/

/-- Follow a name from a directory. -/
def enter (s : Spot) (name : Text) : Except Errno Spot :=
  if s.lost ≠ 0 then .error .noEntry
  else if nameLimit < Utf8.size name then .error .nameTooLong
  else .ok ⟨s.place ++ [name], 0⟩

/-- Follow parts from a spot.  Each part is looked up in a directory that is there. -/
def walk (root : Folder) (s : Spot) : List Text → Except Errno Spot
  | [] => .ok s
  | p :: ps =>
      match root.entryAt s with
      | none => .error .noEntry
      | some (.file ..) => .error .notDirectory
      | some (.dir _) =>
          if p = [] ∨ p = herePart then walk root s ps
          else if p = upPart then walk root s.up ps
          else
            match enter s p with
            | .error e => .error e
            | .ok t => walk root t ps

/-- Where a path starts, given the working directory. -/
def start (cwd : Spot) (p : Path) : Spot := if p.isAbsolute then ⟨[], 0⟩ else cwd

/-- The entry a path leads to. -/
def stat (root : Folder) (cwd : Spot) (p : Path) : Except Errno (Spot × Entry) :=
  if p.isTooLong then .error .nameTooLong
  else
    match walk root (start cwd p) p.parts with
    | .error e => .error e
    | .ok s =>
        match root.entryAt s with
        | none => .error .noEntry
        | some e => .ok (s, e)

/-- The directory that holds the last part of a path, and the place of that part.  There is no
last part for the root, for the working directory and for a path that ends in `..`. -/
def holder (root : Folder) (cwd : Spot) (p : Path) : Except Errno (Option (List Text)) :=
  if p.isTooLong then .error .nameTooLong
  else
    match p.parts.reverse with
    | [] => .ok none
    | last :: up =>
        match walk root (start cwd p) up.reverse with
        | .error e => .error e
        | .ok s =>
            match root.entryAt s with
            | none => .error .noEntry
            | some (.file ..) => .error .notDirectory
            | some (.dir _) =>
                if last = upPart then .ok none
                else
                  match enter s last with
                  | .error e => .error e
                  | .ok t => .ok (some t.place)

/-- Whether a path leads to a directory. -/
def isDir (root : Folder) (cwd : Spot) (p : Path) : Bool :=
  match stat root cwd p with
  | .ok (_, .dir _) => true
  | _ => false

/-- Whether anything is at a path. -/
def isThere (root : Folder) (cwd : Spot) (p : Path) : Bool :=
  match stat root cwd p with
  | .ok _ => true
  | .error _ => false

/-- The entry a path given as a text leads to.  A slash or a dot at the end asks for a
directory. -/
def statText (root : Folder) (cwd : Spot) (raw : Text) : Except Errno (Spot × Entry) :=
  if raw = [] then .error .noEntry
  else if pathLimit < Utf8.size raw then .error .nameTooLong
  else
    match walk root (start cwd (Path.parse raw)) (Text.splitOn '/' raw) with
    | .error e => .error e
    | .ok s =>
        match root.entryAt s with
        | none => .error .noEntry
        | some e => .ok (s, e)

/-- Whether a path given as a text leads to a file. -/
def isFileText (root : Folder) (cwd : Spot) (raw : Text) : Bool :=
  match statText root cwd raw with
  | .ok (_, .file _ mode) => mode ≠ .sink
  | _ => false

/-- The place of the file that a path given as a text leads to, or would lead to. -/
def filePlace (root : Folder) (cwd : Spot) (raw : Text) : Except Errno (List Text) :=
  match statText root cwd raw with
  | .ok (_, .dir _) => .error .isDirectory
  | .ok (s, .file ..) => .ok s.place
  | .error .noEntry =>
      if raw = [] then .error .noEntry
      else
        match holder root cwd (Path.parse raw) with
        | .error e => .error e
        | .ok none => .error .noEntry
        | .ok (some place) =>
            if raw.getLast? = some '/' then .error .isDirectory
            else if (raw.reverse.takeWhile (· ≠ '/')) = herePart then .error .noEntry
            else .ok place
  | .error e => .error e

/-! ## Files -/

/-- The bytes of a file. -/
def readFile (root : Folder) (cwd : Spot) (p : Path) : Except OsFault Bytes :=
  match stat root cwd p with
  | .error e => .error (.about e p)
  | .ok (_, .dir _) => .error (.about .isDirectory p)
  | .ok (_, .file c _) => .ok c

/-- Set the bytes of a file; a new one is made where there was none. -/
def writeFile (root : Folder) (cwd : Spot) (p : Path) (content : Bytes) : Except OsFault Folder :=
  match holder root cwd p with
  | .error e => .error (.about e p)
  | .ok none => .error (.about .isDirectory p)
  | .ok (some place) =>
      match root.get? place with
      | some (.dir _) => .error (.about .isDirectory p)
      | some (.file _ mode) => .ok (root.put place (.file (mode.kept content) mode))
      | none => .ok (root.put place (.file content))

/-! ## Directories -/

/-- The entries of a directory. -/
def readDir (root : Folder) (cwd : Spot) (p : Path) : Except OsFault Folder :=
  match stat root cwd p with
  | .error e => .error (.about e p)
  | .ok (_, .file ..) => .error (.about .notDirectory p)
  | .ok (_, .dir inner) => .ok inner

/-- Make one directory. -/
def makeDir (root : Folder) (cwd : Spot) (p : Path) : Except Errno Folder :=
  match holder root cwd p with
  | .error e => .error e
  | .ok none => .error .alreadyExists
  | .ok (some place) =>
      match root.get? place with
      | some _ => .error .alreadyExists
      | none => .ok (root.put place (.dir .nil))

/-- Make the directory whose parts are given innermost first, and those above it. -/
def makeDirsFrom (cwd : Spot) (anchor : Anchor) :
    List Text → Folder → Except OsFault Unit × Folder
  | [], root => (.ok (), root)
  | last :: up, root =>
      let p : Path := ⟨anchor, (last :: up).reverse⟩
      match makeDir root cwd p with
      | .ok made => (.ok (), made)
      | .error .noEntry =>
          match makeDirsFrom cwd anchor up root with
          | (.error e, above) => (.error e, above)
          | (.ok (), above) =>
              match makeDir above cwd p with
              | .ok made => (.ok (), made)
              | .error e =>
                  if e ≠ .noEntry && isDir above cwd p then (.ok (), above)
                  else (.error (.about e p), above)
      | .error e =>
          if isDir root cwd p then (.ok (), root) else (.error (.about e p), root)

/-- Make a directory and those above it. -/
def makeDirs (root : Folder) (cwd : Spot) (p : Path) : Except OsFault Unit × Folder :=
  makeDirsFrom cwd p.anchor p.parts.reverse root

/-- A spot with nothing below it any more. -/
def emptied (root : Folder) (s : Spot) : Folder :=
  if s.lost ≠ 0 then root else if s.place = [] then .nil else root.put s.place (.dir .nil)

/-- Remove a directory with everything below it. -/
def removeTree (root : Folder) (cwd : Spot) (p : Path) : Except OsFault Unit × Folder :=
  match stat root cwd p with
  | .error e => (.error (.about e p), root)
  | .ok (_, .file ..) => (.error ⟨.notDirectory, some p.toText, true⟩, root)
  | .ok (s, .dir _) =>
      let left := root.emptied s
      match holder left cwd p with
      | .error e => (.error (.about e p), left)
      | .ok (some place) => (.ok (), left.remove place)
      | .ok none =>
          if p.parts ≠ [] then (.error (.about .notEmpty p), left)
          else if p.isAbsolute then (.error (.about .busy p), left)
          else (.error (.about .invalid p), left)

end Folder
end AmbientBundle
