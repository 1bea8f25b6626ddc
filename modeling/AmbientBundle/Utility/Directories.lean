import AmbientBundle.Utility.Rows

/-!
# Listing directories

Files come first, then directories with their entries.  Names that start with a dot are
shown only if that is wanted.
-/

namespace AmbientBundle
namespace Utility

/-- How names are listed. -/
structure ListManner where
  /-- Whether names with a dot at the front are shown. -/
  hidden : Bool
  /-- Whether the directory itself and the one above are shown. -/
  both : Bool
  /-- What shows the kind of a file: nothing, slashes or all signs. -/
  signs : Char
  /-- Whether names stand in quotes. -/
  quoted : Bool
  /-- Whether names are joined: by nothing, by commas or in columns. -/
  joined : Char
  /-- Whether the order is turned around. -/
  reversed : Bool
  /-- Whether the largest comes first. -/
  bySize : Bool
  /-- Whether the order is left as it is. -/
  unsorted : Bool
  /-- Whether all is listed below directories. -/
  deep : Bool
  /-- Whether the kind, the size and the like are shown. -/
  long : Bool

/-- The bytes of an entry. -/
def entrySize : Entry → Nat
  | .file c _ => c.length
  | .dir _ => 4096

/-- The sign of a kind of file. -/
def ListManner.sign (m : ListManner) : Entry → Octets
  | .dir _ => if m.signs = ' ' then [] else ['/']
  | .file _ .program => if m.signs = 'F' then ['*'] else []
  | _ => []

/-- A name as it is listed. -/
def ListManner.shown (m : ListManner) (name : Octets) (e : Entry) : Octets :=
  let body := if m.quoted then
    '"' :: name.flatMap (fun c => if c = '"' || c = '\\' then ['\\', c] else [c]) ++ ['"'] else name
  body ++ m.sign e

/-- Entries in the order they are listed. -/
def ListManner.order (m : ListManner) (es : List (Octets × Entry)) : List (Octets × Entry) :=
  let byName := if m.unsorted then es else es.mergeSort fun a b => compareBytes a.1 b.1 ≠ .gt
  let sorted := if m.bySize then byName.mergeSort fun a b => entrySize b.2 ≤ entrySize a.2 else byName
  if m.reversed then sorted.reverse else sorted

/-- The front of a long line. -/
def longFront (e : Entry) : Octets :=
  let mode := match e with
    | .dir _ => "drwxr-xr-x 2"
    | .file _ .program => "-rwxr-xr-x 1"
    | _ => "-rw-r--r-- 1"
  mode.toList ++ " root root ".toList ++ Octets.ofNat (entrySize e) ++ " Jan  1 00:00 ".toList

/-- A list of entries. -/
def ListManner.rows (m : ListManner) (es : List (Octets × Entry)) : Octets :=
  let names := es.map fun (n, e) => (if m.long then longFront e else []) ++ m.shown n e
  if names.isEmpty then []
  else
    match m.joined with
    | ',' => List.intercalate [',', ' '] names ++ ['\n']
    | 'C' => List.intercalate [' ', ' '] names ++ ['\n']
    | _ => Octets.unlines names

/-- The entries of a directory that are shown. -/
def ListManner.inside (m : ListManner) (inner : Folder) : List (Octets × Entry) :=
  let all := inner.entries.map fun e => (Octets.ofText e.1, e.2)
  let seen := all.filter fun e => m.hidden || e.1.head? ≠ some '.'
  m.order (if m.both then (['.'], .dir inner) :: (['.', '.'], .dir .nil) :: seen else seen)

/-- Directories below a directory, with their paths. -/
def ListManner.below (m : ListManner) (p : Octets) : Nat → Folder → List (Octets × Folder)
  | 0, _ => []
  | n + 1, inner =>
      (p, inner) :: (m.inside inner).flatMap fun (name, e) =>
        match e with
        | .dir deeper =>
            if name = ['.'] || name = ['.', '.'] then [] else m.below (inDirectory p name) n deeper
        | .file .. => []

/-- Directories one after the other, with titles if there are several. -/
def ListManner.sections (m : ListManner) (titled : Bool) :
    Bool → List (Octets × Folder) → Octets
  | _, [] => []
  | first, (p, inner) :: rest =>
      let title := if titled then p ++ [':', '\n'] else []
      let total := if m.long then "total 0\n".toList else []
      (if first then [] else ['\n']) ++ title ++ total ++ m.rows (m.inside inner) ++
        m.sections titled false rest

/-- List files and directories. -/
def ls : Tool := fun name args =>
  (Options.of "1aAbBcCdfFgGhHiI:klLmnNopqQrRsStT:uUvw:xXZ"
      [("all", 'a', .none), ("almost-all", 'A', .none), ("directory", 'd', .none),
        ("classify", 'F', .maybe), ("recursive", 'R', .none), ("reverse", 'r', .none),
        ("quote-name", 'Q', .none), ("size", 's', .none), ("human-readable", 'h', .none),
        ("color", '2', .maybe), ("sort", '3', .one), ("format", '4', .one), ("ignore", 'I', .one),
        ("indicator-style", '5', .one), ("group-directories-first", '6', .none)]).handle name args
    (fun gs ops => do
      let m : ListManner :=
        { hidden := givenAny gs "aAf", both := givenAny gs "af"
          signs := (lastOf? gs "Fp").getD ' ', quoted := given gs 'Q'
          joined := match lastOf? gs "1mCxl" with
            | some 'm' => ','
            | some 'C' => 'C'
            | some 'x' => 'C'
            | _ => ' '
          reversed := given gs 'r', bySize := given gs 'S', unsorted := givenAny gs "Uf"
          deep := given gs 'R', long := givenAny gs "lgno" }
      let mut files : List (Octets × Entry) := []
      let mut dirs : List (Octets × Folder) := []
      let paths := if ops.isEmpty then [['.']] else ops
      for p in paths do
        match ← Work.stat p with
        | .error e =>
            Work.refuse name ("cannot access ".toList ++ quoted p ++ ": ".toList ++ reason e) 2
        | .ok (_, .file c mode) => files := (p, .file c mode) :: files
        | .ok (_, .dir inner) =>
            if given gs 'd' then files := (p, .dir inner) :: files
            else dirs := (p, inner) :: dirs
      let listed := m.order files.reverse
      let order := (m.order (dirs.reverse.map fun (p, f) => (p, Entry.dir f))).filterMap fun (p, e) =>
        match e with
        | .dir f => some (p, f)
        | .file .. => none
      Work.write (m.rows listed)
      let all := if m.deep then order.flatMap fun (p, f) => m.below p 1000 f else order
      let titled := paths.length > 1 || m.deep
      Work.write (m.sections titled listed.isEmpty all))
    2

end Utility
end AmbientBundle
