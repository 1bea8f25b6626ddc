import AmbientBundle.Utf8

/-!
# File trees

A *folder* is a list of named entries, each a file with its bytes or a folder again.  A file may
be a program, or a device that keeps nothing.  The whole file system is the folder at the root,
and a place in it is the list of names that leads there.

The order of the entries is the order in which they are enumerated, and no
operation promises anything about it.  `find?` is the view of a folder: `insert`
and `erase` are described by what is found afterwards, under the same name and
under every other.  `get?`, `put` and `remove` do the same along a list of names.
-/

namespace AmbientBundle

/-- What a file is good for. -/
inductive FileMode where
  /-- It keeps its bytes. -/
  | data
  /-- It keeps its bytes and can be run. -/
  | program
  /-- It is a device that swallows all bytes and never has any. -/
  | sink
  deriving DecidableEq, Repr

/-- What a file keeps of the bytes that are written to it. -/
def FileMode.kept : FileMode → Bytes → Bytes
  | .sink, _ => []
  | _, content => content

/-- The entries of a directory. -/
inductive Folder where
  /-- No entries. -/
  | nil
  /-- A file and the other entries. -/
  | file (name : Text) (content : Bytes) (mode : FileMode) (rest : Folder)
  /-- A directory and the other entries. -/
  | dir (name : Text) (inner : Folder) (rest : Folder)
  deriving DecidableEq, Repr

/-- What a name can stand for. -/
inductive Entry where
  /-- A file. -/
  | file (content : Bytes) (mode : FileMode := .data)
  /-- A directory. -/
  | dir (inner : Folder)
  deriving DecidableEq, Repr

/-- Whether an entry is a directory. -/
def Entry.isDir : Entry → Bool
  | .dir _ => true
  | .file .. => false

namespace Folder

/-! ## Names in one folder -/

/-- The entry under a name. -/
def find? : Folder → Text → Option Entry
  | .nil, _ => none
  | .file n c x rest, name => if n = name then some (.file c x) else rest.find? name
  | .dir n inner rest, name => if n = name then some (.dir inner) else rest.find? name

/-- The folder without a name. -/
def erase : Folder → Text → Folder
  | .nil, _ => .nil
  | .file n c x rest, name => if n = name then rest.erase name else .file n c x (rest.erase name)
  | .dir n inner rest, name =>
      if n = name then rest.erase name else .dir n inner (rest.erase name)

/-- Put an entry in front of the others. -/
def cons (name : Text) : Entry → Folder → Folder
  | .file c x, rest => .file name c x rest
  | .dir inner, rest => .dir name inner rest

/-- Set the entry under a name. -/
def insert (f : Folder) (name : Text) (e : Entry) : Folder := cons name e (f.erase name)

/-- The named entries, as they are enumerated. -/
def entries : Folder → List (Text × Entry)
  | .nil => []
  | .file n c x rest => (n, .file c x) :: rest.entries
  | .dir n inner rest => (n, .dir inner) :: rest.entries

theorem find?_erase_self (f : Folder) (name : Text) : (f.erase name).find? name = none := by
  induction f with
  | nil => rfl
  | file n c x rest ih =>
    rw [erase]
    split
    · exact ih
    · next h => rw [find?, if_neg h, ih]
  | dir n inner rest _ ih =>
    rw [erase]
    split
    · exact ih
    · next h => rw [find?, if_neg h, ih]

theorem find?_erase_of_ne (f : Folder) {name other : Text} (h : other ≠ name) :
    (f.erase name).find? other = f.find? other := by
  induction f with
  | nil => rfl
  | file n c x rest ih =>
    rw [erase]
    split
    · next hn =>
      subst hn
      rw [ih, find?, if_neg (Ne.symm h)]
    · rw [find?, find?, ih]
  | dir n inner rest _ ih =>
    rw [erase]
    split
    · next hn =>
      subst hn
      rw [ih, find?, if_neg (Ne.symm h)]
    · rw [find?, find?, ih]

@[simp] theorem find?_insert_self (f : Folder) (name : Text) (e : Entry) :
    (f.insert name e).find? name = some e := by
  cases e <;> simp [insert, cons, find?]

theorem find?_insert_of_ne (f : Folder) {name other : Text} (e : Entry) (h : other ≠ name) :
    (f.insert name e).find? other = f.find? other := by
  cases e <;> simp [insert, cons, find?, Ne.symm h, find?_erase_of_ne f h]

/-! ## Names along a path -/

/-- The entry a list of names leads to. -/
def get? (f : Folder) : List Text → Option Entry
  | [] => some (.dir f)
  | n :: ns =>
      match f.find? n with
      | none => none
      | some (.file c x) => if ns = [] then some (.file c x) else none
      | some (.dir inner) => inner.get? ns

/-- Set the entry a list of names leads to; nothing happens where a directory is missing on
the way. -/
def put (f : Folder) : List Text → Entry → Folder
  | [], _ => f
  | [n], e => f.insert n e
  | n :: m :: ns, e =>
      match f.find? n with
      | some (.dir inner) => f.insert n (.dir (inner.put (m :: ns) e))
      | _ => f

/-- Remove the entry a list of names leads to, with everything below it. -/
def remove (f : Folder) : List Text → Folder
  | [] => f
  | [n] => f.erase n
  | n :: m :: ns =>
      match f.find? n with
      | some (.dir inner) => f.insert n (.dir (inner.remove (m :: ns)))
      | _ => f

/-- Whether a list of names leads to a directory. -/
def hasDir (f : Folder) (ns : List Text) : Bool :=
  match f.get? ns with
  | some (.dir _) => true
  | _ => false

/-- Whether a list of names leads to a file. -/
def hasFile (f : Folder) (ns : List Text) : Bool :=
  match f.get? ns with
  | some (.file ..) => true
  | _ => false

end Folder
end AmbientBundle
