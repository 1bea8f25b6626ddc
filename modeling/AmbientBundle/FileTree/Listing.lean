import AmbientBundle.FileTree.Access

/-!
# Listing a file tree

The files below a directory, each with its path and bytes.  The entries of a
directory are taken in the order of their names, code point by code point, and a
subdirectory is expanded in its place.  An entry whose path has too many bytes
ends the walk, since nothing can be asked about it.

The walk keeps a list of the entries still to be seen.  Expanding a directory
replaces it by its entries in order, and since those are fewer nodes than the
directory was, the walk ends.
-/

namespace AmbientBundle

/-- Whether a text comes before another or is the same, code point by code point. -/
def Text.le : Text → Text → Bool
  | [], _ => true
  | _ :: _, [] => false
  | a :: as, b :: bs => if a = b then Text.le as bs else a.toNat < b.toNat

/-- A file found below a directory. -/
structure FoundFile where
  /-- The path it was found at. -/
  path : Path
  /-- Its bytes. -/
  content : Bytes
  deriving DecidableEq, Repr

/-- The number of nodes of a folder. -/
def Folder.size : Folder → Nat
  | .nil => 0
  | .file _ _ _ rest => rest.size + 1
  | .dir _ inner rest => inner.size + rest.size + 1

/-- The number of nodes of an entry. -/
def Entry.size : Entry → Nat
  | .file .. => 1
  | .dir inner => inner.size + 1

namespace Listing

/-- Put a named entry into a list in the order of the names. -/
def insertByName (e : Text × Entry) : List (Text × Entry) → List (Text × Entry)
  | [] => [e]
  | d :: rest => if Text.le e.1 d.1 then e :: d :: rest else d :: insertByName e rest

/-- Named entries in the order of their names. -/
def sortByName : List (Text × Entry) → List (Text × Entry)
  | [] => []
  | e :: rest => insertByName e (sortByName rest)

/-- The nodes of a list of entries. -/
def totalSize {α : Type} : List (α × Entry) → Nat
  | [] => 0
  | e :: es => e.2.size + totalSize es

theorem totalSize_append {α : Type} (es fs : List (α × Entry)) :
    totalSize (es ++ fs) = totalSize es + totalSize fs := by
  induction es with
  | nil => simp [totalSize]
  | cons e es ih =>
    simp only [List.cons_append, totalSize, ih]
    omega

theorem totalSize_map {α β : Type} (f : α → β) (es : List (α × Entry)) :
    totalSize (es.map fun e => (f e.1, e.2)) = totalSize es := by
  induction es with
  | nil => rfl
  | cons e es ih => simp only [List.map_cons, totalSize, ih]

theorem totalSize_insertByName (e : Text × Entry) (es : List (Text × Entry)) :
    totalSize (insertByName e es) = e.2.size + totalSize es := by
  induction es with
  | nil => simp [insertByName, totalSize]
  | cons d rest ih =>
    rw [insertByName]
    split
    · simp [totalSize]
    · simp only [totalSize] at ih ⊢
      omega

theorem totalSize_sortByName (es : List (Text × Entry)) :
    totalSize (sortByName es) = totalSize es := by
  induction es with
  | nil => rfl
  | cons e rest ih =>
    rw [sortByName, totalSize_insertByName, ih]
    simp [totalSize]

theorem totalSize_entries (f : Folder) : totalSize f.entries = f.size := by
  induction f with
  | nil => rfl
  | file n c x rest ih =>
    simp only [totalSize, Folder.entries, Folder.size, Entry.size] at ih ⊢
    omega
  | dir n inner rest _ ih =>
    simp only [totalSize, Folder.entries, Folder.size, Entry.size] at ih ⊢
    omega

/-- The entries of a directory at a path, in order. -/
def children (p : Path) (f : Folder) : List (Path × Entry) :=
  (sortByName f.entries).map fun e => (p.child e.1, e.2)

theorem totalSize_children (p : Path) (f : Folder) : totalSize (children p f) = f.size := by
  rw [children, totalSize_map p.child, totalSize_sortByName, totalSize_entries]

/-- The files of the entries still to be seen. -/
def collect : List (Path × Entry) → Except OsFault (List FoundFile)
  | [] => .ok []
  | (p, .file c _) :: rest =>
      if p.isTooLong then .error (.about .nameTooLong p)
      else (collect rest).map (⟨p, c⟩ :: ·)
  | (p, .dir inner) :: rest =>
      if p.isTooLong then .error (.about .nameTooLong p)
      else collect (children p inner ++ rest)
termination_by es => totalSize es
decreasing_by
  · simp [totalSize, Entry.size]
  · rw [totalSize_append, totalSize_children, totalSize, Entry.size]
    omega

/-- The files below a directory. -/
def files (root : Folder) (cwd : Spot) (p : Path) : Except OsFault (List FoundFile) :=
  match root.readDir cwd p with
  | .error e => .error e
  | .ok inner => collect (children p inner)

end Listing
end AmbientBundle
