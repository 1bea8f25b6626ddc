import AmbientBundle.FileTree

/-!
# Changes of a file tree

A run works on a copy of the file tree.  What it did is the list of changes that lead
from the tree before to the tree after: first what has gone, then what is new or
different, a directory before what lies in it.
-/

namespace AmbientBundle

/-- One change of a file tree. -/
inductive Change where
  /-- An entry has gone, with everything below it. -/
  | remove (place : List Text) (wasDir : Bool)
  /-- A directory is new. -/
  | makeDir (place : List Text)
  /-- A file is new or has a new content. -/
  | write (place : List Text) (content : Bytes)
  deriving DecidableEq, Repr

namespace Folder

/-- What has gone from the entries of a folder at a place. -/
def losses (place : List Text) (after : Folder) : Folder → List Change
  | .nil => []
  | .file n _ _ rest =>
      (match after.find? n with
        | some (.file ..) => []
        | _ => [.remove (place ++ [n]) false]) ++ losses place after rest
  | .dir n inner rest =>
      (match after.find? n with
        | some (.dir kept) => losses (place ++ [n]) kept inner
        | _ => [.remove (place ++ [n]) true]) ++ losses place after rest

/-- What is new or different among the entries of a folder at a place. -/
def gains (place : List Text) (before : Folder) : Folder → List Change
  | .nil => []
  | .file n content _ rest =>
      (match before.find? n with
        | some (.file old _) => if old = content then [] else [.write (place ++ [n]) content]
        | _ => [.write (place ++ [n]) content]) ++ gains place before rest
  | .dir n inner rest =>
      (match before.find? n with
        | some (.dir old) => gains (place ++ [n]) old inner
        | _ => .makeDir (place ++ [n]) :: gains (place ++ [n]) .nil inner) ++
        gains place before rest

/-- The changes that lead from one tree to another. -/
def changes (before after : Folder) : List Change := losses [] after before ++ gains [] before after

end Folder
end AmbientBundle
