import AmbientBundle.FileTree.Access

/-!
# Trees that are too deep

Directories are removed and made by recursion, one call for each level, and recursion has a limit.

Removing a directory goes through its entries in their order, and through those of a directory
before the next one.  It stops at the first entry that lies too deep, and what came before is gone
by then: `strip` gives what is left.

Making a directory asks for the one above it as long as that is missing, before anything is made.
So nothing has changed where too many are missing; `climb` counts them.
-/

namespace AmbientBundle
namespace Folder

/-! ## Removing -/

/-- How deep the deepest entry lies. -/
def depth : Folder → Nat
  | .nil => 0
  | .file _ _ _ rest => max 1 rest.depth
  | .dir _ inner rest => max (inner.depth + 1) rest.depth

/-- Remove entry after entry, and stop at the first that lies deeper than there is room. -/
def strip : Nat → Folder → Folder
  | _, .nil => .nil
  | 0, f => f
  | room + 1, .file _ _ _ rest => strip (room + 1) rest
  | room + 1, .dir name inner rest =>
      match strip room inner with
      | .nil => strip (room + 1) rest
      | left => .dir name left rest

/-- The tree that is left if removing a directory stops before it is done. -/
def stuck? (room : Nat) (root : Folder) (cwd : Spot) (p : Path) : Option Folder :=
  match root.stat cwd p with
  | .ok (s, .dir inner) =>
      if inner.depth ≤ room then none
      else
        some (if s.place = [] then inner.strip room
          else root.put s.place (.dir (inner.strip room)))
  | _ => none

/-! ## Making -/

/-- How many directories are missing above the one whose parts are given innermost first. -/
def climbFrom (root : Folder) (cwd : Spot) (anchor : Anchor) : List Text → Nat
  | [] => 0
  | last :: up =>
      match root.makeDir cwd ⟨anchor, (last :: up).reverse⟩ with
      | .error .noEntry => root.climbFrom cwd anchor up + 1
      | _ => 0

/-- How many directories are missing above a path. -/
def climb (root : Folder) (cwd : Spot) (p : Path) : Nat :=
  root.climbFrom cwd p.anchor p.parts.reverse

end Folder
end AmbientBundle
