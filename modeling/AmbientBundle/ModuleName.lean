import AmbientBundle.Declarations
import AmbientBundle.Path

/-!
# Module names

A declaration file becomes the module `<package>/<path>`, where the path leads
from a base directory to the file and has lost its extension and a `.d` before
it.  `Namer` holds the package and the directories; `Naming` says which base is
meant and which of the steps are wanted.

Whether the extension goes depends on whether the path is an existing file.
That question is put to a predicate, so that naming itself reads no files.
-/

namespace AmbientBundle

/-- The directory a name is relative to. -/
inductive Base where
  /-- The package directory. -/
  | root
  /-- The directory the compiler wrote to. -/
  | scratch
  /-- The working directory. -/
  | cwd
  deriving DecidableEq, Repr

/-- How a path is turned into a name. -/
structure Naming where
  /-- The directory the name is relative to. -/
  base : Base := .scratch
  /-- Leave the package out of the name. -/
  noPrefix : Bool := false
  /-- Leave the extension on. -/
  keepExtension : Bool := false
  /-- Take the path for a file without asking. -/
  assumeFile : Bool := false
  deriving DecidableEq, Repr

/-- The names of a package. -/
structure Namer where
  /-- The package. -/
  package : Text
  /-- The package directory, absolute and normal. -/
  root : Path
  /-- The directory the compiler wrote to, absolute and normal. -/
  scratch : Path
  /-- The directory relative specifiers are resolved in, if it is not the working directory. -/
  working : Option Path := none
  /-- The directory relative paths start from. -/
  cwd : Path
  deriving DecidableEq, Repr

/-! ## Extensions -/

/-- Drop the extension: the last dot and what follows it, if that is not empty and holds no
slash. -/
def dropExtension (t : Text) : Text :=
  let r := t.reverse
  match r.takeWhile (fun c => c ≠ '.' && c ≠ '/'), r.dropWhile (fun c => c ≠ '.' && c ≠ '/') with
  | _ :: _, '.' :: front => front.reverse
  | _, _ => t

/-- Drop a `.d` from the end, or from before a last line feed. -/
def dropDeclarationMark (t : Text) : Text :=
  match t.reverse with
  | 'd' :: '.' :: front => front.reverse
  | '\n' :: 'd' :: '.' :: front => ('\n' :: front).reverse
  | _ => t

/-- Backslashes become slashes. -/
def slashed (t : Text) : Text := t.map fun c => if c = '\\' then '/' else c

namespace Namer

/-- The names of a package, with its directories made absolute. -/
def make (cwd : Path) (package : Text) (root scratch : Path) (working : Option Path) : Namer :=
  { package, root := Path.under cwd root, scratch := Path.under cwd scratch, working, cwd }

/-- The directory relative specifiers are resolved in. -/
def workingDir (n : Namer) : Path := n.working.getD n.cwd

/-- Whether resolving a specifier takes the working directory. -/
def startsInCwd (n : Namer) : Bool := !(n.working.any Path.isAbsolute)

/-- The parts of a base directory, from the root. -/
def baseParts (n : Namer) : Base → List Text
  | .root => (Path.under n.cwd n.root).parts
  | .scratch => (Path.under n.cwd n.scratch).parts
  | .cwd => (Path.under n.cwd n.workingDir).parts

/-- The path from a base directory to a place. -/
def relativeText (n : Namer) (base : Base) (p : Path) : Text :=
  Path.partsText (Path.relativeParts (n.baseParts base) (Path.under n.cwd p).parts)

/-- The name of a path, with or without its extension. -/
def nameOf (n : Namer) (o : Naming) (isFile : Bool) (p : Path) : ModuleId :=
  let rel := n.relativeText o.base p
  let full := slashed (if o.noPrefix then rel else n.package ++ '/' :: rel)
  if isFile && !o.keepExtension then dropDeclarationMark (dropExtension full) else full

/-- The name of a path given as a text; `isFile` says which texts lead to a file. -/
def name (n : Namer) (isFile : Text → Bool) (o : Naming) (raw : Text) : ModuleId :=
  n.nameOf o (o.assumeFile || (!o.keepExtension && isFile raw)) (Path.parse raw)

end Namer
end AmbientBundle
