import AmbientBundle.Import.Reference
import AmbientBundle.ModuleName

/-!
# Resolving imports

Inside a bundle a module is named by its id, so a relative specifier has to
become the id it points at.  The specifier starts beside its owner: the parent of
the owner's id followed by the specifier, taken back to normal form in the
working directory.  A target that is no known module is taken for a directory and
gets `/index`.

`Resolver.resolve` goes through the lines of a source.  In each line the leftmost
static site is redirected and then the leftmost dynamic site of the line so
obtained, and only if its specifier starts with a dot.  `Resolver.redirects` lists
what was redirected, in the same order.
-/

namespace AmbientBundle
namespace Import

/-- The modules that specifiers can point at. -/
structure Resolver where
  /-- How ids are made. -/
  namer : Namer
  /-- The ids of the bundle. -/
  known : List ModuleId

/-- A specifier and the id it became. -/
structure Redirect where
  /-- The module whose source was redirected. -/
  owner : ModuleId
  /-- The specifier that was there. -/
  specifier : Text
  /-- The id that replaced it. -/
  target : ModuleId
  deriving DecidableEq, Repr

/-- The name of the module that stands for a directory. -/
def indexSuffix : Text := ['/', 'i', 'n', 'd', 'e', 'x']

/-- Whether a specifier is relative to its owner. -/
def isRelative : Text → Bool
  | '.' :: _ => true
  | _ => false

namespace Resolver

/-- Where a specifier of an owner leads, before it is known whether that is a module. -/
def locate (r : Resolver) (specifier owner : Text) : ModuleId :=
  let above := (r.namer.workingDir.join (Path.parse owner)).child upPart
  let beside := above.join (Path.parse specifier)
  r.namer.nameOf { base := .cwd, noPrefix := true, keepExtension := true } false beside

/-- The id a specifier of an owner points at. -/
def target (r : Resolver) (specifier owner : Text) : ModuleId :=
  let id := r.locate specifier owner
  if r.known.contains id then id else id ++ indexSuffix

/-- The site of a form whose specifier has to be redirected. -/
def relativeSite? (f : Form) (line : Text) : Option Site :=
  match leftmost f line with
  | some s => if isRelative s.specifier then some s else none
  | none => none

/-- A line with its leftmost site of a form redirected. -/
def redirectForm (r : Resolver) (f : Form) (owner line : Text) : Text :=
  match relativeSite? f line with
  | some s => s.withSpecifier (r.target s.specifier owner)
  | none => line

/-- The redirect a line calls for. -/
def formRedirects (r : Resolver) (f : Form) (owner line : Text) : List Redirect :=
  match relativeSite? f line with
  | some s => [⟨owner, s.specifier, r.target s.specifier owner⟩]
  | none => []

/-- A line with its static and then its dynamic site redirected. -/
def resolveLine (r : Resolver) (owner line : Text) : Text :=
  r.redirectForm .dynamic owner (r.redirectForm .static owner line)

/-- The redirects of a line, in order. -/
def lineRedirects (r : Resolver) (owner line : Text) : List Redirect :=
  r.formRedirects .static owner line ++
    r.formRedirects .dynamic owner (r.redirectForm .static owner line)

/-- A source with its relative specifiers turned into ids. -/
def resolve (r : Resolver) (source owner : Text) : Text :=
  Text.joinLines ((Text.splitLines source).map (r.resolveLine owner))

/-- The redirects of a source, in order. -/
def redirects (r : Resolver) (source owner : Text) : List Redirect :=
  (Text.splitLines source).flatMap (r.lineRedirects owner)

end Resolver
end Import
end AmbientBundle
