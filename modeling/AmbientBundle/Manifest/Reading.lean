import AmbientBundle.Session

/-!
# Reading the manifest of a package

The manifest lies in the package directory.  A file that cannot be opened and a text
that is no JSON are reported; the other faults are left to whoever asked.
-/

namespace AmbientBundle
namespace Manifest

/-- Report why a manifest could not be read, and stop. -/
def refuse {α : Type} (v : Voice) (path : Path) (reason : String) (cause : ManifestFault) :
    Action α := do
  v.error ("Failed to read package.json at \"" ++ path.toString ++ "\"")
  v.debug ("Error: " ++ reason)
  throw (.manifest cause)

/-- Read the manifest of a package directory. -/
def read (v : Voice) (root : Path) : Action Manifest := do
  let path := root.child fileName
  v.verbose "Loading package.json..."
  Action.checkPath v.host path
  let s ← get
  match s.tree.readFile (s.spot v.host) path with
  | .error e => refuse v path e.message (.refused path e)
  | .ok content =>
      match parse v.host.halves path content with
      | .error (.manifest cause) => refuse v path elided cause
      | .error f => throw f
      | .ok value =>
          match ofValue path value with
          | .error cause => throw (.manifest cause)
          | .ok m =>
              v.verbose "package.json information has been loaded!"
              pure m

end Manifest
end AmbientBundle
