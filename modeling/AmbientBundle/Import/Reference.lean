import AmbientBundle.Import.Site

/-!
# References

The *references* of a source are the specifiers its lines name, read under a
shake policy.  A line contributes at most one static, one dynamic and one
exported specifier.  The policy `exportOnly` reads re-exports only; the two
others read the static specifiers of all lines and then the dynamic ones.
-/

namespace AmbientBundle

/-- How the modules of a bundle are pruned. -/
inductive ShakePolicy where
  /-- Every module stays. -/
  | off
  /-- Modules reached through re-exports stay. -/
  | exportOnly
  /-- Modules reached through any import stay. -/
  | allImports
  deriving DecidableEq, Repr

/-- The name of a policy in settings and messages. -/
def ShakePolicy.name : ShakePolicy → String
  | .off => "off"
  | .exportOnly => "exportOnly"
  | .allImports => "allImports"

namespace Import

/-- The specifier of the leftmost site of a form. -/
def specifier? (f : Form) (line : Text) : Option Text := (leftmost f line).map Site.specifier

/-- The specifiers a source depends on under a policy, in the order they are read. -/
def references (source : Text) : ShakePolicy → List Text
  | .exportOnly => source.splitLines.filterMap leftmostExport
  | _ =>
      source.splitLines.filterMap (specifier? .static) ++
        source.splitLines.filterMap (specifier? .dynamic)

end Import
end AmbientBundle
