import AmbientBundle.Declarations

/-!
# Alias and template

After its blocks a bundle may carry an alias, which makes the package name itself
importable, and a free template.  Both are texts with places for names: an alias
has `{package-name}` and `{main-module}`, a template has `{0}`, of which only the
first is filled.
-/

namespace AmbientBundle
namespace Bundle

/-- The place of the package name in an alias. -/
def packagePlace : Text := Text.ofString "\x7bpackage-name\x7d"

/-- The place of the main module in an alias. -/
def mainPlace : Text := Text.ofString "\x7bmain-module\x7d"

/-- The place of the main module in a template. -/
def templatePlace : Text := Text.ofString "\x7b0\x7d"

/-- The alias used when none is given. -/
def defaultAlias : Text :=
  Text.ofString "declare module '" ++ packagePlace ++ Text.ofString "' \x7b\n" ++
    Text.ofString "  import main = require('" ++ mainPlace ++ Text.ofString "');\n" ++
    Text.ofString "  export = main;\n\x7d"

/-- Fill an alias: first the package, then the main module. -/
def fillAlias (form package main : Text) : Text :=
  Text.replaceAll mainPlace main (Text.replaceAll packagePlace package form)

/-- Fill the first place of a template. -/
def fillTemplate (template main : Text) : Text := Text.replaceFirst templatePlace main template

/-- The word that marks an ambient declaration in a source. -/
def ambientMark : Text := ['d', 'e', 'c', 'l', 'a', 'r', 'e', ' ']

/-- A source without its ambient marks. -/
def dropMarks (source : Text) : Text := Text.replaceAll ambientMark [] source

end Bundle
end AmbientBundle
