import AmbientBundle.Declarations

/-!
# Module blocks

A bundle is a sequence of blocks, one per module.

    declare module 'id' {
      the text of the module, every line but the empty ones indented by two
    }

An indented line is never a lone `}`, so a text cannot close its own block.
-/

namespace AmbientBundle
namespace Bundle

/-- What stands before the id of a block. -/
def headerStart : Text := Text.ofString "declare module '"

/-- What stands after the id of a block. -/
def headerEnd : Text := Text.ofString "' \x7b"

/-- The line that closes a block. -/
def closingLine : Text := ['}']

/-- A line moved in by two, unless it is empty. -/
def indentLine : Text → Text
  | [] => []
  | line => ' ' :: ' ' :: line

/-- A text with its lines moved in. -/
def indent (t : Text) : Text := Text.joinWith '\n' ((Text.splitOn '\n' t).map indentLine)

/-- The block of a module. -/
def block (m : ModuleId) (body : Text) : Text :=
  headerStart ++ m ++ headerEnd ++ '\n' :: indent body ++ '\n' :: closingLine

/-- The blocks of all modules, one after the other. -/
def serialize (d : Declarations) : Text :=
  Text.joinWith '\n' (d.entries.map fun e => block e.1 e.2)

end Bundle
end AmbientBundle
