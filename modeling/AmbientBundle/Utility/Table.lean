import AmbientBundle.Utility.Characters
import AmbientBundle.Utility.Copying
import AmbientBundle.Utility.Directories
import AmbientBundle.Utility.Grep
import AmbientBundle.Utility.Sed.Editor
import AmbientBundle.Utility.Words

/-!
# The table of utilities

`Utility.find?` is the utility with a name.
-/

namespace AmbientBundle
namespace Utility

/-- The utilities by name. -/
def table : List (String × Tool) :=
  [("[", testTool), ("base64", base64), ("basename", basename), ("cat", cat), ("chmod", chmod),
    ("cmp", cmp), ("comm", comm), ("cp", cp), ("cut", cut), ("dirname", dirname),
    ("echo", echoTool), ("egrep", Grep.tool 'E'), ("expr", expr), ("false", falseTool),
    ("fgrep", Grep.tool 'F'), ("fold", fold), ("grep", Grep.tool 'G'), ("head", head),
    ("id", idTool), ("ln", ln), ("ls", ls), ("mkdir", mkdir), ("mktemp", mktemp), ("mv", mv),
    ("nl", nl), ("od", od), ("paste", paste), ("printenv", printenv), ("printf", printfTool),
    ("pwd", pwdTool), ("readlink", readlink), ("realpath", realpath), ("rev", rev), ("rm", rm),
    ("rmdir", rmdir), ("sed", Sed.tool), ("seq", seq), ("sort", sort), ("sync", trueTool),
    ("tac", tac), ("tail", tail), ("tee", tee), ("test", testTool), ("touch", touch), ("tr", tr),
    ("true", trueTool), ("uname", uname), ("uniq", uniq), ("unlink", unlink), ("wc", wc),
    ("which", which), ("whoami", whoami), ("yes", yes)]

/-- The utility with a name. -/
def find? (name : String) : Option Tool := table.lookup name

end Utility
end AmbientBundle
