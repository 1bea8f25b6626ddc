import AmbientBundle.Session
import AmbientBundle.Shell.Start

/-!
# Programs

A program named with a slash is the file at that path.  Any other program is looked for in the
directories of the search path, and the first file that can be run is taken.

A program runs in its directory, which has to exist, and knows the search path and the home
directory.  What it writes has to be text.
-/

namespace AmbientBundle
namespace Program

/-- The environment of a program. -/
def environment (host : Host) (l : Launch) : List (Octets × Octets) :=
  [("HOME".toList, Octets.ofText host.home.toText), ("PATH".toList, Octets.ofText l.searchPath)]

/-- Start programs found in the file tree.  A program that is not there is a fault of the
compiler. -/
def launcher (host : Host) : Launcher := fun l cwd tree =>
  let name := l.words.headD []
  let refuse (e : Errno) (path : Text) : Except Fault Outcome × Folder :=
    let cause : OsFault := ⟨e, some path, false⟩
    (.error (if e = .noEntry then .compiler (.notLaunched name cause) else .os cause), tree)
  match l.fault? host.halves with
  | some f => (.error f, tree)
  | none =>
      match tree.stat cwd l.cwd with
      | .error e => refuse e l.cwd.toText
      | .ok (_, .file ..) => refuse .notDirectory l.cwd.toText
      | .ok (spot, .dir _) =>
          let words := l.words.map Octets.ofText
          let files := Shell.Image.candidates (Octets.ofText l.searchPath) (words.headD [])
          match Shell.Image.firstOf tree spot words none .noEntry files with
          | .error e => refuse e name
          | .ok image =>
              let o := Shell.launch image (environment host l) tree spot
              match Utf8.decode (Octets.toBytes o.output) with
              | none => (.error .undecodable, o.tree)
              | some t => (.ok ⟨o.code, Text.asRead t⟩, o.tree)

end Program
end AmbientBundle
