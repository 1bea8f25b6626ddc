import AmbientBundle.FileTree.Access
import AmbientBundle.Octets

/-!
# Images

A file can be run if it is a program.  A program is one of the standard ones, or a
script: a file whose first line names the program that runs it.  That program gets the
path of the script as an argument, after the rest of the first line if there is any,
and may be a script again.

A standard program is a file that holds a mark and its name.  `folder` is a directory
of standard programs, and `find` goes through the directories of a search path.
-/

namespace AmbientBundle
namespace Shell

/-- A standard program and the words it is started with. -/
structure Image where
  /-- The name of the program. -/
  program : String
  /-- The words it is started with. -/
  words : List Octets
  deriving DecidableEq, Repr

namespace Image

/-- The mark at the start of a standard program. -/
def mark : Bytes := [0x7f, 0x45, 0x4c, 0x46]

/-- The file of a standard program. -/
def fileOf (name : String) : Entry := .file (mark ++ Utf8.encode name.toList) .program

/-- A directory of standard programs. -/
def folder (names : List String) : Folder :=
  names.foldl (fun f n => Folder.cons n.toList (fileOf n) f) .nil

/-- The name of the standard program that some bytes are. -/
def standard? (content : Bytes) : Option String :=
  if mark.isPrefixOf content then
    (Utf8.decode (content.drop mark.length)).map String.ofList
  else none

/-- A space or a tab. -/
def isInset (c : Char) : Bool := c = ' ' || c = '\t'

/-- The bytes that are looked at for a first line. -/
def lineLimit : Nat := 255

/-- The program that a first line names, and what follows it. -/
def interpreter? (content : Octets) : Option (Octets × Octets) :=
  match content with
  | '#' :: '!' :: rest =>
      let line := (rest.takeWhile (· ≠ '\n')).dropWhile isInset
      let whole := rest.contains '\n' || content.length ≤ lineLimit
      let name := line.takeWhile fun c => !isInset c && c ≠ '\x00'
      let argument := (line.drop name.length).dropWhile isInset
      let argument := (argument.reverse.dropWhile isInset).reverse
      if name = [] then none
      else if !whole && name.length ≥ lineLimit - 2 then none
      else some (name, argument)
  | _ => none

/-- How many scripts may be run by one another. -/
def chainLimit : Nat := 5

/-- What the file at a path can be run as, with the words it is given. -/
def load (tree : Folder) (cwd : Spot) : Nat → Octets → List Octets → Except Errno Image
  | 0, _, _ => .error .invalid
  | n + 1, path, words =>
      match tree.statText cwd (Octets.toText path) with
      | .error e => .error e
      | .ok (_, .dir _) => .error .denied
      | .ok (_, .file content mode) =>
          if mode ≠ .program then .error .denied
          else
            match standard? content with
            | some program => .ok ⟨program, words⟩
            | none =>
                match interpreter? (Octets.ofBytes content) with
                | none => .error .notProgram
                | some (name, argument) =>
                    let middle := if argument = [] then [path] else [argument, path]
                    load tree cwd n name (name :: middle ++ words.tail)

/-- What a path can be run as, with the words it is given. -/
def ofPath (tree : Folder) (cwd : Spot) (path : Octets) (words : List Octets) :
    Except Errno Image :=
  if path = [] then .error .noEntry else load tree cwd chainLimit path words

/-- A name in a directory of the search path. -/
def inDirectory (dir name : Octets) : Octets :=
  if dir = [] then name
  else if dir.getLast? = some '/' then dir ++ name
  else dir ++ '/' :: name

/-- The files that a program may be. -/
def candidates (searchPath name : Octets) : List Octets :=
  if name.contains '/' then [name]
  else (Text.splitOn ':' searchPath).map fun dir => inDirectory dir name

/-- The first of some files that can be run.  If none can, the reason is the first one that says
more than that nothing was there. -/
def firstOf (tree : Folder) (cwd : Spot) (words : List Octets) (reason : Option Errno) :
    Errno → List Octets → Except Errno Image
  | last, [] => .error (reason.getD last)
  | _, c :: rest =>
      match ofPath tree cwd c words with
      | .ok image => .ok image
      | .error e =>
          if e = .noEntry ∨ e = .notDirectory then firstOf tree cwd words reason e rest
          else firstOf tree cwd words (reason <|> some e) e rest

end Image
end Shell
end AmbientBundle
