import AmbientBundle.FileTree.Access
import AmbientBundle.Text.Half

/-!
# Faults

Everything that can stop a run, sorted by the part of the library that notices it.
A fault holds its cause, and the wording is here in one place.

* `Fault.kind` is the name a fault is reported under.
* `Fault.message?` is its message.  Misuse of a value, bytes that are no text and a
  text that has no bytes have none.
* `Fault.brief` is what a log line shows for it, and `Fault.inspect` the longer form
  with the kind in front.

A malformed project file is a fault with a reason of several lines.  Log lines do
not repeat such a reason; `<detail>` stands in its place.
-/

namespace AmbientBundle

/-- Why settings cannot be used. -/
inductive SettingsFault where
  /-- There is no entry file. -/
  | noEntry
  /-- The project file cannot be read as YAML. -/
  | malformed (reason : String)
  /-- The project file holds something else than a mapping. -/
  | notMapping
  /-- An option that does not exist. -/
  | unknownOption (key : Text)
  /-- A flag with a value that is no truth value. -/
  | notBoolean (key : Text)
  /-- A log level that does not exist. -/
  | unknownLevel (value : Text)
  deriving DecidableEq, Repr

/-- Why a manifest cannot be used. -/
inductive ManifestFault where
  /-- The file system refused. -/
  | refused (path : Path) (cause : OsFault)
  /-- The manifest cannot be read as JSON. -/
  | malformed (path : Path)
  /-- The manifest holds something else than an object. -/
  | notObject (path : Path)
  /-- The manifest names no package. -/
  | nameless (path : Path)
  deriving DecidableEq, Repr

/-- Why the compiler gave no declarations. -/
inductive CompilerFault where
  /-- It ended with an error. -/
  | exited (code : Int) (output : Text)
  /-- It could not be started. -/
  | notLaunched (program : Text) (cause : OsFault)
  deriving DecidableEq, Repr

/-- Why the scratch directory is not as wanted. -/
inductive ScratchFault where
  /-- It could not be made. -/
  | notMade (path : Path)
  /-- It could not be removed. -/
  | notRemoved (path : Path)
  deriving DecidableEq, Repr

/-- Why a line cannot be cut into words. -/
inductive WordsFault where
  /-- A quote is never closed. -/
  | openQuote
  /-- Nothing follows the last backslash. -/
  | openEscape
  deriving DecidableEq, Repr

/-- How a value was misused. -/
inductive Misuse where
  /-- A value of the wrong type. -/
  | type
  /-- A value without the operation asked of it. -/
  | operation
  /-- A value out of its range. -/
  | range
  /-- A number too large to be held. -/
  | size
  /-- A word that is not in the table. -/
  | word
  /-- A place past the end. -/
  | position
  /-- A home directory that is not known. -/
  | home
  /-- Something that goes too deep. -/
  | depth
  /-- A division by nothing. -/
  | division
  deriving DecidableEq, Repr

/-- Why a text gives no value. -/
inductive ReadingFault where
  /-- It is not written as a value. -/
  | malformed (reason : String)
  /-- A value in it is misused. -/
  | misuse (how : Misuse)
  deriving DecidableEq, Repr

/-- What can stop a run. -/
inductive Fault where
  /-- Settings that cannot be used. -/
  | settings (cause : SettingsFault)
  /-- A manifest that cannot be used. -/
  | manifest (cause : ManifestFault)
  /-- A compiler that gave no declarations. -/
  | compiler (cause : CompilerFault)
  /-- A scratch directory that is not as wanted. -/
  | scratch (cause : ScratchFault)
  /-- A bundle whose entry module is not among the declarations. -/
  | unknownEntry (entry : Text)
  /-- A refusal of the file system. -/
  | os (cause : OsFault)
  /-- A line that cannot be cut into words. -/
  | words (cause : WordsFault)
  /-- Bytes that are not UTF-8. -/
  | undecodable
  /-- A text that has no UTF-8, since it holds half a pair of codes. -/
  | unencodable
  /-- A value that was misused. -/
  | misuse (how : Misuse)
  deriving DecidableEq, Repr

/-- What stands for the reason of a syntax error in a log line. -/
def elided : String := "<detail>"

/-! ## Wording -/

/-- The name of the project file. -/
def projectFile : String := ".dtsbundle.yml"

def SettingsFault.message : SettingsFault → String
  | .noEntry => "No entry file is available!"
  | .malformed reason => "Failed to parse " ++ projectFile ++ ": " ++ reason
  | .notMapping => projectFile ++ " must contain a mapping at the root"
  | .unknownOption key => "Unknown option '" ++ Text.toString key ++ "' in " ++ projectFile
  | .notBoolean key => "Option '" ++ Text.toString key ++ "' must be a boolean"
  | .unknownLevel value => "Unknown log level '" ++ Text.toString value ++ "'"

def ManifestFault.message : ManifestFault → String
  | .refused path cause => "Failed to read " ++ path.toString ++ ": " ++ cause.message
  | .malformed path => "Failed to read " ++ path.toString ++ ": " ++ elided
  | .notObject path => path.toString ++ " must contain a JSON object"
  | .nameless path => path.toString ++ " does not declare a package \"name\""

def CompilerFault.message : CompilerFault → String
  | .exited code _ => "TSC exited with code " ++ toString code
  | .notLaunched program cause =>
      "Could not launch " ++ Text.toString program ++ ": " ++ cause.message

/-- What the compiler wrote before it failed. -/
def CompilerFault.output : CompilerFault → Text
  | .exited _ output => output
  | .notLaunched .. => []

def ScratchFault.message : ScratchFault → String
  | .notMade path => "Could not create " ++ path.toString
  | .notRemoved path => "Could not remove " ++ path.toString

def WordsFault.message : WordsFault → String
  | .openQuote => "No closing quotation"
  | .openEscape => "No escaped character"

def Misuse.kind : Misuse → String
  | .type => "TypeError"
  | .operation => "AttributeError"
  | .range => "ValueError"
  | .size => "OverflowError"
  | .word => "KeyError"
  | .position => "IndexError"
  | .home => "RuntimeError"
  | .depth => "RecursionError"
  | .division => "ZeroDivisionError"

namespace Fault

/-- The name a fault is reported under. -/
def kind : Fault → String
  | .settings _ => "ConfigError"
  | .manifest _ => "PackageError"
  | .compiler _ => "CompilerError"
  | .scratch _ => "ScratchDirError"
  | .unknownEntry _ => "AggregationError"
  | .os cause => cause.errno.kind
  | .words _ => "ValueError"
  | .undecodable => "UnicodeDecodeError"
  | .unencodable => "UnicodeEncodeError"
  | .misuse how => how.kind

/-- The message of a fault. -/
def message? : Fault → Option String
  | .settings cause => some cause.message
  | .manifest cause => some cause.message
  | .compiler cause => some cause.message
  | .scratch cause => some cause.message
  | .unknownEntry entry =>
      some ("Entry module \"" ++ Text.toString entry ++ "\" is not among generated declarations")
  | .os cause => some cause.message
  | .words cause => some cause.message
  | .undecodable => none
  | .unencodable => none
  | .misuse _ => none

/-- The same fault without the reason of a syntax error. -/
def elide : Fault → Fault
  | .settings (.malformed _) => .settings (.malformed elided)
  | f => f

/-- What a log line shows for a fault. -/
def brief (f : Fault) : String := f.elide.message?.getD elided

/-- A fault with its kind in front. -/
def inspect (f : Fault) : String :=
  match f with
  | .os cause => cause.brief
  | _ =>
      match f.elide.message? with
      | some m => f.kind ++ "(" ++ Text.toString (Text.quote (Text.ofString m)) ++ ")"
      | none => f.kind ++ "(" ++ elided ++ ")"

/-- What a failed compiler had to say, if that is what the fault is about. -/
def output : Fault → Text
  | .compiler cause => cause.output
  | _ => []

end Fault

/-! ## Paths that are none -/

/-- Why no file system can be asked for a text. -/
def Text.fault? (halves : Halves) (t : Text) : Option Fault :=
  if t.any halves.isLoose then some .unencodable
  else if t.contains '\x00' then some (.misuse .range)
  else none

/-- Why no file system can be asked for a path. -/
def Path.fault? (halves : Halves) (p : Path) : Option Fault := Text.fault? halves p.parts.flatten

/-- Why a path cannot be followed part by part: the first part that cannot be asked for. -/
def Path.partFault? (halves : Halves) (p : Path) : Option Fault :=
  p.parts.findSome? (Text.fault? halves)

end AmbientBundle
