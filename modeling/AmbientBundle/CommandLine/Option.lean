import AmbientBundle.Text

/-!
# Options of the command line

The options that may stand before the command, their short and long spellings in the
order in which they are searched, and whether a value belongs to them.
-/

namespace AmbientBundle
namespace CommandLine

/-- An option of the command line. -/
inductive Flag where
  | help
  | entry
  | root
  | tmp
  | tsc
  | logLevel
  | verbose
  | logFile
  | output
  | noAlias
  | customAlias
  | template
  | force
  | shake
  | testMode
  deriving DecidableEq, Repr

/-- The spellings of an option. -/
def Flag.spellings : Flag → List String
  | .help => ["-h", "--help"]
  | .entry => ["-e", "--entry"]
  | .root => ["-r", "--root"]
  | .tmp => ["-t", "--tmp"]
  | .tsc => ["-c", "--tsc"]
  | .logLevel => ["-L", "--log-level"]
  | .verbose => ["-v", "--verbose"]
  | .logFile => ["--log-file"]
  | .output => ["-o", "--output"]
  | .noAlias => ["-a", "--no-alias"]
  | .customAlias => ["--custom-alias"]
  | .template => ["--template"]
  | .force => ["-f", "--force"]
  | .shake => ["-s", "--shake"]
  | .testMode => ["-m", "--test-mode"]

/-- Whether a value belongs to an option. -/
def Flag.takesValue : Flag → Bool
  | .help => false
  | .verbose => false
  | .noAlias => false
  | .force => false
  | .testMode => false
  | _ => true

/-- The name of an option in messages. -/
def Flag.name (f : Flag) : String := "/".intercalate f.spellings

/-- All options. -/
def allFlags : List Flag :=
  [.help, .entry, .root, .tmp, .tsc, .logLevel, .verbose, .logFile, .output, .noAlias, .customAlias,
    .template, .force, .shake, .testMode]

/-- The spellings of some options. -/
abbrev Table := List (Text × Flag)

/-- The spellings of some options, in order. -/
def tableOf (fs : List Flag) : Table :=
  fs.flatMap fun f => f.spellings.map fun s => (s.toList, f)

/-- The options before the command. -/
def mainTable : Table := tableOf allFlags

/-- The options after the command. -/
def commandTable : Table := tableOf [.help]

/-- The commands. -/
def commands : List Text := ["generate".toList]

/-- The values of the log level. -/
def levels : List Text :=
  ["debug".toList, "error".toList, "info".toList, "silly".toList, "verbose".toList, "warn".toList]

end CommandLine
end AmbientBundle
