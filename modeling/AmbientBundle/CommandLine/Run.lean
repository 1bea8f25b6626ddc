import AmbientBundle.CommandLine.Help
import AmbientBundle.Generate

/-!
# Running a command line

A command line is read, the settings of the package are loaded with its options on top,
the journal is opened, and the bundle is generated.

A run ends with a status: `0` if all is well or help was asked for, `1` if the settings
cannot be used or generating failed, `2` if the command line is wrong.  Any other fault
ends the run without a status.
-/

namespace AmbientBundle
namespace CommandLine

/-- How a run ends. -/
structure Ending where
  /-- The exit status. -/
  status : Nat
  /-- What is written for the user. -/
  output : String := ""
  /-- How the tool is used, where a user seems not to know. -/
  reminder : String := ""
  /-- What is written to the console at the end. -/
  complaint : String := ""
  deriving DecidableEq, Repr

/-- The version of the tool. -/
def version : String := "0.1.0"

/-! ## Settings from the command line -/

/-- What is given as a value; nothing is an empty list. -/
def Given.value : Given → Value
  | .text t => .text t
  | .nothing => .list []

/-- The path that is given, if it is one. -/
def Given.path? : Given → Option Path
  | .text t => some (Path.parse t)
  | .nothing => none

/-- What is given as a setting. -/
def valueSetting (g : Option Given) : Setting := .value ((g.map Given.value).getD .null)

/-- What is given as the setting of a path; an empty text is no path. -/
def pathSetting : Option Given → Setting
  | some (.text (c :: t)) => .path (Path.parse (c :: t))
  | _ => .value .null

/-- A flag as a setting; a flag that is not given says nothing. -/
def flagSetting (b : Bool) : Setting := .value (if b then .bool true else .null)

/-- What a command line says about the settings. -/
def Arguments.overrides (a : Arguments) : Settings.Overrides :=
  let given (f : Field) (s : Setting) : Text × Setting := (f.name.toList, s)
  [given .entry (valueSetting a.entry),
    given .tmp (pathSetting a.tmp),
    given .tsc (valueSetting a.tsc),
    given .logLevel (valueSetting (if a.verbose then some (.text "debug".toList) else a.logLevel)),
    given .logFile (pathSetting a.logFile),
    given .output (valueSetting a.output),
    given .noAlias (flagSetting a.noAlias),
    given .customAlias (valueSetting a.customAlias),
    given .template (valueSetting a.template),
    given .force (flagSetting a.force),
    given .shake (valueSetting a.shake),
    given .testMode (flagSetting a.testMode)]

/-! ## Running -/

/-- A path as seen from the working directory if it lies there, and as it is otherwise. -/
def shownPath (cwd p : Path) : Text := ((Path.below? cwd p).getD p).toText

/-- Open the journal that settings ask for. -/
def openJournal (host : Host) (s : Settings) : Action Unit := do
  let level ← Action.ofExcept (Settings.levelOf s.logLevel)
  let file ← Action.ofExcept s.logFile.toPath?
  let t ← get
  let (opened, journal, tree) := t.journal.configure host.halves level host.cwd file t.tree
  set { t with journal, tree }
  Action.ofExcept opened

/-- Generate with settings. -/
def generate (host : Host) (compiler : Compiler) (s : Settings) : Action Ending := do
  openJournal host s
  (Voice.named host "").info (toolName ++ " v" ++ version)
  let g : Generator := { voice := Voice.named host "generator", compiler }
  match ← g.generate s with
  | some target =>
      Action.needWorkingDir true
      let place := shownPath host.cwd target
      -- The standard output takes UTF-8 only, and a path may hold half a pair.
      if (host.halves.encode? place).isNone then throw .unencodable
      pure { status := 0, output := "Declarations written to " ++ Text.toString place ++ "\n" }
  | none =>
      pure
        { status := 1
          complaint := "dtsbundle generate failed.\nRun with -L debug for more details.\n" }

/-- How a run ends whose command line is not taken. -/
def Stop.ending : Stop → Ending
  | .help aboutCommand => { status := 0, output := CommandLine.help aboutCommand }
  | .wrong afterCommand message =>
      { status := 2
        reminder := usageOf afterCommand
        complaint := CommandLine.complaint afterCommand message }

/-- Run a command line with a compiler. -/
def run (host : Host) (compiler : Compiler) (argv : List Text) : Action Ending := do
  match Arguments.parse argv with
  | .error stop => pure stop.ending
  | .ok a =>
      match a.root.path? with
      | none => throw (.misuse .type)
      | some root =>
          match Settings.load host (← get).tree root a.overrides with
          | .error (.settings cause) => pure { status := 1, complaint := cause.message ++ "\n" }
          | .error f => throw f
          | .ok s => generate host compiler s

end CommandLine
end AmbientBundle
