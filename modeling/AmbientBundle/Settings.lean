import AmbientBundle.Import.Reference
import AmbientBundle.Session

/-!
# Settings

A run has thirteen options.  A value for an option comes from the command line, from
the project file or from the default, in this order.

* `Draft` holds what has been given so far.  Giving an option again replaces what
  was given before.
* A project file stands for a mapping; how its text is read is up to the host.
  `coerce` turns a mapping into a draft.  A key may be written with hyphens or with
  underscores, and five options have a third spelling.  What an option does not accept
  is a fault.
* `Settings.ofDraft` fills the gaps and makes the paths absolute.
* `Settings.load` reads the project file of a directory and puts overrides on top.

Outside the project file nothing is checked, so an option may hold a value of any
kind.  A run notices that when it uses the value.

A number with too many digits cannot be written as a text, nor can collections that
lie in one another too deep.  A path with a NUL or with half a pair of codes that is loose
cannot be made absolute, since the file system is asked about it part by part.
-/

namespace AmbientBundle

/-- The options of a run. -/
inductive Field where
  | root
  | entry
  | tmp
  | tsc
  | logLevel
  | logFile
  | output
  | noAlias
  | customAlias
  | template
  | force
  | shake
  | testMode
  deriving DecidableEq, Repr

namespace Field

/-- The name of an option. -/
def name : Field → String
  | .root => "root"
  | .entry => "entry"
  | .tmp => "tmp"
  | .tsc => "tsc"
  | .logLevel => "log_level"
  | .logFile => "log_file"
  | .output => "output"
  | .noAlias => "no_alias"
  | .customAlias => "custom_alias"
  | .template => "template"
  | .force => "force"
  | .shake => "shake"
  | .testMode => "test_mode"

/-- All options. -/
def all : List Field :=
  [.root, .entry, .tmp, .tsc, .logLevel, .logFile, .output, .noAlias, .customAlias, .template,
    .force, .shake, .testMode]

/-- The option with a name. -/
def ofName? (t : Text) : Option Field := all.find? fun f => f.name.toList = t

/-- The third spelling of five options. -/
def spelling? (t : Text) : Option Field :=
  [("testMode".toList, Field.testMode), ("logLevel".toList, .logLevel),
    ("logFile".toList, .logFile), ("noAlias".toList, .noAlias),
    ("customAlias".toList, .customAlias)].lookup t

/-- Hyphens become underscores. -/
def underscored (t : Text) : Text := t.map fun c => if c = '-' then '_' else c

/-- The option that a key of a project file means, given as a text. -/
def ofKey? (key : Text) : Option Field :=
  let t := underscored key
  match spelling? t with
  | some f => some f
  | none => ofName? t

/-- Whether an option is a flag. -/
def isFlag : Field → Bool
  | .noAlias => true
  | .force => true
  | .testMode => true
  | _ => false

end Field

/-- What can be given for an option. -/
inductive Setting where
  /-- A value. -/
  | value (v : Value)
  /-- A path. -/
  | path (p : Path)
  deriving Repr

namespace Setting

/-- The value of a setting. -/
def toValue : Setting → Value
  | .value v => v
  | .path p => .text p.toText

/-- A setting as a text. -/
def toText (s : Setting) : Text := s.toValue.shown

/-- The path that a setting stands for. -/
def toPath : Setting → Except Fault Path
  | .path p => .ok p
  | .value (.text t) => .ok (Path.parse t)
  | .value _ => .error (.misuse .type)

/-- The path that a setting stands for, if it is given at all. -/
def toPath? : Setting → Except Fault (Option Path)
  | .value .null => .ok none
  | s => s.toPath.map some

end Setting

/-- What has been given. -/
abbrev Draft := Field → Option Setting

namespace Draft

/-- Nothing. -/
def empty : Draft := fun _ => none

/-- Give an option. -/
def give (d : Draft) (f : Field) (s : Setting) : Draft := fun g => if g = f then some s else d g

end Draft

/-! ## The project file -/

/-- How many collections that lie in one another can be written. -/
def Value.writtenDepth : Nat := 990

/-- The text of a value, if it can be written. -/
def Value.written (halves : Halves) (v : Value) : Except Fault Text :=
  if v.tooLong then .error (.misuse .range)
  else if Value.writtenDepth < v.depth then .error (.misuse .depth)
  else .ok (v.shownWith halves.quote)

/-- The text of a value that can be taken for a text. -/
def Value.asText (v : Value) : Except Fault (Option Text) :=
  match v with
  | .text t => .ok (some t)
  | .bool _ => .ok (some v.shown)
  | .int _ => if v.tooLong then .error (.misuse .range) else .ok (some v.shown)
  | .float _ => .ok (some v.shown)
  | _ => .ok none

/-- The truth value that a value stands for. -/
def Value.asBool : Value → Option Bool
  | .bool b => some b
  | .text t =>
      let w := Text.lower (Text.strip t)
      if ["true".toList, "yes".toList, "1".toList].contains w then some true
      else if ["false".toList, "no".toList, "0".toList].contains w then some false
      else none
  | _ => none

/-- The value for an optional text. -/
def Value.ofText? : Option Text → Value
  | some t => .text t
  | none => .null

namespace Settings

/-- A path made absolute and normal. -/
def resolved (host : Host) (p : Path) : Except Fault Path :=
  match p.partFault? host.halves with
  | some f => .error f
  | none => .ok (Path.resolve host.cwd p)

/-- A path of a project file, which starts in the directory of that file. -/
def pathIn (host : Host) (root : Path) (v : Value) : Except Fault Setting := do
  let t ← v.written host.halves
  let p ← resolved host (root.join (Path.parse t))
  pure (.path p)

/-- The level of a project file. -/
def levelIn (host : Host) (v : Value) : Except Fault Setting := do
  match ← v.asText with
  | some t =>
      if (Level.find? (Text.lower t)).isSome then pure (.value (.text (Text.lower t)))
      else throw (.settings (.unknownLevel t))
  | none => throw (.settings (.unknownLevel (← v.written host.halves)))

/-- What an entry of a project file gives to its option. -/
def coerceValue (host : Host) (root : Path) (key : Text) (f : Field) (v : Value) :
    Except Fault Setting :=
  if f.isFlag then
    match v.asBool with
    | some b => .ok (.value (.bool b))
    | none => .error (.settings (.notBoolean key))
  else
    match f, v with
    | .shake, .bool false => .ok (.value (.text "off".toList))
    | .root, _ => pathIn host root v
    | .tmp, _ => if v.holds then pathIn host root v else .ok (.value .null)
    | .logFile, _ => if v.holds then pathIn host root v else .ok (.value .null)
    | .logLevel, _ => levelIn host v
    | _, _ => v.asText.map fun t => .value (Value.ofText? t)

/-- Give the options of some entries, one after the other. -/
def coerceFrom (host : Host) (root : Path) : Draft → List (Value × Value) → Except Fault Draft
  | d, [] => .ok d
  | d, (k, v) :: rest => do
      let key ← k.written host.halves
      match Field.ofKey? key with
      | none => throw (.settings (.unknownOption key))
      | some f =>
          let s ← coerceValue host root key f v
          coerceFrom host root (d.give f s) rest

/-- The draft of the mapping of a project file. -/
def coerce (host : Host) (root : Path) (data : List (Value × Value)) : Except Fault Draft :=
  coerceFrom host root Draft.empty data

/-- The mapping that a value stands for, without entries if it is nothing. -/
def entriesOf : Value → Except Fault (List (Value × Value))
  | .null => .ok []
  | .map es => .ok es
  | _ => .error (.settings .notMapping)

/-- The mapping that the content of a project file stands for, without entries if it is blank. -/
def readEntries (host : Host) (content : Bytes) : Except Fault (List (Value × Value)) :=
  match Utf8.decode content with
  | none => .error .undecodable
  | some raw =>
      let t := Text.asRead raw
      if Text.isAllBlank t then .ok []
      else
        match host.reader t with
        | .error (.malformed reason) => .error (.settings (.malformed reason))
        | .error (.misuse how) => .error (.misuse how)
        | .ok v => entriesOf v

end Settings

/-! ## Settings of a run -/

/-- The settings of a run. -/
structure Settings where
  /-- The package directory. -/
  root : Setting
  /-- The entry file. -/
  entry : Value := .text "index.ts".toList
  /-- The scratch directory. -/
  tmp : Setting := .value .null
  /-- Options for the compiler. -/
  tsc : Value := .text []
  /-- The level of the journal. -/
  logLevel : Value := .text "info".toList
  /-- The log file. -/
  logFile : Setting := .value .null
  /-- The file the bundle is written to. -/
  output : Value := .text "index.d.ts".toList
  /-- Whether the alias is left out. -/
  noAlias : Value := .bool false
  /-- The alias used in place of the default one. -/
  customAlias : Value := .null
  /-- The template. -/
  template : Value := .null
  /-- Whether errors of the compiler are ignored. -/
  force : Value := .bool false
  /-- How the modules are pruned. -/
  shake : Value := .text "off".toList
  /-- Whether the tool is run on itself. -/
  testMode : Value := .bool false

namespace Settings

/-- A path made absolute, with the home directory in its place. -/
def absolute (host : Host) (p : Path) : Except Fault Path :=
  match Path.expandHome? host.home host.users p with
  | none => .error ((Text.fault? host.halves (p.parts.headD [])).getD (.misuse .home))
  | some q => resolved host q

/-- A setting made an absolute path. -/
def absoluteSetting (host : Host) (s : Setting) : Except Fault Setting := do
  let p ← s.toPath
  let q ← absolute host p
  pure (.path q)

/-- The absolute path of an option that need not be given. -/
def optionalPath (host : Host) : Option Setting → Except Fault Setting
  | none => .ok (.value .null)
  | some (.value .null) => .ok (.value .null)
  | some s => absoluteSetting host s

/-- The value of an option, or else a default. -/
def valueOr (d : Draft) (f : Field) (dflt : Value) : Value := ((d f).map Setting.toValue).getD dflt

/-- Fill the gaps of a draft. -/
def ofDraft (host : Host) (d : Draft) : Except Fault Settings := do
  let root ← absoluteSetting host ((d .root).getD (.path host.cwd))
  let tmp ← optionalPath host (d .tmp)
  let logFile ← optionalPath host (d .logFile)
  let s : Settings := { root }
  pure
    { root, tmp, logFile
      entry := valueOr d .entry s.entry
      tsc := valueOr d .tsc s.tsc
      logLevel := valueOr d .logLevel s.logLevel
      output := valueOr d .output s.output
      noAlias := valueOr d .noAlias s.noAlias
      customAlias := valueOr d .customAlias s.customAlias
      template := valueOr d .template s.template
      force := valueOr d .force s.force
      shake := valueOr d .shake s.shake
      testMode := valueOr d .testMode s.testMode }

/-- Options given by their names. -/
abbrev Overrides := List (Text × Setting)

/-- Whether an override says something. -/
def isGiven : Setting → Bool
  | .value .null => false
  | _ => true

/-- Put overrides on top of a draft.  A name that is no option is misuse. -/
def override : Draft → Overrides → Except Fault Draft
  | d, [] => .ok d
  | d, (name, s) :: rest =>
      if isGiven s then
        match Field.ofName? name with
        | some f => override (d.give f s) rest
        | none => .error (.misuse .type)
      else override d rest

/-- The settings given by their names alone. -/
def ofNames (host : Host) (given : Overrides) : Except Fault Settings :=
  let step (acc : Except Fault Draft) (e : Text × Setting) : Except Fault Draft :=
    match acc, Field.ofName? e.1 with
    | .ok d, some f => .ok (d.give f e.2)
    | .ok _, none => .error (.misuse .type)
    | .error e, _ => .error e
  match given.foldl step (.ok Draft.empty) with
  | .error e => .error e
  | .ok d => ofDraft host d

/-- The mapping of the project file of a directory, without entries if there is no such file. -/
def projectData (host : Host) (tree : Folder) (root : Path) : Except Fault (List (Value × Value)) :=
  let file := root.child projectFile.toList
  match tree.stat host.spot file with
  | .error .nameTooLong => .error (.os (.about .nameTooLong file))
  | .error _ => .ok []
  | .ok _ =>
      match tree.readFile host.spot file with
      | .error e => .error (.os e)
      | .ok content => readEntries host content

/-- Fill the gaps of what a mapping and overrides on top of it give for a directory. -/
def ofEntries (host : Host) (root : Path) (data : List (Value × Value)) (overrides : Overrides) :
    Except Fault Settings :=
  match coerce host root data with
  | .error e => .error e
  | .ok d =>
      match override d overrides with
      | .error e => .error e
      | .ok d => ofDraft host (if (d .root).isNone then d.give .root (.path root) else d)

/-- The settings of a directory, with overrides on top. -/
def load (host : Host) (tree : Folder) (dir : Path) (overrides : Overrides) :
    Except Fault Settings :=
  match absolute host dir with
  | .error e => .error e
  | .ok root =>
      match projectData host tree root with
      | .error e => .error e
      | .ok data => ofEntries host root data overrides

/-- Set an option as it is. -/
def assign (s : Settings) (f : Field) (x : Setting) : Settings :=
  match f with
  | .root => { s with root := x }
  | .entry => { s with entry := x.toValue }
  | .tmp => { s with tmp := x }
  | .tsc => { s with tsc := x.toValue }
  | .logLevel => { s with logLevel := x.toValue }
  | .logFile => { s with logFile := x }
  | .output => { s with output := x.toValue }
  | .noAlias => { s with noAlias := x.toValue }
  | .customAlias => { s with customAlias := x.toValue }
  | .template => { s with template := x.toValue }
  | .force => { s with force := x.toValue }
  | .shake => { s with shake := x.toValue }
  | .testMode => { s with testMode := x.toValue }

/-! ## What settings mean -/

/-- What comes of two values that are no path and a text: two numbers have a quotient, which may
be too large and is no path either. -/
def quotientFault (a b : Value) : Fault :=
  let small (v : Value) : Bool := (v.whole?.map fun i => (Binary64.ofNat? i.natAbs).isSome).getD true
  match a.isNumber && b.isNumber, a.whole?, b.whole? with
  | false, _, _ => .misuse .type
  | true, some i, some j =>
      if j = 0 then .misuse .division
      else if Binary64.ofRatio false i.natAbs j.natAbs = .infinite false then .misuse .size
      else .misuse .operation
  | true, _, _ =>
      if !(small a && small b) then .misuse .size
      else .misuse (if b.holds then .operation else .division)

/-- The file the bundle is written to. -/
def outputPath (host : Host) (s : Settings) : Except Fault Path :=
  match s.root, s.output with
  | .path root, .text t => resolved host (root.join (Path.parse t))
  | .path _, _ => .error (.misuse .type)
  | .value root, output => .error (quotientFault root output)

/-- The words for a policy. -/
def policies : List (Text × ShakePolicy) :=
  [("off".toList, .off), ("exportonly".toList, .exportOnly), ("export-only".toList, .exportOnly),
    ("allimports".toList, .allImports), ("all-imports".toList, .allImports),
    ("referencedonly".toList, .allImports)]

/-- The policy that a value asks for, if it asks for one. -/
def policy? : Value → Option ShakePolicy
  | .null => some .off
  | v => policies.lookup (Text.lower (Text.strip v.shown))

/-- The policy that a value asks for.  An unknown one is reported and turns shaking off. -/
def policyOf (voice : Voice) (v : Value) : Action ShakePolicy :=
  match policy? v with
  | some p => pure p
  | none => do
      voice.warning ("Unknown value for shake \"" ++ Text.toString v.shown ++
        "\"; tree-shaking is disabled")
      pure .off

/-- The level that a value asks for. -/
def levelOf (v : Value) : Except Fault Level :=
  if v.holds then
    match v with
    | .text t => .ok (Level.ofWord t)
    | _ => .error (.misuse .operation)
  else .ok Level.info

end Settings
end AmbientBundle
