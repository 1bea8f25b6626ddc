import AmbientBundle.Bundle.Aggregate
import AmbientBundle.Compiler
import AmbientBundle.Manifest.Reading
import AmbientBundle.Settings

/-!
# Generating a bundle

A run has the compiler write its declarations into the scratch directory, turns them
into a bundle and stores it.

Without a scratch directory in the settings the run makes a temporary directory and
removes it at the end, whatever happens.  If a step fails, the failure is reported,
the scratch directory is cleared unless that has been done, and the run ends without
a bundle, or with the fault that stopped it if faults are to be thrown.  Only what cannot
be removed because it lies too deep ends a run in the middle of that.

The file of the bundle is emptied before anything is written to it.  So it is left empty if
the bundle has no UTF-8.
-/

namespace AmbientBundle

/-- Who generates: who reports, the compiler, and whether faults are thrown. -/
structure Generator where
  /-- Who reports. -/
  voice : Voice
  /-- The compiler. -/
  compiler : Compiler
  /-- Whether the fault that stopped a run is thrown. -/
  throws : Bool := false

namespace Action

/-- Run an action and keep its fault as a result. -/
def observe {α : Type} (act : Action α) : Action (Except Fault α) :=
  tryCatch (act >>= fun a => pure (.ok a)) fun f => pure (.error f)

end Action

namespace Generator

/-- The name of the scratch directory in a temporary directory. -/
def scratchName : Text := toolName.toList

/-- The manifest of the package, read once. -/
def manifest (g : Generator) (s : Settings) : Action Manifest := do
  match (← get).manifest with
  | some m => pure m
  | none =>
      let root ← Action.ofExcept s.root.toPath
      let m ← Manifest.read g.voice root
      modify fun t => { t with manifest := some m }
      pure m

/-- The directory the compiler runs in: the package, or the tool itself in a test of it. -/
def compilerDirectory (g : Generator) (s : Settings) : Setting :=
  if s.testMode.holds then .path g.voice.host.tool else s.root

/-! ## Directories -/

/-- Make a new temporary directory. -/
def makeTemporary (g : Generator) : Action Path := do
  modify fun t => { t with temporaries := t.temporaries + 1 }
  let dir := g.voice.host.temporary.child
    (toolName.toList ++ '-' :: Nat.toDigits 10 (← get).temporaries)
  match ← Action.onTree g.voice.host fun cwd tree => tree.makeDirs cwd dir with
  | .ok () => pure dir
  | .error e => throw (.os e)

/-- The scratch directory, and the temporary directory it lies in if there is one. -/
def locate (g : Generator) (s : Settings) : Action (Path × Option Path) := do
  match ← Action.ofExcept s.tmp.toPath? with
  | some p => pure (p, none)
  | none =>
      g.voice.verbose "Locating OS Temporary Directory..."
      let dir ← g.makeTemporary
      pure (dir.child scratchName, some dir)

/-- Remove the temporary directory.  A refusal to do so is of no concern. -/
def removeTemporary (g : Generator) : Option Path → Action Unit
  | none => pure ()
  | some dir => do
      g.voice.verbose "Deleting OS Temporary Directory..."
      let _ ← Action.removeTree g.voice.host dir

/-! ## Reports -/

/-- Show what a fault is about. -/
def detail (g : Generator) (f : Fault) : Action Unit :=
  g.voice.debug ("Error: \n" ++
    (if f.output = [] then f.inspect else Text.toString f.output))

/-- The text of the output setting in messages. -/
def outputName (s : Settings) : String := Text.toString s.output.shown

/-- Report that a run failed, with advice unless errors are ignored anyway. -/
def report (g : Generator) (s : Settings) (f : Fault) : Action Unit := do
  g.voice.error ("Generation of " ++ outputName s ++ " has failed!")
  g.detail f
  if !s.force.holds then
    let level ← Action.ofExcept (Settings.levelOf s.logLevel)
    if level ≤ Level.debug then
      g.voice.info "If issue is not severe, you can try forcing execution using force flag."
      g.voice.info "In case of command line usage, add \"-f\" as the first parameter."
    else
      g.voice.info "You should try running dtsbundle with debug level logging."
      g.voice.info "In case of command line, debug mode is enabled using \"-L debug\"."

/-- Clear the scratch directory unless that has been done. -/
def cleanUp (g : Generator) : Action Unit := do
  match (← get).scratch with
  | some d =>
      if !d.emptied then
        tryCatch (Scratch.clear g.voice d.path) fun f => g.voice.debug ("Error: " ++ f.brief)
  | none => pure ()

/-! ## Steps -/

/-- The launch that has the compiler write its declarations into a directory. -/
def prepare (g : Generator) (s : Settings) (path : Path) : Action Launch := do
  let words ← g.compiler.announce path s.tsc
  let dir ← Action.ofExcept (g.compilerDirectory s).toPath
  pure (g.compiler.launchIn dir words)

/-- Go on after the compiler, or stop. -/
def heed (g : Generator) (s : Settings) : Except Fault Outcome → Action Unit
  | .ok _ => pure ()
  | .error (.compiler cause) => do
      if s.force.holds then
        g.voice.warning "TSC exited with errors!"
        g.voice.warning "Suppressing errors due to \"force\" flag!"
        g.detail (.compiler cause)
        g.voice.warning "Generated declaration files might not be valid!"
      else
        g.voice.error "TSC exited with errors!"
        throw (.compiler cause)
  | .error f => throw f

/-- Have the compiler write its declarations into the new scratch directory. -/
def emit (g : Generator) (s : Settings) (path : Path) : Action Unit := do
  let _ ← Scratch.reset g.voice {} path
  let compiled ← Action.observe do
    let l ← g.prepare s path
    g.compiler.run l
  g.heed s compiled

/-- The aggregator for a run. -/
def aggregator (g : Generator) (s : Settings) (path : Path) : Action Bundle.Aggregator := do
  let m ← g.manifest s
  let root := Path.parse s.root.toText
  Action.needWorkingDir (!root.isAbsolute || !path.isAbsolute)
  let policy ← Settings.policyOf g.voice s.shake
  pure
    { voice := g.voice
      namer := Namer.make g.voice.host.cwd m.name root path none
      options :=
        { entry := s.entry
          shake := policy
          withAlias := !s.noAlias.holds
          customAlias := s.customAlias
          template := s.template } }

/-- Store a bundle. -/
def store (g : Generator) (s : Settings) (source : Text) : Action Path := do
  let target ← Action.ofExcept (s.outputPath g.voice.host)
  g.voice.verbose "Ensuring that output folder exists..."
  match ← Action.makeDirs g.voice.host target.parent with
  | .error e =>
      g.voice.error ("Failed to create \"" ++ target.parent.toString ++ "\"!")
      throw (.os e)
  | .ok () =>
      g.voice.verbose ("Storing typings into " ++ outputName s ++ " file...")
      let t ← get
      let content := g.voice.host.halves.encode? source
      match t.tree.writeFile (t.spot g.voice.host) target (content.getD []) with
      | .error e =>
          g.voice.error ("Failed to create " ++ outputName s ++ "!")
          throw (.os e)
      | .ok tree =>
          set (t.withTree g.voice.host tree)
          if content.isNone then throw .unencodable
          g.voice.verbose ("Successfully created " ++ outputName s ++ " file!")
          pure target

/-- The steps of a run, given its scratch directory. -/
def work (g : Generator) (s : Settings) (path : Path) : Action Path := do
  modify fun t => { t with scratch := some { path } }
  g.emit s path
  let a ← g.aggregator s path
  let source ← a.aggregate path (some (g.voice, path))
  g.store s source

/-- End a run that a fault stopped. -/
def giveUp (g : Generator) (s : Settings) (temporary : Option Path) (f : Fault) :
    Action (Option Path) := do
  let reported ← Action.observe do
    g.report s f
    g.cleanUp
  g.removeTemporary temporary
  Action.ofExcept reported
  g.voice.error "Generation failed!"
  if g.throws then throw f else pure none

/-- Generate the bundle and give its path, or nothing if that failed. -/
def generate (g : Generator) (s : Settings) : Action (Option Path) := do
  g.voice.info ("Generating declarations for \"" ++ Text.toString s.root.toText ++ "\"...")
  match ← (g.locate s).observe with
  | .error f => g.giveUp s none f
  | .ok (path, temporary) =>
      match ← (g.work s path).observe with
      | .error f => g.giveUp s temporary f
      | .ok target =>
          g.removeTemporary temporary
          g.voice.info "Generation is completed!"
          pure (some target)

end Generator
end AmbientBundle
