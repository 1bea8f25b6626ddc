import AmbientBundle.Bundle.Alias
import AmbientBundle.Bundle.Block
import AmbientBundle.FileTree.Listing
import AmbientBundle.Import.Resolver
import AmbientBundle.Scratch
import AmbientBundle.Shake

/-!
# Aggregating declarations

The declarations below a scratch directory become one bundle.

1. The entry file gives the main module.
2. Every file is read and named.
3. The scratch directory is cleared, if there is one to clear.  Everything has been
   read by then, so a file that cannot be read leaves the directory as it was.
4. Ambient marks go and relative specifiers become ids.
5. The modules are shaken and written as blocks.
6. The alias and the template follow.

`combined` and `serialize` say what becomes of the texts; the actions around them
keep the journal.
-/

namespace AmbientBundle
namespace Bundle

/-- What to keep and what to add around the blocks. -/
structure Options where
  /-- The entry file, relative to the package. -/
  entry : Value := .text (Text.ofString "index.ts")
  /-- How the modules are pruned. -/
  shake : ShakePolicy := .off
  /-- Whether an alias is added. -/
  withAlias : Bool := true
  /-- The alias used in place of the default one. -/
  customAlias : Value := .null
  /-- The template. -/
  template : Value := .null

/-- A bundle in the making: who reports, how ids are made and what is wanted. -/
structure Aggregator where
  /-- Who reports. -/
  voice : Voice
  /-- How ids are made. -/
  namer : Namer
  /-- What is wanted. -/
  options : Options

/-! ## The main module -/

/-- The id of an entry file, given as a text. -/
def mainOf (n : Namer) (entry : Text) : ModuleId :=
  n.nameOf { base := .root, assumeFile := true } true (n.root.join (Path.parse entry))

namespace Aggregator

/-- The id of the entry file. -/
def mainModule (a : Aggregator) : Action ModuleId := do
  if !a.options.entry.holds then
    a.voice.error "No entry file is available!"
    throw (.settings .noEntry)
  match a.options.entry with
  | .text entry => pure (mainOf a.namer entry)
  | _ => throw (.misuse .type)

/-! ## Reading -/

/-- The files below a directory. -/
def listFiles (a : Aggregator) (dir : Path) : Action (List FoundFile) := do
  a.voice.verbose "Loading list of generated typing files..."
  Action.checkPath a.voice.host dir
  let s ← get
  match Listing.files s.tree (s.spot a.voice.host) dir with
  | .error e =>
      a.voice.error "Failed to load list of generated typing files..."
      a.voice.debug ("Error: " ++ e.message)
      throw (.os e)
  | .ok files =>
      a.voice.verbose "Successfully loaded list of generated typing files!"
      pure files

/-- The texts of some files. -/
def readTexts (a : Aggregator) : List FoundFile → Action (List (Path × Text))
  | [] => pure []
  | f :: rest =>
      match Utf8.decode f.content with
      | none => do
          a.voice.error ("Could not load declaration file '" ++ f.path.toString ++ "'!")
          a.voice.debug ("Error: " ++ elided)
          throw .undecodable
      | some t => do
          let more ← a.readTexts rest
          pure ((f.path, Text.asRead t) :: more)

/-- The declarations of some texts, given which paths lead to a file. -/
def named (n : Namer) (isFile : Text → Bool) (texts : List (Path × Text)) : Declarations :=
  Declarations.ofList (texts.map fun e => (n.name isFile {} e.1.toText, e.2))

/-- The declarations below a directory. -/
def loadDeclarations (a : Aggregator) (dir : Path) : Action Declarations := do
  let files ← a.listFiles dir
  let texts ← a.readTexts files
  a.voice.verbose "Loading declaration files and mapping to modules..."
  let s ← get
  let found := named a.namer (s.tree.isFileText (s.spot a.voice.host)) texts
  a.voice.verbose "Loaded declaration files and mapped to modules!"
  pure found

/-! ## Combining -/

/-- The resolver for the modules of a bundle. -/
def resolver (n : Namer) (d : Declarations) : Import.Resolver := ⟨n, d.ids⟩

/-- The declarations without ambient marks and relative specifiers. -/
def combined (n : Namer) (d : Declarations) : Declarations :=
  d.mapTexts fun m body => (resolver n d).resolve (dropMarks body) m

/-- Report redirects. -/
def reportRedirects (v : Voice) : List Import.Redirect → Action Unit
  | [] => pure ()
  | r :: rest => do
      v.debug ("\"" ++ Text.toString r.owner ++ "\": \"" ++ Text.toString r.specifier ++
        "\" -> \"" ++ Text.toString r.target ++ "\"")
      reportRedirects v rest

/-- Combine the declarations.  Without a working directory no specifier can be redirected. -/
def combine (a : Aggregator) (d : Declarations) : Action Declarations := do
  a.voice.verbose "Combining typings into single file..."
  let redirects := d.entries.flatMap fun e => (resolver a.namer d).redirects (dropMarks e.2) e.1
  Action.needWorkingDir (a.namer.startsInCwd && !redirects.isEmpty)
  reportRedirects a.voice redirects
  pure (combined a.namer d)

/-! ## Shaking -/

/-- Report the modules that a bundle does not hold. -/
def reportSkipped (v : Voice) : List ModuleId → Action Unit
  | [] => pure ()
  | r :: rest => do
      v.debug ("Skipping \"" ++ Text.toString r ++ "\": not part of the bundle")
      reportSkipped v rest

/-- Report what the visited modules refer to. -/
def reportVisits (v : Voice) (d : Declarations) (policy : ShakePolicy) :
    List ModuleId → Action Unit
  | [] => pure ()
  | m :: rest => do
      let refs := Shake.referencesOf d policy m
      v.verbose ("\"" ++ Text.toString m ++ "\" references " ++
        Text.toString (Text.quoteList refs))
      reportSkipped v (refs.reverse.filter fun r => !d.contains r)
      reportVisits v d policy rest

/-- The modules reachable from an entry. -/
def reach (v : Voice) (d : Declarations) (entry : ModuleId) (policy : ShakePolicy) :
    Action (List ModuleId) := do
  match Shake.reachable d entry policy with
  | none => throw (.unknownEntry entry)
  | some ms =>
      if policy ≠ .off then reportVisits v d policy ms
      pure ms

/-- Keep what the main module reaches. -/
def shake (a : Aggregator) (d : Declarations) (main : ModuleId) : Action Declarations := do
  let policy := a.options.shake
  if policy = .off then pure d
  else
    a.voice.verbose ("Shaking typings using the " ++ policy.name ++ " strategy.")
    let kept ← reach a.voice d main policy
    let dropped := d.ids.length - kept.length
    if dropped ≠ 0 then
      a.voice.debug ("Dropped " ++ toString dropped ++ " unreferenced module(s)")
    pure (d.select kept)

/-- Write the blocks. -/
def write (a : Aggregator) (d : Declarations) : Action Text := do
  a.voice.verbose "Combined typings into a single file!"
  pure (serialize d)

/-! ## What follows the blocks -/

/-- Whether an alias of either kind is added. -/
def addsAlias (o : Options) : Bool := o.customAlias.holds || o.withAlias

/-- Add the alias. -/
def addAlias (a : Aggregator) (source : Text) (main : ModuleId) : Action Text := do
  if a.options.customAlias.holds then
    a.voice.verbose "Adding custom alias for main file of the package..."
    match a.options.customAlias with
    | .text form => pure (source ++ '\n' :: fillAlias form a.namer.package main)
    | _ => throw (.misuse .operation)
  else if a.options.withAlias then
    a.voice.verbose "Adding alias for main file of the package..."
    a.voice.verbose "Successfully created alias for main file!"
    pure (source ++ '\n' :: fillAlias defaultAlias a.namer.package main)
  else pure source

/-- Add the template. -/
def addTemplate (a : Aggregator) (source : Text) (main : ModuleId) : Action Text := do
  if a.options.template.holds then
    a.voice.verbose "Adding template"
    match a.options.template with
    | .text template => pure (source ++ '\n' :: fillTemplate template main ++ ['\n'])
    | _ => throw (.misuse .operation)
  else pure source

/-! ## All together -/

/-- The bundle of loaded declarations. -/
def assemble (a : Aggregator) (loaded : Declarations) (main : ModuleId) : Action Text := do
  let d ← a.combine loaded
  let kept ← a.shake d main
  let source ← a.write kept
  if !d.contains main && addsAlias a.options then
    a.voice.warning ("Entry module \"" ++ Text.toString main ++
      "\" was not generated; the alias will not resolve")
  let source ← a.addAlias source main
  a.addTemplate source main

/-- The bundle of the declarations below a directory.  If a scratch directory is given it is
cleared once they are read, and reports in its own voice. -/
def aggregate (a : Aggregator) (dir : Path) (toClear : Option (Voice × Path)) : Action Text := do
  let main ← a.mainModule
  let loaded ← a.loadDeclarations dir
  match toClear with
  | some (voice, path) => Scratch.clear voice path
  | none => pure ()
  a.assemble loaded main

end Aggregator
end Bundle
end AmbientBundle
