import AmbientBundle.Shell.Expansion

/-!
# Redirections

A redirection leads a channel of a command to a file, to a text, or to where another
channel leads.  First the words of all redirections are replaced, which makes *links*
of them; then the links are made one after the other.

A file that cannot be opened is a fault, but one that need not end the shell: `tryLinks`
tells whether the links could be made.
-/

namespace AmbientBundle
namespace Shell

namespace Redirection

/-- The channel that a word names. -/
def sourceOf (t : Octets) : Run (Option Nat) := do
  let more : Bool := (← Run.shell).dialect = .bash
  match t with
  | ['-'] => return none
  | _ =>
      match Octets.toNat? t with
      | some n =>
          if more || t.length = 1 then return some n else misread
      | none =>
          if more then Run.fault (t ++ ": ambiguous redirect".toList) 1 else misread
where
  /-- Complain about the line that was read last. -/
  misread : Run (Option Nat) := do
    Run.onShell fun s => { s with line := s.upTo }
    Run.fault "Syntax error: Bad fd number".toList

/-- Replace the words of a redirection. -/
def resolve (h : Helper) : Redirect → Run Link
  | .file fd opening w => return .file fd opening (← Expansion.text h w)
  | .copy fd _ w => return .copy fd (← sourceOf (← Expansion.text h w))
  | .document fd n => do
      let w := ((← Run.machine).documents.lookup n).getD []
      return .supply fd (← Expansion.text h w)
  | .line fd w => return .supply fd ((← Expansion.text h w) ++ ['\n'])
  | .all append w => return .all append (← Expansion.text h w)

/-- What is said of a file that cannot be opened. -/
def openFault (dialect : Dialect) (opening : Opening) (name : Octets) (e : Errno) : Octets :=
  match dialect with
  | .bash =>
      let reason := if e = .alreadyExists then "cannot overwrite existing file" else e.text
      name ++ ": ".toList ++ reason.toList
  | .plain =>
      let missing := e = .noEntry || e = .notDirectory
      if opening = .read then
        "cannot open ".toList ++ name ++ ": ".toList ++
          (if missing then "No such file" else e.text).toList
      else
        "cannot create ".toList ++ name ++ ": ".toList ++
          (if missing then "Directory nonexistent" else e.text).toList

/-- The channel that a device stands for. -/
def deviceOf? (name : Octets) : Option Nat :=
  if name = "/dev/stdin".toList then some 0
  else if name = "/dev/stdout".toList then some 1
  else if name = "/dev/stderr".toList then some 2
  else if Text.startsWith name "/dev/fd/".toList then Octets.toNat? (name.drop 8)
  else none

/-- Open a file, and give the number of its channel. -/
def openFile (opening : Opening) (name : Octets) : Run Nat := do
  let s ← Run.shell
  let m ← Run.machine
  let refuse (e : Errno) : Run Nat :=
    Run.fault (openFault s.dialect opening name e) (if s.dialect = .bash then 1 else 2)
  let raw := Octets.toText name
  match opening with
  | .read =>
      match m.tree.statText s.cwd raw with
      | .error e => refuse e
      | .ok (spot, _) => Run.openChannel { target := .file spot.place, reads := true }
  | _ =>
      match m.tree.filePlace s.cwd raw with
      | .error e => refuse e
      | .ok place =>
          let old := m.tree.get? place
          let put (e : Entry) : Run Unit :=
            Run.onMachine fun m => { m with tree := m.tree.put place e }
          match old with
          | some (.file content mode) =>
              if opening = .write && s.flags.noclobber && mode ≠ .sink then refuse .alreadyExists
              else
                if (opening = .write || opening = .clobber) && !content.isEmpty then
                  put (.file [] mode)
                else pure ()
                made place
          | _ => do
              put (.file [])
              made place
where
  /-- The channel to a place. -/
  made (place : List Text) : Run Nat :=
    Run.openChannel
      { target := .file place, append := opening = .append, reads := opening = .both,
        writes := true }

/-- Lead a channel to where another one leads. -/
def copyChannel (fd source : Nat) : Run Unit := do
  match (← Run.shell).channels.lookup source with
  | some id => Run.lead fd id
  | none =>
      let more : Bool := (← Run.shell).dialect = .bash
      Run.fault (Octets.ofNat source ++ ": Bad file descriptor".toList) (if more then 1 else 2)

/-- Lead a channel to a file or a device. -/
def leadToFile (fd : Nat) (opening : Opening) (name : Octets) : Run Unit := do
  match deviceOf? name with
  | some source =>
      if (← Run.shell).channels.any (·.1 = source) then copyChannel fd source
      else Run.lead fd (← openFile opening name)
  | none => Run.lead fd (← openFile opening name)

/-- Make a link. -/
def connect : Link → Run Unit
  | .file fd opening name => leadToFile fd opening name
  | .copy fd none => Run.close fd
  | .copy fd (some source) => copyChannel fd source
  | .supply fd t => do
      let n ← Run.newPipe
      Run.onMachine fun m => { m with pipes := m.pipes.setIfInBounds n ⟨t.length, [t]⟩ }
      Run.lead fd (← Run.openChannel { target := .pipe n, reads := true })
  | .all append name => do
      leadToFile 1 (if append then .append else .write) name
      copyChannel 2 1

/-- Make links, and tell whether all could be made. -/
def tryLinks (links : List Link) : Run Bool := do
  match ← Run.observe (links.forM connect) with
  | none => return true
  | some .failed => return false
  | some stop => throw stop

/-- Do something and lead the channels where they led before. -/
def keepingChannels {α : Type} (act : Run α) : Run α := fun w =>
  let (r, after) := act w
  (r, { after with shell := { after.shell with channels := w.shell.channels } })

/-- Do something with redirections.  If they cannot be made, it is not done. -/
def around (h : Helper) (rs : List Redirect) (act : Run Unit) : Run Unit := do
  if rs.isEmpty then act
  else
    let links ← rs.mapM (resolve h)
    keepingChannels do
      if ← tryLinks links then act

end Redirection
end Shell
end AmbientBundle
