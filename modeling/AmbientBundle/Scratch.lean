import AmbientBundle.Number.Binary64
import AmbientBundle.Session

/-!
# The scratch directory

The compiler writes its declarations into a scratch directory.  `make` makes it with
everything above it and tries again a few times where that fails, with a pause
between two tries.  `clear` removes it with everything below it, and is content if
it is not there.  `reset` does both.  Directories that lie too deep in one another are a
fault of another kind, after which nothing is tried again or reported.

Whether the directory has been cleared since it was made is remembered in the
session, so that a failed run knows whether there is something to clean up.
-/

namespace AmbientBundle
namespace Scratch

/-- A number of seconds. -/
inductive Seconds where
  /-- A whole number. -/
  | whole (n : Int)
  /-- Any number. -/
  | real (x : Binary64)
  deriving DecidableEq, Repr

/-- The milliseconds of some seconds, without a fraction.  There are none of an infinity and of
what is no number. -/
def Seconds.milliseconds : Seconds → Except Misuse Int
  | .whole n => .ok (n * 1000)
  | .real x =>
      let ms := x.mul (Binary64.ofRatio false 1000 1)
      match ms.truncate? with
      | some n => .ok n
      | none => .error (if ms = .nan then .range else .size)

/-- How often to try and how long to wait. -/
structure Patience where
  /-- The tries after the first one. -/
  retries : Int := 5
  /-- The time between two tries. -/
  delay : Seconds := .real (Binary64.ofDecimal false 1 (-1))

/-- Remember whether the scratch directory has been cleared. -/
def mark (emptied : Bool) : Action Unit :=
  modify fun s => { s with scratch := s.scratch.map fun d => { d with emptied } }

/-- Wait, while others may change the tree. -/
def wait (host : Host) : Action Unit :=
  modify fun s =>
    { s.withTree host (host.pause (s.pauses + 1) s.tree) with pauses := s.pauses + 1 }

/-- Try once to make the directory, and say whether it is there now. -/
def attempt (v : Voice) (path : Path) : Action Bool := do
  Action.checkPath v.host path
  match ← Action.makeDirs v.host path with
  | .ok () =>
      mark false
      v.verbose "\"tmp\" directory was prepared!"
      pure true
  | .error e =>
      v.error ("Failed to create \"" ++ path.toString ++ "\"!")
      v.debug ("Error: " ++ e.message)
      pure false

/-- Try to make the directory, with some tries left after this one. -/
def makeWith (v : Voice) (patience : Patience) (path : Path) : Nat → Action Path
  | 0 => do
      if ← attempt v path then pure path
      else
        v.error ("Stopped trying after " ++ toString patience.retries ++ " retries!")
        throw (.scratch (.notMade path))
  | left + 1 => do
      if ← attempt v path then pure path
      else
        match patience.delay.milliseconds with
        | .error how => throw (.misuse how)
        | .ok ms => v.verbose ("Will retry in " ++ toString ms ++ "ms...")
        wait v.host
        makeWith v patience path left

/-- Make the directory. -/
def make (v : Voice) (patience : Patience) (path : Path) : Action Path := do
  v.verbose "Preparing \"tmp\" directory..."
  makeWith v patience path patience.retries.toNat

/-- Remove the directory with everything below it. -/
def clear (v : Voice) (path : Path) : Action Unit := do
  v.verbose "Cleaning up \"tmp\" directory..."
  Action.checkPath v.host path
  match ← Action.removeTree v.host path with
  | .ok () => pure ()
  | .error e =>
      if e.errno ≠ .noEntry then
        v.error ("Could not clean up \"tmp\" directory at \"" ++ path.toString ++ "\"!")
        v.debug ("Error: " ++ e.message)
        throw (.scratch (.notRemoved path))
  mark true
  v.verbose "\"tmp\" directory was cleaned!"

/-- Make the directory anew. -/
def reset (v : Voice) (patience : Patience) (path : Path) : Action Path := do
  v.verbose "Will now reset \"tmp\" directory..."
  clear v path
  make v patience path

end Scratch
end AmbientBundle
