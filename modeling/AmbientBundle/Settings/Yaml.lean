import AmbientBundle.Settings
import AmbientBundle.Yaml.Document

/-!
# Project files in YAML

A project file is written in YAML.  `yaml` reads it as a mapping, as far as settings look at it: a
collection is read as an empty one unless its key means an option that takes the text of any value.
A collection may repeat another one many times, so its text is much longer than the file.
-/

namespace AmbientBundle

/-- Whether the text of any value is used for an option; the others take no collections. -/
def Field.takesAny : Field → Bool
  | .root => true
  | .tmp => true
  | .logFile => true
  | .logLevel => true
  | _ => false

namespace Settings

/-- The value of an entry, as far as settings look at it. -/
def entryValue (halves : Halves) (d : Yaml.Document) (key : Value) (id : Nat) : Value :=
  match Field.ofKey? (key.shownWith halves.quote) with
  | some f => if f.takesAny then d.value id else d.glance id
  | none => d.glance id

/-- The value that a text in YAML stands for, as far as settings look at it. -/
def yaml (halves : Halves) (t : Text) : Except ReadingFault Value :=
  match Yaml.Document.ofText halves t with
  | .error (.misuse how) => .error (.misuse how)
  | .error e => .error (.malformed (e.message t))
  | .ok none => .ok .null
  | .ok (some d) =>
      match d.entries? with
      | some es => .ok (.map (es.map fun e => (e.1, entryValue halves d e.1 e.2)))
      | none => .ok (d.glance d.root)

end Settings
end AmbientBundle
