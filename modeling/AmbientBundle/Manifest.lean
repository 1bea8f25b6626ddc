import AmbientBundle.Fault
import AmbientBundle.Json
import AmbientBundle.Text.Blank
import AmbientBundle.Text.Lines

/-!
# Manifests

A package says its name in `package.json`.  Of the object found there the name is
needed, which has to be a text with something in it, and the version if it is a
text.
-/

namespace AmbientBundle

/-- What a package says about itself. -/
structure Manifest where
  /-- The name, without white space around it. -/
  name : Text
  /-- The version. -/
  version : Option Text
  /-- Everything that was said. -/
  fields : List (Value × Value)
  deriving Repr

namespace Manifest

/-- The name of the file. -/
def fileName : Text := Text.ofString "package.json"

/-- The value of a key that is a text. -/
def field? (fields : List (Value × Value)) (key : Text) : Option Value :=
  match fields with
  | [] => none
  | (.text k, v) :: rest => if k = key then some v else field? rest key
  | _ :: rest => field? rest key

/-- The name a value gives to a package. -/
def nameOf? : Option Value → Option Text
  | some (.text t) => if Text.strip t = [] then none else some (Text.strip t)
  | _ => none

/-- The manifest a value stands for. -/
def ofValue (path : Path) : Value → Except ManifestFault Manifest
  | .map fields =>
      match nameOf? (field? fields (Text.ofString "name")) with
      | none => .error (.nameless path)
      | some name =>
          .ok ⟨name, (field? fields (Text.ofString "version")).bind Value.text?, fields⟩
  | _ => .error (.notObject path)

/-- The JSON value of the bytes of a manifest. -/
def parse (halves : Halves) (path : Path) (content : Bytes) : Except Fault Value :=
  match Utf8.decode content with
  | none => .error .undecodable
  | some t =>
      match Json.read halves (Text.asRead t) with
      | .error .malformed => .error (.manifest (.malformed path))
      | .error .tooLong => .error (.misuse .range)
      | .error .tooDeep => .error (.misuse .depth)
      | .ok v => .ok v

end Manifest
end AmbientBundle
