import AmbientBundle.Yaml.Cursor

/-!
# Tokens

The words of a YAML text.  A block has a start and an end that are not written but
follow from the indentation, and a key of a mapping is a token of its own, found by
looking ahead to its colon.
-/

namespace AmbientBundle
namespace Yaml

/-- What a token is. -/
inductive Lexeme where
  | streamStart
  | streamEnd
  /-- A version directive. -/
  | version (major : Nat)
  /-- A directive that gives a tag handle its meaning. -/
  | tagHandle (handle tagStart : Text)
  /-- Any other directive. -/
  | directive
  | documentStart
  | documentEnd
  | sequenceStart
  | mappingStart
  | blockEnd
  | flowSequenceStart
  | flowSequenceEnd
  | flowMappingStart
  | flowMappingEnd
  | key
  | value
  | blockEntry
  | flowEntry
  | again (name : Text)
  | anchor (name : Text)
  | tag (handle : Option Text) (suffix : Text)
  | scalar (value : Text) (plain : Bool)
  deriving DecidableEq, Inhabited, Repr

/-- The name of a token in messages. -/
def Lexeme.name : Lexeme → String
  | .streamStart => "<stream start>"
  | .streamEnd => "<stream end>"
  | .version _ => "<directive>"
  | .tagHandle .. => "<directive>"
  | .directive => "<directive>"
  | .documentStart => "<document start>"
  | .documentEnd => "<document end>"
  | .sequenceStart => "<block sequence start>"
  | .mappingStart => "<block mapping start>"
  | .blockEnd => "<block end>"
  | .flowSequenceStart => "["
  | .flowSequenceEnd => "]"
  | .flowMappingStart => "\x7b"
  | .flowMappingEnd => "\x7d"
  | .key => "?"
  | .value => ":"
  | .blockEntry => "-"
  | .flowEntry => ","
  | .again _ => "<alias>"
  | .anchor _ => "<anchor>"
  | .tag .. => "<tag>"
  | .scalar .. => "<scalar>"

/-- A token and where it stands. -/
structure Token where
  /-- What it is. -/
  lexeme : Lexeme
  /-- Where it starts. -/
  start : Mark
  /-- Where it ends. -/
  stop : Mark
  deriving DecidableEq, Inhabited, Repr

/-- The name of a token in quotes. -/
def Token.quoted (t : Token) : String := "'" ++ t.lexeme.name ++ "'"

/-- Whether a token is a directive. -/
def Token.isDirective (t : Token) : Bool :=
  match t.lexeme with
  | .version _ => true
  | .tagHandle .. => true
  | .directive => true
  | _ => false

end Yaml
end AmbientBundle
