import AmbientBundle.Yaml.Error
import AmbientBundle.Yaml.Tag

/-!
# Graphs of nodes

A document is made of nodes: scalars, sequences and mappings, each with a tag and the
place where it starts.  An alias makes a node part of several others, or even of
itself, so the nodes of a document are a graph.  They are numbered, and a collection
holds the numbers of its nodes.
-/

namespace AmbientBundle
namespace Yaml

/-- What a node holds. -/
inductive Content where
  /-- A text. -/
  | scalar (value : Text)
  /-- The numbers of the items. -/
  | sequence (items : List Nat)
  /-- The numbers of the keys and their values. -/
  | mapping (entries : List (Nat × Nat))
  deriving DecidableEq, Repr

/-- The name of a kind of node in messages. -/
def Content.kind : Content → String
  | .scalar _ => "scalar"
  | .sequence _ => "sequence"
  | .mapping _ => "mapping"

/-- Whether a node is a scalar. -/
def Content.isScalar : Content → Bool
  | .scalar _ => true
  | _ => false

/-- A node of a document. -/
structure Node where
  /-- The tag. -/
  tag : Text
  /-- What it holds. -/
  content : Content
  /-- Where it starts. -/
  start : Mark
  deriving DecidableEq, Repr

/-- A scalar that is not written. -/
def Node.nothing (m : Mark) : Node := ⟨Tag.null, .scalar [], m⟩

/-- The nodes of a document; the number of a node is its place among them. -/
structure Graph where
  /-- The nodes. -/
  nodes : Array Node := #[]

namespace Graph

/-- The number of the next node. -/
def size (g : Graph) : Nat := g.nodes.size

/-- The node with a number. -/
def get (g : Graph) (id : Nat) : Node := g.nodes.getD id (Node.nothing {})

/-- Add a node; its number is the size of the graph before. -/
def push (g : Graph) (n : Node) : Graph := ⟨g.nodes.push n⟩

/-- Replace the node with a number. -/
def set (g : Graph) (id : Nat) (n : Node) : Graph := ⟨g.nodes.setIfInBounds id n⟩

/-- Replace what a node holds. -/
def setContent (g : Graph) (id : Nat) (content : Content) : Graph :=
  g.set id { g.get id with content }

/-- The entries of a mapping; other nodes have none. -/
def entries (g : Graph) (id : Nat) : List (Nat × Nat) :=
  match (g.get id).content with
  | .mapping es => es
  | _ => []

end Graph
end Yaml
end AmbientBundle
