import AmbientBundle.Value.Slots
import AmbientBundle.Yaml.Graph.Reading
import AmbientBundle.Yaml.Meaning
import AmbientBundle.Yaml.Merge

/-!
# Documents

What the nodes of a document stand for.  A node is turned into a value by its tag; a
tag without a rule is an error, and so is a key that is a collection.

A scalar has its value at once.  A collection is made empty and filled later, after
all collections that were made before it, so of several errors the one nearest to the
root is reported.  A node that is part of several others is made once, and all of them
hold the same value.

`Document.value` gives the value of a node as it is written: a collection that lies
in itself is cut off there.  A document can be much smaller than what it stands for, so
`Document.glance` gives a value without what lies in it.
-/

namespace AmbientBundle
namespace Yaml

/-- What has been made of a node. -/
inductive Made where
  /-- The value of a scalar.  A value that equals nothing but itself has a number. -/
  | leaf (v : Value) (self : Option Nat)
  /-- A sequence. -/
  | items (ids : List Nat)
  /-- A sequence of pairs. -/
  | pairs (ids : List (Nat × Nat))
  /-- A collection without order. -/
  | members (ids : List Nat)
  /-- A mapping. -/
  | entries (ids : List (Nat × Nat))
  deriving Inhabited, Repr

/-- Whether two keys are the same. -/
def Made.sameKey : Made → Made → Bool
  | .leaf (.float .nan) self, .leaf (.float .nan) self' => self = self'
  | .leaf v _, .leaf v' _ => v.sameKey v'
  | _, _ => false

/-- Whether something is a collection. -/
def Made.isCollection : Made → Bool
  | .leaf .. => false
  | _ => true

/-- A document on the way to values. -/
structure Building where
  /-- The nodes. -/
  graph : Graph
  /-- What has been made of them. -/
  made : Array (Option Made)
  /-- The collections that are to be filled, the last one first. -/
  queue : List Nat := []

/-- A step of building. -/
abbrev Builder := StateT Building (Except Error)

namespace Builder

/-! ## Scalars -/

/-- The error of a tag without a rule. -/
def unknownTag (n : Node) : Error :=
  .form none none
    ("could not determine a constructor for the tag " ++ Text.toString (Text.quote n.tag)) n.start

/-- The error of a node of the wrong kind. -/
def wrongKind (wanted : String) (n : Node) : Error :=
  .form none none ("expected a " ++ wanted ++ " node, but found " ++ n.content.kind) n.start

/-- The value of the first key that is marked as the one that stands for its mapping. -/
def defaultOf? (g : Graph) (es : List (Nat × Nat)) : Option Nat :=
  (es.find? fun e => (g.get e.1).tag = Tag.value).map Prod.snd

/-- The text of a node.  A mapping stands for the text of its default. -/
def textOf (g : Graph) : Nat → Nat → Except Error Text
  | 0, _ => .error (.misuse .depth)
  | steps + 1, id =>
      let n := g.get id
      match n.content with
      | .scalar t => .ok t
      | .sequence _ => .error (wrongKind "scalar" n)
      | .mapping es =>
          match defaultOf? g es with
          | some v => textOf g steps v
          | none => .error (wrongKind "scalar" n)

/-- The value of a node with the tag of a scalar.  A time has to be written as one. -/
def leaf (g : Graph) (id : Nat) : Except Error Made :=
  let n := g.get id
  if (Meaning.of? n.tag [] n.start).isNone then .error (unknownTag n)
  else
    match textOf g (g.size + 1) id with
    | .error e => .error e
    | .ok t =>
        if n.tag = Tag.timestamp ∧ !n.content.isScalar then .error (.misuse .type)
        else
          match Meaning.of? n.tag t n.start with
          | some (.ok v) => .ok (.leaf v (if Meaning.isNoNumber t then none else some id))
          | some (.error e) => .error e
          | none => .error (unknownTag n)

/-! ## Making and filling -/

/-- The empty collection of a tag, if it is one of a collection. -/
def emptyOf? (tag : Text) : Option Made :=
  if tag = Tag.sequence then some (.items [])
  else if tag = Tag.mapping then some (.entries [])
  else if tag = Tag.set then some (.members [])
  else if tag = Tag.orderedMap ∨ tag = Tag.pairs then some (.pairs [])
  else none

/-- Note what has been made of a node. -/
def note (id : Nat) (m : Made) : Builder Unit :=
  modify fun b => { b with made := b.made.setIfInBounds id (some m) }

/-- Make a node, unless it has been made. -/
def make (id : Nat) : Builder Made := do
  let b ← get
  match b.made.getD id none with
  | some m => pure m
  | none =>
      match emptyOf? (b.graph.get id).tag with
      | some m =>
          modify fun b => { b with queue := id :: b.queue }
          note id m
          pure m
      | none =>
          match leaf b.graph id with
          | .error e => throw e
          | .ok m =>
              note id m
              pure m

/-- Make some nodes. -/
def makeAll : List Nat → Builder Unit
  | [] => pure ()
  | id :: rest => do
      let _ ← make id
      makeAll rest

/-- Put an entry into a mapping, at the place that its key already has or else at the end.
The entries are given with what has been made of their keys. -/
def setEntry (k : Nat) (made : Made) (v : Nat) :
    List (Nat × Made × Nat) → List (Nat × Made × Nat)
  | [] => [(k, made, v)]
  | (k', made', v') :: rest =>
      if made'.sameKey made then (k', made', v) :: rest
      else (k', made', v') :: setEntry k made v rest

/-- Make the entries of a mapping. -/
def makeEntries (owner : Mark) (acc : List (Nat × Made × Nat)) :
    List (Nat × Nat) → Builder (List (Nat × Nat))
  | [] => pure (acc.map fun (k, _, v) => (k, v))
  | (k, v) :: rest => do
      let made ← make k
      if made.isCollection then
        throw (.form (some "while constructing a mapping") (some owner) "found unhashable key"
          ((← get).graph.get k).start)
      let _ ← make v
      makeEntries owner (setEntry k made v acc) rest

/-- Make the entries of a node that has to be a mapping. -/
def fillMapping (steps id : Nat) : Builder (List (Nat × Nat)) := do
  let b ← get
  let n := b.graph.get id
  match n.content with
  | .mapping _ =>
      match Merge.flattenFrom id [] steps b.graph with
      | .error e => throw e
      | .ok graph =>
          set { b with graph }
          makeEntries n.start [] (graph.entries id)
  | _ => throw (wrongKind "mapping" n)

/-- Make the pairs that a sequence of mappings of one entry stands for. -/
def makePairs (context : String) (owner : Mark) : List Nat → Builder (List (Nat × Nat))
  | [] => pure []
  | id :: rest => do
      let n := (← get).graph.get id
      let refuse (problem : String) : Error := .form (some context) (some owner) problem n.start
      match n.content with
      | .mapping [(k, v)] =>
          let _ ← make k
          let _ ← make v
          let more ← makePairs context owner rest
          pure ((k, v) :: more)
      | .mapping es =>
          throw (refuse
            ("expected a single mapping item, but found " ++ toString es.length ++ " items"))
      | c => throw (refuse ("expected a mapping of length 1, but found " ++ c.kind))

/-- Make the pairs of a node that has to be a sequence. -/
def fillPairs (context : String) (id : Nat) : Builder (List (Nat × Nat)) := do
  let n := (← get).graph.get id
  match n.content with
  | .sequence ids => makePairs context n.start ids
  | c =>
      throw (.form (some context) (some n.start) ("expected a sequence, but found " ++ c.kind)
        n.start)

/-- Fill a collection. -/
def fill (steps id : Nat) : Builder Unit := do
  let n := (← get).graph.get id
  if n.tag = Tag.sequence then
    match n.content with
    | .sequence ids =>
        makeAll ids
        note id (.items ids)
    | _ => throw (wrongKind "sequence" n)
  else if n.tag = Tag.mapping then note id (.entries (← fillMapping steps id))
  else if n.tag = Tag.set then note id (.members ((← fillMapping steps id).map Prod.fst))
  else if n.tag = Tag.orderedMap then
    note id (.pairs (← fillPairs "while constructing an ordered map" id))
  else note id (.pairs (← fillPairs "while constructing pairs" id))

/-- Fill some collections. -/
def fillAll (steps : Nat) : List Nat → Builder Unit
  | [] => pure ()
  | id :: rest => do
      fill steps id
      fillAll steps rest

/-- Fill the collections that wait, then those that were made meanwhile, and so on. -/
def settle (steps : Nat) : Nat → Builder Unit
  | 0 => pure ()
  | rounds + 1 => do
      let b ← get
      if b.queue ≠ [] then
        set { b with queue := [] }
        fillAll steps b.queue.reverse
        settle steps rounds

end Builder

/-! ## Values -/

/-- A document: what has been made of its nodes, and the number of the outermost one. -/
structure Document where
  /-- What has been made. -/
  made : Array (Option Made)
  /-- The outermost node. -/
  root : Nat

namespace Document

/-- What has been made of a node. -/
def get (d : Document) (id : Nat) : Made := (d.made.getD id none).getD (.leaf .null none)

/-- The value of a node that is a key. -/
def keyValue (d : Document) (id : Nat) : Value :=
  match d.get id with
  | .leaf v _ => v
  | _ => .null

/-- The value of a node inside some collections.  A step goes one collection deeper, and no
collection is entered twice. -/
def valueIn (d : Document) : Nat → List Nat → Nat → Value
  | 0, _, _ => .null
  | steps + 1, around, id =>
      let inner := valueIn d steps (id :: around)
      match d.get id with
      | .leaf v _ => v
      | .items ids => if around.contains id then .again false else .list (ids.map inner)
      | .pairs ids =>
          if around.contains id then .again false
          else .list (ids.map fun (k, v) => .tuple [inner k, inner v])
      | .members ids => .set (Slots.order (ids.map d.keyValue))
      | .entries ids =>
          if around.contains id then .again true
          else .map (ids.map fun (k, v) => (d.keyValue k, inner v))

/-- The value of a node. -/
def value (d : Document) (id : Nat) : Value := d.valueIn (d.made.size + 2) [] id

/-- The value of a node without what lies in it: a collection is shown empty. -/
def glance (d : Document) (id : Nat) : Value :=
  match d.get id with
  | .leaf v _ => v
  | _ => .list []

/-- The keys of a document that is a mapping, each with the number of its value. -/
def entries? (d : Document) : Option (List (Value × Nat)) :=
  match d.get d.root with
  | .entries ids => some (ids.map fun (k, v) => (d.keyValue k, v))
  | _ => none

/-- The document that a node is the outermost one of. -/
def ofGraph (g : Graph) (root : Nat) : Except Error Document :=
  let start : Building := { graph := g, made := Array.replicate g.size none }
  let build : Builder Unit := do
    let _ ← Builder.make root
    Builder.settle (Merge.stepsFor g) (g.size + 1)
  match build.run start with
  | .error e => .error e
  | .ok (_, b) => .ok ⟨b.made, root⟩

/-- The document of a text, if there is one. -/
def ofText (halves : Halves) (t : Text) : Except Error (Option Document) :=
  match Graph.ofText halves t with
  | .error e => .error e
  | .ok none => .ok none
  | .ok (some (g, root)) =>
      match ofGraph g root with
      | .error e => .error e
      | .ok d => .ok (some d)

end Document
end Yaml
end AmbientBundle
