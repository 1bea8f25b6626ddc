import AmbientBundle.Yaml.Graph
import AmbientBundle.Yaml.Token.Stream

/-!
# Reading documents

`Graph.ofText` reads a text that holds one document at most.

The reader takes the tokens of a stream one by one, numbers the nodes as they start
and remembers the anchors it has met; an alias stands for the node of its anchor.  A
node has its number before what lies in it is read, so an alias may stand inside of
what it names.

Every step that goes deeper or further uses up one of a number of steps that is larger
than the text is long.  Collections may not lie in one another without end.
-/

namespace AmbientBundle
namespace Yaml

/-- How many collections may lie in one another. -/
def nestingLimit : Nat := 490

/-- A document on the way to nodes. -/
structure Reading where
  /-- The tokens. -/
  stream : Stream
  /-- The nodes so far. -/
  graph : Graph := {}
  /-- How many collections are open. -/
  nesting : Nat := 0
  /-- The nodes with an anchor. -/
  anchors : List (Text × Nat) := []
  /-- The meaning of the tag handles. -/
  handles : List (Text × Text) := []

/-- A step of reading. -/
abbrev Reader := StateT Reading (Except Error)

namespace Reader

/-- The next token. -/
def peek : Reader Token := do
  let r ← get
  match r.stream.ready with
  | .error e => throw e
  | .ok stream =>
      set { r with stream }
      pure stream.head

/-- Take the next token. -/
def next : Reader Token := do
  let t ← peek
  modify fun r => { r with stream := r.stream.take }
  pure t

/-- Whether the next token is one of some. -/
def at? (ls : List Lexeme) : Reader Bool := do
  let t ← peek
  pure (ls.contains t.lexeme)

/-- Stop with an error at a place. -/
def fail {α : Type} (context : Option String) (opened : Option Mark) (problem : String)
    (m : Mark) : Reader α :=
  throw (.form context opened problem m)

/-! ## Properties of nodes -/

/-- What stands before the content of a node. -/
structure Properties where
  /-- The anchor. -/
  anchor : Option Text := none
  /-- The handle and suffix of the tag, and where it stands. -/
  tag : Option (Option Text × Text × Mark) := none
  /-- Where the first of them starts. -/
  start : Option Mark := none

/-- Read an anchor and a tag, in either order. -/
def properties : Reader Properties := do
  let t ← peek
  match t.lexeme with
  | .anchor a =>
      let _ ← next
      let u ← peek
      match u.lexeme with
      | .tag h s =>
          let _ ← next
          pure ⟨some a, some (h, s, u.start), some t.start⟩
      | _ => pure ⟨some a, none, some t.start⟩
  | .tag h s =>
      let _ ← next
      let u ← peek
      match u.lexeme with
      | .anchor a =>
          let _ ← next
          pure ⟨some a, some (h, s, t.start), some t.start⟩
      | _ => pure ⟨none, some (h, s, t.start), some t.start⟩
  | _ => pure {}

/-- The tag that properties give, with its handle replaced by its meaning. -/
def fullTag (p : Properties) : Reader (Option Text) := do
  match p.tag with
  | none => pure none
  | some (none, suffix, _) => pure (some suffix)
  | some (some handle, suffix, m) =>
      match (← get).handles.lookup handle with
      | some front => pure (some (front ++ suffix))
      | none =>
          fail (some "while parsing a node") p.start
            ("found undefined tag handle " ++ Text.toString (Text.quote handle)) m

/-- Stop if an anchor has been met before. -/
def checkAnchor (anchor : Option Text) (m : Mark) : Reader Unit := do
  match anchor with
  | none => pure ()
  | some a =>
      let r ← get
      match r.anchors.lookup a with
      | none => pure ()
      | some first =>
          fail
            (some ("found duplicate anchor " ++ Text.toString (Text.quote a) ++
              "; first occurrence"))
            (some (r.graph.get first).start) "second occurrence" m

/-- Number a node, and remember its number under its anchor. -/
def number (anchor : Option Text) (n : Node) : Reader Nat :=
  modifyGet fun r =>
    let id := r.graph.size
    let anchors :=
      match anchor with
      | none => r.anchors
      | some a => (a, id) :: r.anchors
    (id, { r with graph := r.graph.push n, anchors })

/-- Number a scalar that is not written. -/
def nothing (m : Mark) : Reader Nat := number none (Node.nothing m)

/-- Whether a tag leaves the choice to the form of the node. -/
def isOpen (tag : Option Text) : Bool := tag = none || tag = some ['!']

/-- The node of a scalar token. -/
def scalarNode (tag : Option Text) (value : Text) (plain : Bool) (m : Mark) : Node :=
  match tag with
  | none => ⟨if plain then Tag.ofPlain value else Tag.text, .scalar value, m⟩
  | some t => ⟨if t = ['!'] then Tag.ofPlain value else t, .scalar value, m⟩

/-- The tag of a collection. -/
def collectionTag (tag : Option Text) (dflt : Text) : Text :=
  if isOpen tag then dflt else tag.getD dflt

/-- Number a collection, read what lies in it, and fill it. -/
def collection (anchor : Option Text) (tag : Text) (m : Mark) (empty : Content)
    (body : Reader Content) : Reader Nat := do
  if nestingLimit ≤ (← get).nesting then throw (.misuse .depth)
  let id ← number anchor ⟨tag, empty, m⟩
  modify fun r => { r with nesting := r.nesting + 1 }
  let content ← body
  modify fun r => { r with nesting := r.nesting - 1, graph := r.graph.setContent id content }
  pure id

/-! ## Content of nodes -/

/-- Where a node stands, which decides what it may be. -/
inductive Place where
  /-- Between brackets. -/
  | flow
  /-- In a block. -/
  | block
  /-- In a block, as a key or a value: a sequence need not be indented. -/
  | entry
  deriving DecidableEq, Repr

mutual

/-- A node. -/
def node (place : Place) : Nat → Reader Nat
  | 0 => fail none none "" {}
  | steps + 1 => do
      let t ← peek
      match t.lexeme with
      | .again a =>
          let _ ← next
          match (← get).anchors.lookup a with
          | some n => pure n
          | none =>
              fail none none ("found undefined alias " ++ Text.toString (Text.quote a)) t.start
      | _ =>
          let p ← properties
          let tag ← fullTag p
          let t ← peek
          let start := p.start.getD t.start
          let sequence (items : Reader (List Nat)) : Reader Nat := do
            checkAnchor p.anchor start
            collection p.anchor (collectionTag tag Tag.sequence) start (.sequence [])
              (.sequence <$> items)
          let mapping (entries : Reader (List (Nat × Nat))) : Reader Nat := do
            checkAnchor p.anchor start
            collection p.anchor (collectionTag tag Tag.mapping) start (.mapping [])
              (.mapping <$> entries)
          match t.lexeme, place with
          | .blockEntry, .entry => sequence (looseItems steps)
          | .scalar value plain, _ =>
              let _ ← next
              checkAnchor p.anchor start
              number p.anchor (scalarNode tag value plain start)
          | .flowSequenceStart, _ => sequence do
              let _ ← next
              flowItems t.start true steps
          | .flowMappingStart, _ => mapping do
              let _ ← next
              flowEntries t.start true steps
          | lexeme, place =>
              if lexeme = .sequenceStart ∧ place ≠ .flow then sequence do
                let _ ← next
                blockItems t.start steps
              else if lexeme = .mappingStart ∧ place ≠ .flow then mapping do
                let _ ← next
                blockEntries t.start steps
              else if p.anchor.isSome || p.tag.isSome then do
                checkAnchor p.anchor start
                number p.anchor (scalarNode tag [] true start)
              else
                fail
                  (some ("while parsing a " ++ (if place = .flow then "flow" else "block") ++
                    " node"))
                  (some start) ("expected the node content, but found " ++ t.quoted) t.start

/-- A node, or nothing before one of some tokens. -/
def nodeUnless (place : Place) (stops : List Lexeme) (m : Mark) : Nat → Reader Nat
  | 0 => fail none none "" {}
  | steps + 1 => do
      if ← at? stops then nothing m else node place steps

/-- The items of a block sequence. -/
def blockItems (opened : Mark) : Nat → Reader (List Nat)
  | 0 => pure []
  | steps + 1 => do
      let t ← next
      if t.lexeme = .blockEntry then do
        let item ← nodeUnless .block [.blockEntry, .blockEnd] t.stop steps
        let more ← blockItems opened steps
        pure (item :: more)
      else if t.lexeme = .blockEnd then pure []
      else
        fail (some "while parsing a block collection") (some opened)
          ("expected <block end>, but found " ++ t.quoted) t.start

/-- The items of a block sequence that is not indented. -/
def looseItems : Nat → Reader (List Nat)
  | 0 => pure []
  | steps + 1 => do
      let t ← peek
      if t.lexeme = .blockEntry then do
        let _ ← next
        let item ← nodeUnless .block [.blockEntry, .key, .value, .blockEnd] t.stop steps
        let more ← looseItems steps
        pure (item :: more)
      else pure []

/-- The value that belongs to a key. -/
def entryValue (place : Place) (stops : List Lexeme) : Nat → Reader Nat
  | 0 => fail none none "" {}
  | steps + 1 => do
      let t ← peek
      if t.lexeme = .value then do
        let _ ← next
        nodeUnless place stops t.stop steps
      else nothing t.start

/-- The entries of a block mapping. -/
def blockEntries (opened : Mark) : Nat → Reader (List (Nat × Nat))
  | 0 => pure []
  | steps + 1 => do
      let t ← peek
      if t.lexeme = .key then do
        let _ ← next
        let k ← nodeUnless .entry [.key, .value, .blockEnd] t.stop steps
        let v ← entryValue .entry [.key, .value, .blockEnd] steps
        let more ← blockEntries opened steps
        pure ((k, v) :: more)
      else if t.lexeme = .blockEnd then do
        let _ ← next
        pure []
      else
        fail (some "while parsing a block mapping") (some opened)
          ("expected <block end>, but found " ++ t.quoted) t.start

/-- The items of a flow sequence.  A key between the brackets makes a mapping of one entry. -/
def flowItems (opened : Mark) (first : Bool) : Nat → Reader (List Nat)
  | 0 => pure []
  | steps + 1 => do
      let t ← peek
      if t.lexeme = .flowSequenceEnd then do
        let _ ← next
        pure []
      else do
        if !first then
          if t.lexeme = .flowEntry then
            let _ ← next
          else
            fail (some "while parsing a flow sequence") (some opened)
              ("expected ',' or ']', but got " ++ t.quoted) t.start
        let t ← peek
        if t.lexeme = .key then do
          let _ ← next
          let pair ← collection none Tag.mapping t.start (.mapping []) do
            let k ← nodeUnless .flow [.value, .flowEntry, .flowSequenceEnd] t.stop steps
            let v ← entryValue .flow [.flowEntry, .flowSequenceEnd] steps
            pure (.mapping [(k, v)])
          let more ← flowItems opened false steps
          pure (pair :: more)
        else if t.lexeme = .flowSequenceEnd then do
          let _ ← next
          pure []
        else do
          let item ← node .flow steps
          let more ← flowItems opened false steps
          pure (item :: more)

/-- The entries of a flow mapping. -/
def flowEntries (opened : Mark) (first : Bool) : Nat → Reader (List (Nat × Nat))
  | 0 => pure []
  | steps + 1 => do
      let t ← peek
      if t.lexeme = .flowMappingEnd then do
        let _ ← next
        pure []
      else do
        if !first then
          if t.lexeme = .flowEntry then
            let _ ← next
          else
            fail (some "while parsing a flow mapping") (some opened)
              ("expected ',' or '\x7d', but got " ++ t.quoted) t.start
        let t ← peek
        if t.lexeme = .key then do
          let _ ← next
          let k ← nodeUnless .flow [.value, .flowEntry, .flowMappingEnd] t.stop steps
          let v ← entryValue .flow [.flowEntry, .flowMappingEnd] steps
          let more ← flowEntries opened false steps
          pure ((k, v) :: more)
        else if t.lexeme = .flowMappingEnd then do
          let _ ← next
          pure []
        else do
          let k ← node .flow steps
          let v ← nothing (← peek).start
          let more ← flowEntries opened false steps
          pure ((k, v) :: more)

end

/-! ## Documents -/

/-- The tag handles that need no directive. -/
def standardHandles : List (Text × Text) := [(['!'], ['!']), (['!', '!'], Tag.standardStart)]

/-- Read the directives of a document. -/
def directives : Nat → Bool → List (Text × Text) → Reader Unit
  | 0, _, _ => pure ()
  | steps + 1, versioned, handles => do
      let t ← peek
      match t.lexeme with
      | .version major =>
          let _ ← next
          if versioned then fail none none "found duplicate YAML directive" t.start
          else if major ≠ 1 then
            fail none none "found incompatible YAML document (version 1.* is required)" t.start
          else directives steps true handles
      | .tagHandle handle front =>
          let _ ← next
          if (handles.lookup handle).isSome then
            fail none none ("duplicate tag handle " ++ Text.toString (Text.quote handle)) t.start
          else directives steps versioned ((handle, front) :: handles)
      | .directive =>
          let _ ← next
          directives steps versioned handles
      | _ => modify fun r => { r with handles := handles ++ standardHandles }

/-- Skip the marks that end a document. -/
def skipEnds : Nat → Reader Unit
  | 0 => pure ()
  | steps + 1 => do
      let t ← peek
      if t.lexeme = .documentEnd then
        let _ ← next
        skipEnds steps

/-- Go to the content of an explicit document, if there is one, and say where it starts. -/
def openDocument (steps : Nat) : Reader (Option Mark) := do
  skipEnds steps
  let t ← peek
  if t.lexeme = .streamEnd then pure none
  else
    directives steps false []
    let u ← next
    if u.lexeme = .documentStart then pure (some t.start)
    else fail none none ("expected '<document start>', but found " ++ u.quoted) u.start

/-- The content of an explicit document. -/
def content (steps : Nat) : Reader Nat := do
  let t ← peek
  if t.isDirective || t.lexeme = .documentStart || t.lexeme = .documentEnd ||
      t.lexeme = .streamEnd then nothing t.start
  else node .block steps

/-- The only document of a stream, if there is one. -/
def document (steps : Nat) : Reader (Option Nat) := do
  let _ ← next
  let t ← peek
  let found ←
    if t.isDirective || t.lexeme = .documentStart || t.lexeme = .streamEnd then do
      match ← openDocument steps with
      | none => pure none
      | some _ => some <$> content steps
    else do
      modify fun r => { r with handles := standardHandles }
      some <$> node .block steps
  match found with
  | none => pure none
  | some n =>
      match ← openDocument steps with
      | none => pure (some n)
      | some m =>
          fail (some "expected a single document in the stream")
            (some ((← get).graph.get n).start)
            "but found another document" m

end Reader

/-- The nodes of a text and the number of the outermost one, if the text holds a document. -/
def Graph.ofText (halves : Halves) (t : Text) : Except Error (Option (Graph × Nat)) :=
  match forbidden? 0 t with
  | some (c, position) => .error (.character c.toNat position)
  | none =>
      match (Reader.document (8 * t.length + 16)).run { stream := Stream.ofText halves t } with
      | .error e => .error e
      | .ok (root, r) => .ok (root.map fun id => (r.graph, id))

end Yaml
end AmbientBundle
