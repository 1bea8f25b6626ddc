import AmbientBundle.Yaml.Graph

/-!
# Merging

A mapping can take over the entries of other mappings: the value under a merge key is
a mapping or a sequence of mappings, and their entries come before the entries of the
mapping itself, which count more.  Of a sequence the first mapping counts most, so it
comes last.

A mapping that is merged is flattened first.  Its merge entry is taken out before
that, so a mapping that is merged into itself adds the entries it has left.
-/

namespace AmbientBundle
namespace Yaml
namespace Merge

/-- The first merge entry of a mapping, and the other entries. -/
def takeFirst? (g : Graph) : List (Nat × Nat) → Option (Nat × List (Nat × Nat))
  | [] => none
  | (k, v) :: rest =>
      if (g.get k).tag = Tag.merge then some (v, rest)
      else (takeFirst? g rest).map fun (found, others) => (found, (k, v) :: others)

/-- The error of a merge that is no mapping. -/
def refuse (owner : Mark) (wanted : String) (n : Node) : Error :=
  .form (some "while constructing a mapping") (some owner)
    ("expected " ++ wanted ++ " for merging, but found " ++ n.content.kind) n.start

/-- Keys that are marked as values are texts where they are keys. -/
def nameKeys (g : Graph) (es : List (Nat × Nat)) : Graph :=
  es.foldl
    (fun g e =>
      let n := g.get e.1
      if n.tag = Tag.value then g.set e.1 { n with tag := Tag.text } else g)
    g

/-- Put merged entries in front of those that a mapping has left. -/
def finish (g : Graph) (id : Nat) (merged : List (Nat × Nat)) : Graph :=
  let own := g.entries id
  (nameKeys g own).setContent id (.mapping (merged ++ own))

mutual

/-- Flatten a mapping, given the entries that were merged into it so far. -/
def flattenFrom (id : Nat) (merged : List (Nat × Nat)) : Nat → Graph → Except Error Graph
  | 0, _ => .error (.misuse .depth)
  | steps + 1, g =>
      match takeFirst? g (g.entries id) with
      | none => .ok (finish g id merged)
      | some (source, others) =>
          let g := g.setContent id (.mapping others)
          let owner := (g.get id).start
          match (g.get source).content with
          | .mapping _ =>
              match flattenFrom source [] steps g with
              | .error e => .error e
              | .ok g => flattenFrom id (merged ++ g.entries source) steps g
          | .sequence items =>
              match flattenAll owner [] steps items g with
              | .error e => .error e
              | .ok (entries, g) => flattenFrom id (merged ++ entries) steps g
          | .scalar _ => .error (refuse owner "a mapping or list of mappings" (g.get source))

/-- Flatten the mappings of a sequence, and give their entries, those of the last one first. -/
def flattenAll (owner : Mark) (later : List (Nat × Nat)) :
    Nat → List Nat → Graph → Except Error (List (Nat × Nat) × Graph)
  | _, [], g => .ok (later, g)
  | 0, _, _ => .error (.misuse .depth)
  | steps + 1, item :: rest, g =>
      match (g.get item).content with
      | .mapping _ =>
          match flattenFrom item [] steps g with
          | .error e => .error e
          | .ok g => flattenAll owner (g.entries item ++ later) steps rest g
      | _ => .error (refuse owner "a mapping" (g.get item))

end

/-- A number of steps that is enough to flatten any mapping of a graph: every step takes a merge
entry out or goes to the next item of a sequence that is merged. -/
def stepsFor (g : Graph) : Nat :=
  let count (n : Nat × Nat) (node : Node) : Nat × Nat :=
    match node.content with
    | .mapping es => (n.1 + es.length, n.2)
    | .sequence items => (n.1, n.2 + items.length)
    | .scalar _ => n
  let (entries, items) := g.nodes.foldl count (0, 0)
  (entries + 1) * (items + 2)

end Merge
end Yaml
end AmbientBundle
