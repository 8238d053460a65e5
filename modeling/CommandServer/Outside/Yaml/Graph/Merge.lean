/-
Merging mappings. The value of a merge key is a mapping, or a sequence of mappings, whose entries
come before those of the mapping that the key stands in. Merging is done once: it changes the
mapping for everyone who refers to it, and so an alias sees what has been merged so far.
-/
import CommandServer.Outside.Yaml.Graph
import CommandServer.Outside.Yaml.Token

namespace CommandServer.Yaml.Graph

/-- The value of the first merge key of a mapping, and the graph without that entry. -/
def takeMerge? (n : NodeId) (g : Graph) : Option (NodeId × Graph) :=
  let es := g.entries n
  (es.find? fun e => g.type e.1 == .merge).map fun e =>
    let before := es.takeWhile fun e => g.type e.1 != .merge
    (e.2, g.setContent n (.mapping (before ++ es.drop (before.length + 1))))

/-- As a key of a mapping, the sign of a default value is a text. -/
def plainKeys (n : NodeId) (g : Graph) : Graph :=
  (g.entries n).foldl
    (fun g e => if g.type e.1 == .default then g.setType e.1 (.scalar .text) else g) g

/-- The entries of mappings, each merged before they are taken, the last mapping first. -/
def gather (merge : NodeId → Graph → Except Failure Graph) :
    List NodeId → Graph → Except Failure (List Entry × Graph)
  | [], g => .ok ([], g)
  | n :: ns, g =>
    if g.isMapping n then do
      let g ← merge n g
      let own := g.entries n
      let (later, g) ← gather merge ns g
      return (later ++ own, g)
    else .error .malformed

/-- Puts the entries that a mapping merges in front of its own, behind those merged already. Every
round takes a merge key out of the graph. -/
def mergeInto : Nat → List Entry → NodeId → Graph → Except Failure Graph
  | 0, _, _, _ => .error .malformed
  | rounds + 1, merged, n, g =>
    match g.takeMerge? n with
    | none => .ok ((g.setContent n (.mapping (merged ++ g.entries n))).plainKeys n)
    | some (source, g) => do
      let sources := match g.content source with
        | .sequence items => items
        | _ => [source]
      let (es, g) ← gather (mergeInto rounds []) sources g
      mergeInto rounds (merged ++ es) n g

/-- The graph with a mapping merged. -/
def mergeAt (rounds : Nat) (n : NodeId) (g : Graph) : Except Failure Graph :=
  mergeInto (rounds + 1) [] n g

end CommandServer.Yaml.Graph
