/-
The nodes of a document. An alias makes one node a part of several others, or of itself, so nodes
have numbers, and a collection holds the numbers of its parts.
-/
import CommandServer.Outside.Yaml.NodeType

namespace CommandServer.Yaml

/-- The place of a node in its graph. -/
abbrev NodeId := Nat

/-- A key and its value. -/
abbrev Entry := NodeId × NodeId

inductive Content where
  | scalar (text : List Nat)
  | sequence (items : List NodeId)
  | mapping (entries : List Entry)
  deriving Inhabited

structure Node where
  type : NodeType
  content : Content

structure Graph where
  nodes : Array Node := #[]

namespace Graph

/-! ## Parts -/

def size (g : Graph) : Nat := g.nodes.size

def type (g : Graph) (n : NodeId) : NodeType := (g.nodes[n]?.map Node.type).getD .other

/-- The content of a node; what is no node counts as an empty text. -/
def content (g : Graph) (n : NodeId) : Content :=
  (g.nodes[n]?.map Node.content).getD (.scalar [])

def isMapping (g : Graph) (n : NodeId) : Bool :=
  match g.content n with
  | .mapping _ => true
  | _ => false

/-- The entries of a mapping; another node has none. -/
def entries (g : Graph) (n : NodeId) : List Entry :=
  match g.content n with
  | .mapping es => es
  | _ => []

/-- The count of the entries of all mappings. -/
def entryCount (g : Graph) : Nat :=
  g.nodes.foldl (fun count n => match n.content with
    | .mapping es => count + es.length
    | _ => count) 0

/-! ## Changes -/

/-- A new node, and the graph with it. -/
def add (node : Node) (g : Graph) : NodeId × Graph := (g.size, ⟨g.nodes.push node⟩)

def setContent (n : NodeId) (c : Content) (g : Graph) : Graph :=
  ⟨g.nodes.modify n fun node => { node with content := c }⟩

def setType (n : NodeId) (t : NodeType) (g : Graph) : Graph :=
  ⟨g.nodes.modify n fun node => { node with type := t }⟩

end Graph

end CommandServer.Yaml
