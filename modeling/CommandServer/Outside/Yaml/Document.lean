/-
The meaning of a document. A scalar has its meaning at once, while a collection waits until those
found before it have been given theirs; so the parts of a node may refer to the node itself. The
mappings at the root are then read as data, as many levels deep as their reader asks for. The keys
of a mapping are compared by value, so that a number and the boolean that it stands for are one key.
-/
import CommandServer.Outside.Yaml.Datum.Reader
import CommandServer.Outside.Yaml.Graph.Builder
import CommandServer.Outside.Yaml.Graph.Merge

namespace CommandServer

/-! ## Keys -/

/-- A boolean as the integer that it equals. -/
def Scalar.unifyBool : Scalar → Scalar
  | .bool b => .int (if b then 1 else 0)
  | s => s

/-- Equality as keys. -/
def Scalar.same (s t : Scalar) : Bool :=
  match s.unifyBool, t.unifyBool with
  | .int n, .float x => x.isInteger n
  | .float x, .int n => x.isInteger n
  | .float x, .float y => x.sameValue y
  | .moment m, .moment n => m.same n
  | s, t => s == t

namespace Yaml

/-- The entries with `v` under `k`: the first spelling of a key stays, and the last value. -/
def putUnder {κ α : Type} (same : κ → κ → Bool) (k : κ) (v : α) : List (κ × α) → List (κ × α)
  | [] => [(k, v)]
  | (k', v') :: r => if same k' k then (k', v) :: r else (k', v') :: putUnder same k v r

/-- The entries of a list of pairs, put one after the other. -/
def putAll {κ α : Type} (same : κ → κ → Bool) (pairs : List (κ × α)) : List (κ × α) :=
  pairs.foldl (fun es p => putUnder same p.1 p.2 es) []

/-! ## Meanings -/

/-- A scalar that is alone equals no other one as a key. Of a collection that is not a mapping from
scalars nothing is kept. -/
inductive Meaning where
  | scalar (s : Scalar) (alone : Bool)
  | mapping (entries : List Entry)
  | collection

/-- The graph so far, with the meanings of its nodes and, the last one first, the collections that
wait. -/
structure Interpretation where
  graph : Graph
  meanings : Array (Option Meaning)
  waiting : List NodeId := []

abbrev Interpret := StateT Interpretation (Except Failure)

namespace Interpret

def malformed {α : Type} : Interpret α := throw .malformed

def meaning? (n : NodeId) : Interpret (Option Meaning) := do
  return ((← get).meanings[n]?).join

def setMeaning (n : NodeId) (m : Meaning) : Interpret Unit :=
  modify fun i => { i with meanings := i.meanings.setIfInBounds n (some m) }

/-! ## Scalars -/

/-- The text of a scalar, or of the value that stands for a whole mapping. Without a repetition the
way to it is no longer than the graph. -/
def textFrom (g : Graph) : Nat → NodeId → Except Failure (List Nat)
  | 0, _ => .error (.fault .tooDeep)
  | steps + 1, n =>
    match g.content n with
    | .scalar text => .ok text
    | .sequence _ => .error .malformed
    | .mapping es =>
      match es.find? fun e => g.type e.1 == .default with
      | some e => textFrom g steps e.2
      | none => .error .malformed

/-- The scalar of a node, which for a timestamp must be the text itself. -/
def readScalar (g : Graph) (t : ScalarType) (n : NodeId) : Except Failure Meaning := do
  let text ← textFrom g (g.size + 1) n
  if t == .timestamp && g.isMapping n then throw (.fault .timestampOfMapping)
  let s ← t.read text
  return .scalar s (s == .float .nan && !isNanWord text)

/-! ## Nodes -/

/-- Gives a node its meaning, or puts it off until its parts have their turn. -/
def visit (n : NodeId) : Interpret Unit := do
  if (← meaning? n).isNone then
    let g := (← get).graph
    match g.type n with
    | .scalar t => setMeaning n (← readScalar g t n)
    | .mapping | .sequence | .set | .pairs =>
      setMeaning n .collection
      modify fun i => { i with waiting := n :: i.waiting }
    | .merge | .default | .other => malformed

/-- A key must be a scalar. -/
def visitKey (n : NodeId) : Interpret Unit := do
  visit n
  match ← meaning? n with
  | some (.scalar _ _) => return ()
  | _ => malformed

def visitEntry (e : Entry) : Interpret Unit := do
  visitKey e.1
  visit e.2

/-- The entries of a mapping, merged and visited. -/
def visitMapping (rounds : Nat) (n : NodeId) : Interpret (List Entry) := do
  unless (← get).graph.isMapping n do malformed
  let graph ← (← get).graph.mergeAt rounds n
  modify fun i => { i with graph }
  let es := graph.entries n
  es.forM visitEntry
  return es

def items (n : NodeId) : Interpret (List NodeId) := do
  match (← get).graph.content n with
  | .sequence ns => return ns
  | _ => malformed

/-- A mapping of one entry, as far as it is merged. -/
def visitPair (n : NodeId) : Interpret Unit := do
  match (← get).graph.content n with
  | .mapping [e] => visit e.1; visit e.2
  | _ => malformed

/-- The turn of a collection. -/
def visitParts (rounds : Nat) (n : NodeId) : Interpret Unit := do
  match (← get).graph.type n with
  | .mapping => setMeaning n (.mapping (← visitMapping rounds n))
  | .set => discard (visitMapping rounds n)
  | .sequence => (← items n).forM visit
  | .pairs => (← items n).forM visitPair
  | _ => malformed

/-- The turns of all collections that wait, and of those that they bring with them. -/
def visitWaiting (rounds : Nat) : Nat → Interpret Unit
  | 0 => return ()
  | turns + 1 => do
    match (← get).waiting.reverse with
    | [] => return ()
    | ns =>
      modify fun i => { i with waiting := [] }
      ns.forM (visitParts rounds)
      visitWaiting rounds turns

end Interpret

namespace Interpretation

/-- The meanings of a node and of all nodes below it. -/
def ofRoot (root : NodeId) (graph : Graph) : Except Failure Interpretation := do
  let visitAll : Interpret Unit := do
    Interpret.visit root
    Interpret.visitWaiting graph.entryCount (graph.size + 1)
  let (_, i) ← visitAll.run { graph, meanings := Array.replicate graph.size none }
  return i

/-! ## Data -/

def meaning (i : Interpretation) (n : NodeId) : Meaning :=
  (i.meanings[n]?.join).getD .collection

/-- A key with the node that it comes from. -/
structure Key where
  node : NodeId
  scalar : Scalar
  alone : Bool

def Key.same (j k : Key) : Bool :=
  j.node == k.node || (!j.alone && !k.alone && j.scalar.same k.scalar)

def key? (i : Interpretation) (n : NodeId) : Option Key :=
  match i.meaning n with
  | .scalar s alone => some ⟨n, s, alone⟩
  | _ => none

/-- The datum of a node; mappings deeper than `levels` are not looked into. -/
def datum (i : Interpretation) : Nat → NodeId → Datum
  | levels, n =>
    match levels, i.meaning n with
    | _, .scalar s _ => .scalar s
    | levels + 1, .mapping es =>
      let pairs := es.filterMap fun (k, v) => (i.key? k).map (·, i.datum levels v)
      .mapping ((putAll Key.same pairs).map fun (k, d) => (k.scalar, d))
    | _, _ => .collection

end Interpretation

/-- The datum of a text, null when it holds no document. -/
def read (levels : Nat) (text : List Char) : Except Failure Datum := do
  match ← Graph.ofText text with
  | none => return .scalar .null
  | some (root, graph) => return (← Interpretation.ofRoot root graph).datum levels root

end Yaml

end CommandServer
