/-
From the text of a document to the graph of its nodes. An anchor may be named inside its own node,
so a collection is in the graph, still empty, before its parts are read.
-/
import CommandServer.Outside.Yaml.Graph
import CommandServer.Outside.Yaml.TokenStream

namespace CommandServer.Yaml

/-- The reader of the tokens, the tag handles of the document, its nodes and their anchors, and in
how many collections the next node lies. The fuel is enough to read all tokens that are left. -/
structure Builder where
  reader : Reader
  fuel : Nat
  depth : Nat := 0
  handles : List (String × String) := []
  anchors : List (String × NodeId) := []
  graph : Graph := {}

abbrev Build := StateT Builder (Except Failure)

namespace Build

def malformed {α : Type} : Build α := throw .malformed

/-! ## Tokens -/

/-- The next token, which stays where it is. -/
def peek : Build Token := do
  let b ← get
  match b.reader.prepare b.fuel with
  | .error f => throw f
  | .ok reader =>
    set { b with reader }
    match reader.tokens with
    | t :: _ => return t
    | [] => malformed

def skip : Build Unit := modify fun b => { b with reader := b.reader.dropToken }

def isNext (p : Token → Bool) : Build Bool := do return p (← peek)

/-- Takes the next token if it is of the expected kind. -/
def take? (p : Token → Bool) : Build Bool := do
  let found ← isNext p
  if found then skip
  return found

def expect (p : Token → Bool) : Build Unit := do
  unless ← take? p do malformed

/-! ## Properties -/

structure Properties where
  anchor : Option String := none
  tag : Option (Option String × String) := none

def readAnchor : Build (Option String) := do
  match ← peek with
  | .anchor name => skip; return some name
  | _ => return none

def readTag : Build (Option (Option String × String)) := do
  match ← peek with
  | .tag handle suffix => skip; return some (handle, suffix)
  | _ => return none

/-- An anchor and a tag, in either order. -/
def readProperties : Build Properties := do
  match ← readTag with
  | some tag => return ⟨← readAnchor, some tag⟩
  | none =>
    match ← readAnchor with
    | some name => return ⟨some name, ← readTag⟩
    | none => return {}

/-- The tag in full, the handle replaced by what it stands for. -/
def fullTag : Option (Option String × String) → Build (Option String)
  | none => return none
  | some (none, suffix) => return some suffix
  | some (some handle, suffix) => do
    match (← get).handles.lookup handle with
    | some start => return some (start ++ suffix)
    | none => malformed

/-- A tag of one exclamation mark says no more than none. -/
def explicitTag? (tag : Option String) : Option String :=
  if tag == some "!" then none else tag

/-- The type of a written scalar. Without a tag its text suggests one, but in quotation marks it is
a text; a tag of one exclamation mark undoes that. -/
def scalarType (tag : Option String) (plain : Bool) (text : List Nat) : NodeType :=
  match explicitTag? tag with
  | some tag => .ofTag tag
  | none => if tag.isNone && !plain then .scalar .text else .suggested (Text.pointChars text)

def collectionType (tag : Option String) (usual : NodeType) : NodeType :=
  ((explicitTag? tag).map NodeType.ofTag).getD usual

/-! ## New nodes -/

def add (node : Node) : Build NodeId := do
  let b ← get
  let (n, graph) := b.graph.add node
  set { b with graph }
  return n

def addScalar (type : NodeType) (text : List Nat) : Build NodeId := add ⟨type, .scalar text⟩

/-- What stands where nothing is written. -/
def addEmpty : Build NodeId := addScalar (.scalar .null) []

/-- The node that has an anchor. -/
def named (name : String) : Build NodeId := do
  match (← get).anchors.lookup name with
  | some n => return n
  | none => malformed

/-- An anchor must be a new one. -/
def checkAnchor : Option String → Build Unit
  | none => return ()
  | some name => do
    if ((← get).anchors.lookup name).isSome then malformed

def addAnchor (n : NodeId) : Option String → Build Unit
  | none => return ()
  | some name => modify fun b => { b with anchors := (name, n) :: b.anchors }

/-- A scalar with its anchor. -/
def addNamedScalar (anchor : Option String) (type : NodeType) (text : List Nat) : Build NodeId := do
  checkAnchor anchor
  let n ← addScalar type text
  addAnchor n anchor
  return n

/-- The most collections that lie inside each other. -/
def maxDepth : Nat := 488

/-- The parts of a collection, one level deeper. -/
def deeper (parts : Build Content) : Build Content := do
  let depth := (← get).depth
  if maxDepth ≤ depth then throw (.fault .tooDeep)
  modify fun b => { b with depth := depth + 1 }
  let content ← parts
  modify fun b => { b with depth }
  return content

/-- A collection with its anchor, whose parts are read once it can be named. -/
def addCollection (anchor : Option String) (type : NodeType) (parts : Build Content) :
    Build NodeId := do
  checkAnchor anchor
  let n ← add ⟨type, .sequence []⟩
  addAnchor n anchor
  let content ← deeper parts
  modify fun b => { b with graph := b.graph.setContent n content }
  return n

/-! ## Nodes -/

mutual

/-- A node. Only outside brackets may it open a block, and only as a part of a block mapping may it
be a sequence that is not indented. -/
def readNode : Nat → Bool → Bool → Build NodeId
  | 0, _, _ => malformed
  | n + 1, block, indentless => do
    if let .alias name := ← peek then
      skip
      return ← named name
    let p ← readProperties
    let tag ← fullTag p.tag
    match ← peek with
    | .scalar text plain =>
      skip
      addNamedScalar p.anchor (scalarType tag plain text) text
    | .flowSequenceStart => addCollection p.anchor (collectionType tag .sequence) do
      skip
      .sequence <$> readFlowItems n true
    | .flowMappingStart => addCollection p.anchor (collectionType tag .mapping) do
      skip
      .mapping <$> readFlowEntries n true
    | t =>
      if indentless && t.isBlockEntry then
        addCollection p.anchor (collectionType tag .sequence) (.sequence <$> readIndentlessItems n)
      else match block, t with
        | true, .blockSequenceStart => addCollection p.anchor (collectionType tag .sequence) do
          skip
          .sequence <$> readBlockItems n
        | true, .blockMappingStart => addCollection p.anchor (collectionType tag .mapping) do
          skip
          .mapping <$> readBlockEntries n
        | _, _ => do
          if p.anchor.isNone && tag.isNone then malformed
          addNamedScalar p.anchor (scalarType tag true []) []

/-- A node, or nothing where a token stands that ends it. -/
def readPart : Nat → Bool → Bool → (Token → Bool) → Build NodeId
  | 0, _, _, _ => malformed
  | n + 1, block, indentless, ends => do
    if ← isNext ends then addEmpty else readNode n block indentless

def readBlockItems : Nat → Build (List NodeId)
  | 0 => malformed
  | n + 1 => do
    if ← take? Token.isBlockEntry then
      let item ← readPart n true false fun t => t.isBlockEntry || t.isBlockEnd
      return item :: (← readBlockItems n)
    expect Token.isBlockEnd
    return []

def readIndentlessItems : Nat → Build (List NodeId)
  | 0 => malformed
  | n + 1 => do
    if ← take? Token.isBlockEntry then
      let item ← readPart n true false fun t => t.isBlockEntry || t.endsBlockPart
      return item :: (← readIndentlessItems n)
    return []

def readBlockEntries : Nat → Build (List Entry)
  | 0 => malformed
  | n + 1 => do
    if ← take? Token.isBlockEnd then return []
    let key ←
      if ← take? Token.isKey then readPart n true true Token.endsBlockPart
      else malformed
    let value ←
      if ← take? Token.isValue then readPart n true true Token.endsBlockPart else addEmpty
    return (key, value) :: (← readBlockEntries n)

def readFlowItems : Nat → Bool → Build (List NodeId)
  | 0, _ => malformed
  | n + 1, first => do
    if ← take? Token.isFlowSequenceEnd then return []
    unless first do expect Token.isFlowEntry
    if ← isNext Token.isKey then
      let item ← addCollection none .mapping do
        skip
        return .mapping [← readFlowPair n Token.isFlowSequenceEnd]
      return item :: (← readFlowItems n false)
    if ← take? Token.isFlowSequenceEnd then return []
    let item ← readNode n false false
    return item :: (← readFlowItems n false)

def readFlowEntries : Nat → Bool → Build (List Entry)
  | 0, _ => malformed
  | n + 1, first => do
    if ← take? Token.isFlowMappingEnd then return []
    unless first do expect Token.isFlowEntry
    if ← take? Token.isKey then
      let pair ← readFlowPair n Token.isFlowMappingEnd
      return pair :: (← readFlowEntries n false)
    if ← take? Token.isFlowMappingEnd then return []
    let key ← readNode n false false
    return (key, ← addEmpty) :: (← readFlowEntries n false)

/-- A key and its value inside brackets, the key token being behind. -/
def readFlowPair : Nat → (Token → Bool) → Build Entry
  | 0, _ => malformed
  | n + 1, closes => do
    let key ← readPart n false false fun t => t.isValue || t.isFlowEntry || closes t
    let value ←
      if ← take? Token.isValue then
        readPart n false false fun t => t.isFlowEntry || closes t
      else addEmpty
    return (key, value)

end

/-! ## Documents -/

/-- The handles that every document has. -/
def defaultHandles : List (String × String) := [("!", "!"), ("!!", coreTagStart)]

/-- Directives: the version at most once and of the first major number, each handle at most once. -/
def readDirectives : Nat → Bool → List (String × String) → Build (List (String × String))
  | 0, _, _ => malformed
  | n + 1, versioned, handles => do
    match ← peek with
    | .directive (.version major) =>
      if versioned || major != 1 then malformed
      skip
      readDirectives n true handles
    | .directive (.tagHandle handle start) =>
      if (handles.lookup handle).isSome then malformed
      skip
      readDirectives n versioned ((handle, start) :: handles)
    | .directive .other => do
      skip
      readDirectives n versioned handles
    | _ => return handles

/-- The directives of a document and the mark behind them. -/
def readStart (fuel : Nat) : Build Unit := do
  let handles ← readDirectives fuel false []
  modify fun b => { b with handles := handles ++ defaultHandles }
  expect Token.isDocumentStart

def skipDocumentEnds : Nat → Build Unit
  | 0 => return ()
  | n + 1 => do
    if ← take? Token.isDocumentEnd then skipDocumentEnds n

/-- The first document, if there is one. -/
def readFirst (fuel : Nat) : Build (Option NodeId) := do
  let t ← peek
  if t.isStreamEnd then return none
  if t.isDirective || t.isDocumentStart then
    readStart fuel
    if ← isNext Token.endsDocument then return some (← addEmpty)
  else modify fun b => { b with handles := defaultHandles }
  return some (← readNode fuel true false)

/-- The only document; a second one is an error, but its start is read. -/
def readSingle (fuel : Nat) : Build (Option NodeId) := do
  let root ← readFirst fuel
  skipDocumentEnds fuel
  if ← isNext Token.isStreamEnd then return root
  readStart fuel
  malformed

end Build

/-- The graph of a document with its root, `none` where there is no document. A character is behind
at most four tokens, and from one token to the next the builder goes down by at most three calls. -/
def Graph.ofText (text : List Char) : Except Failure (Option (NodeId × Graph)) := do
  let reader ← Reader.ofText text
  let fuel := text.length + 2
  let (root, b) ← (Build.readSingle (12 * fuel)).run { reader, fuel }
  return root.map (·, b.graph)

end CommandServer.Yaml
