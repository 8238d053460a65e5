/-
From the text of a document to its tokens. Structure that the text leaves to indentation becomes
tokens of its own: a deeper column opens a block, a shallower one closes it, and a node that turns
out to be followed by a colon gets a key token in front. So a token is certain only once the text
has been read so far that no key can start at it.
-/
import CommandServer.Outside.Yaml.Scalar

namespace CommandServer.Yaml

open CommandServer.Text

/-- A place where a key may have started. A required one is the only thing that can stand there. -/
structure PossibleKey where
  position : Nat
  required : Bool
  index : Nat
  line : Nat
  column : Nat

/-- The reader between two tokens: the tokens that wait to be taken, and how many have been taken.
Possible keys are kept by the depth of brackets. -/
structure Reader where
  cursor : Cursor
  tokens : List Token := []
  taken : Nat := 0
  depth : Nat := 0
  indent : Int := -1
  outerIndents : List Int := []
  keyAllowed : Bool := true
  keys : List (Nat × PossibleKey) := []
  done : Bool := false

namespace Reader

/-! ## Bookkeeping -/

def push (t : Token) (r : Reader) : Reader := { r with tokens := r.tokens ++ [t] }

/-- A token at a position that has been passed, counted from the start of the text. -/
def insertAt (position : Nat) (t : Token) (r : Reader) : Reader :=
  let before := position - r.taken
  { r with tokens := r.tokens.take before ++ t :: r.tokens.drop before }

def dropToken (r : Reader) : Reader := { r with tokens := r.tokens.tail, taken := r.taken + 1 }

def moveTo (c : Cursor) (r : Reader) : Reader := { r with cursor := c }

def allowKey (b : Bool) (r : Reader) : Reader := { r with keyAllowed := b }

/-- Closes the blocks that are deeper than a column. -/
def unwind (column : Int) : List Int → Reader → Reader
  | [], r => r
  | outer :: outers, r =>
    if column < r.indent then
      unwind column outers ({ r with indent := outer, outerIndents := outers }.push .blockEnd)
    else r

def unwindTo (column : Int) (r : Reader) : Reader :=
  if 0 < r.depth then r else r.unwind column r.outerIndents

/-- Whether a column is deeper than all open blocks; if so it opens one. -/
def deepen (column : Nat) (r : Reader) : Bool × Reader :=
  if r.indent < column then
    (true, { r with indent := column, outerIndents := r.indent :: r.outerIndents })
  else (false, r)

def keyHere? (r : Reader) : Option PossibleKey := r.keys.lookup r.depth

def forgetKey (r : Reader) : Reader := { r with keys := r.keys.filter fun e => e.1 != r.depth }

/-- Gives up the possible key at this depth, unless nothing else may stand there. -/
def dropKey (r : Reader) : Except Failure Reader :=
  if r.keyHere?.any (·.required) then .error .malformed else .ok r.forgetKey

/-- Gives up the keys that are on another line or too far back. -/
def dropStaleKeys (r : Reader) : Except Failure Reader :=
  let stale (k : PossibleKey) : Bool :=
    k.line != r.cursor.line || r.cursor.index - k.index > 1024
  if r.keys.any fun e => stale e.2 && e.2.required then .error .malformed
  else .ok { r with keys := r.keys.filter fun e => !stale e.2 }

/-- Notes that a key may start here. -/
def noteKey (r : Reader) : Except Failure Reader :=
  if r.keyAllowed then do
    let required := r.depth == 0 && r.indent == r.cursor.column
    let r ← r.dropKey
    let c := r.cursor
    let key := ⟨r.taken + r.tokens.length, required, c.index, c.line, c.column⟩
    return { r with keys := (r.depth, key) :: r.keys }
  else .ok r

/-! ## One token -/

/-- Spaces, comments and line breaks; after a line break outside brackets a key may start. -/
def skipBlanks : Nat → Reader → Reader
  | 0, r => r
  | n + 1, r =>
    let c := r.cursor.skipSpaces.skipComment
    if isLineBreak c.head then
      skipBlanks n { r with cursor := c.lineBreak.2, keyAllowed := r.keyAllowed || r.depth == 0 }
    else r.moveTo c

def skipToToken (r : Reader) : Reader :=
  let r := if r.cursor.index = 0 ∧ r.cursor.head = byteOrderMark then r.moveTo r.cursor.next else r
  r.skipBlanks (r.cursor.rest.length + 1)

def takeEnd (r : Reader) : Except Failure Reader := do
  let r ← (r.unwindTo (-1)).dropKey
  return { r with keys := [], keyAllowed := false, done := true }.push .streamEnd

def takeDirective (r : Reader) : Except Failure Reader := do
  let r ← (r.unwindTo (-1)).dropKey
  let (d, c) ← scanDirective r.cursor
  return ((r.allowKey false).push (.directive d)).moveTo c

def takeDocumentMarker (t : Token) (r : Reader) : Except Failure Reader := do
  let r ← (r.unwindTo (-1)).dropKey
  return ((r.allowKey false).push t).moveTo (r.cursor.skip 3)

def takeOpening (t : Token) (r : Reader) : Except Failure Reader := do
  let r ← r.noteKey
  return ({ r with depth := r.depth + 1, keyAllowed := true }.push t).moveTo r.cursor.next

def takeClosing (t : Token) (r : Reader) : Except Failure Reader := do
  if r.depth = 0 then .error .malformed
  let r ← r.dropKey
  return ({ r with depth := r.depth - 1, keyAllowed := false }.push t).moveTo r.cursor.next

def takeComma (r : Reader) : Except Failure Reader := do
  let r ← (r.allowKey true).dropKey
  return (r.push .flowEntry).moveTo r.cursor.next

/-- Opens a block with `start` when this column is deeper than all others. -/
def openBlock (start : Token) (column : Nat) (r : Reader) : Reader :=
  let (deeper, r) := r.deepen column
  if deeper then r.push start else r

/-- A sign that opens a block of its kind where a key may start, and nowhere else. -/
def openWhereAllowed (start : Token) (r : Reader) : Except Failure Reader :=
  if 0 < r.depth then .ok r
  else if r.keyAllowed then .ok (r.openBlock start r.cursor.column)
  else .error .malformed

def takeEntry (r : Reader) : Except Failure Reader := do
  let r ← r.openWhereAllowed .blockSequenceStart
  let r ← (r.allowKey true).dropKey
  return (r.push .blockEntry).moveTo r.cursor.next

def takeKey (r : Reader) : Except Failure Reader := do
  let r ← r.openWhereAllowed .blockMappingStart
  let r ← (r.allowKey (r.depth == 0)).dropKey
  return (r.push .key).moveTo r.cursor.next

def takeValue (r : Reader) : Except Failure Reader := do
  let r ← match r.keyHere? with
    | some k =>
      let r := r.forgetKey.insertAt k.position .key
      if 0 < r.depth then .ok (r.allowKey false)
      else
        let (deeper, r) := r.deepen k.column
        .ok ((if deeper then r.insertAt k.position .blockMappingStart else r).allowKey false)
    | none => do
      let r ← r.openWhereAllowed .blockMappingStart
      (r.allowKey (r.depth == 0)).dropKey
  return (r.push .value).moveTo r.cursor.next

def takeNamed (t : String → Token) (r : Reader) : Except Failure Reader := do
  let r ← r.noteKey
  let (name, c) ← scanAnchorName r.cursor
  return ((r.allowKey false).push (t name)).moveTo c

def takeTag (r : Reader) : Except Failure Reader := do
  let r ← r.noteKey
  let ((handle, suffix), c) ← scanTag r.cursor
  return ((r.allowKey false).push (.tag handle suffix)).moveTo c

def takeBlockScalar (r : Reader) : Except Failure Reader := do
  let r ← (r.allowKey true).dropKey
  let (text, c) ← scanBlock r.indent r.cursor
  return (r.push (.scalar (codePoints text) false)).moveTo c

def takeQuoted (r : Reader) : Except Failure Reader := do
  let r ← r.noteKey
  let (text, c) ← scanQuoted r.cursor
  return ((r.allowKey false).push (.scalar text false)).moveTo c

def takePlain (r : Reader) : Except Failure Reader := do
  let r ← r.noteKey
  let s := scanPlain (0 < r.depth) (r.indent + 1) r.cursor
  return ((r.allowKey s.broken).push (.scalar (codePoints s.text) true)).moveTo s.cursor

/-- The signs that cannot start a plain scalar, blanks apart. -/
def isIndicator (c : Char) : Bool :=
  "-?:,[]\x7b\x7d#&*!|>\x27\x22%@`".toList.contains c

/-- Whether a plain scalar can start here. -/
def startsPlain (r : Reader) : Bool :=
  let ch := r.cursor.head
  let followed := !separates (r.cursor.peek 1)
  (!separates ch && !isIndicator ch) ||
    (followed && (ch == '-' || (r.depth == 0 && (ch == '?' || ch == ':'))))

/-- The next token, and what its place says about structure. -/
def takeToken (r : Reader) : Except Failure Reader := do
  let r ← r.skipToToken.dropStaleKeys
  let r := r.unwindTo r.cursor.column
  let c := r.cursor
  let ch := c.head
  let alone := separates (c.peek 1)
  if ch == endMark then r.takeEnd
  else if ch == '%' && c.column == 0 then r.takeDirective
  else if c.column == 0 && c.isTriple '-' then r.takeDocumentMarker .documentStart
  else if c.column == 0 && c.isTriple '.' then r.takeDocumentMarker .documentEnd
  else if ch == '[' then r.takeOpening .flowSequenceStart
  else if ch == '\x7b' then r.takeOpening .flowMappingStart
  else if ch == ']' then r.takeClosing .flowSequenceEnd
  else if ch == '\x7d' then r.takeClosing .flowMappingEnd
  else if ch == ',' then r.takeComma
  else if ch == '-' && alone then r.takeEntry
  else if ch == '?' && (0 < r.depth || alone) then r.takeKey
  else if ch == ':' && (0 < r.depth || alone) then r.takeValue
  else if ch == '*' then r.takeNamed .alias
  else if ch == '&' then r.takeNamed .anchor
  else if ch == '!' then r.takeTag
  else if (ch == '|' || ch == '>') && r.depth == 0 then r.takeBlockScalar
  else if ch == '\x27' || ch == '\x22' then r.takeQuoted
  else if r.startsPlain then r.takePlain
  else .error .malformed

/-! ## Certain tokens -/

/-- Whether the next token may turn out to start a key, of all possible keys the first one. -/
def mayStartKey (r : Reader) : Bool := (r.keys.map (·.2.position)).min? == some r.taken

/-- Reads on until the next token is certain, or all have been taken. -/
def prepare : Nat → Reader → Except Failure Reader
  | 0, _ => .error .malformed
  | n + 1, r => do
    if r.done then return r
    if r.tokens.isEmpty then prepare n (← r.takeToken)
    else
      let r ← r.dropStaleKeys
      if r.mayStartKey then prepare n (← r.takeToken) else return r

/-- The reader at the start of a text, which must hold no characters but the allowed ones. -/
def ofText (text : List Char) : Except Failure Reader :=
  if text.all isAllowed then .ok { cursor := ⟨text, 0, 0, 0⟩ } else .error .malformed

end Reader

end CommandServer.Yaml
