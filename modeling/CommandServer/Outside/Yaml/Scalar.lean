/-
Scalars as they stand in a document: plain, in quotation marks, and in blocks that keep or fold
their lines. Each reader returns the text of the scalar and the cursor behind it. In double quotes
an escape may spell any code point, so there a text is a list of code points.
-/
import CommandServer.Text.CodePoint
import CommandServer.Outside.Yaml.Property

namespace CommandServer.Yaml

open CommandServer.Text

/-! ## Plain scalars -/

/-- The characters that end a plain scalar inside brackets. -/
def isFlowIndicator (c : Char) : Bool := ",?[]\x7b\x7d".toList.contains c

/-- Whether a plain scalar ends before `c` when `d` follows it. -/
def endsPlain (flow : Bool) (c d : Char) : Bool :=
  separates c || (c == ':' && (separates d || (flow && ",[]\x7b\x7d".toList.contains d))) ||
    (flow && isFlowIndicator c)

/-- The count of characters up to the end of a run of a plain scalar. -/
def plainLength (flow : Bool) : List Char → Nat
  | [] => 0
  | c :: r => if endsPlain flow c (r.headD endMark) then 0 else plainLength flow r + 1

/-- Line breaks and the spaces between them; `none` before a document marker. -/
def scanPlainBreaks : Nat → List Char → Cursor → Option (List Char) × Cursor
  | 0, breaks, c => (some breaks, c)
  | n + 1, breaks, c =>
    if c.head == ' ' then scanPlainBreaks n breaks c.next
    else if isLineBreak c.head then
      let (b, c) := c.lineBreak
      if c.isDocumentMarker then (none, c) else scanPlainBreaks n (breaks ++ b) c
    else (some breaks, c)

/-- A line break and those that follow it, as they count in a scalar: a single line feed is a
space, of several the first one does not count. -/
def foldBreaks (first rest : List Char) : List Char :=
  if first == ['\n'] then (if rest.isEmpty then [' '] else rest) else first ++ rest

/-- What stands between two runs of a plain scalar, and whether it holds a line break. -/
structure PlainSpaces where
  text : Option (List Char)
  broken : Bool
  cursor : Cursor

def scanPlainSpaces (c : Cursor) : PlainSpaces :=
  let (spaces, c) := c.run (· == ' ')
  if isLineBreak c.head then
    let (first, c) := c.lineBreak
    if c.isDocumentMarker then ⟨none, true, c⟩
    else
      let (rest, c) := scanPlainBreaks (c.rest.length + 1) [] c
      ⟨rest.map (foldBreaks first), true, c⟩
  else ⟨some spaces, false, c⟩

/-- A plain scalar with the cursor behind it, and whether it ended after a line break. -/
structure PlainScalar where
  text : List Char
  broken : Bool
  cursor : Cursor

def scanPlainFrom (flow : Bool) (indent : Int) : Nat → PlainScalar → List Char → PlainScalar
  | 0, s, _ => s
  | n + 1, s, spaces =>
    let c := s.cursor
    let length := if c.head == '#' then 0 else plainLength flow c.rest
    if length = 0 then s
    else
      let text := s.text ++ spaces ++ c.rest.take length
      let between := scanPlainSpaces (c.skip length)
      let s : PlainScalar := ⟨text, between.broken, between.cursor⟩
      match between.text with
      | none | some [] => s
      | some spaces =>
        if s.cursor.head == '#' || (!flow && (s.cursor.column : Int) < indent) then s
        else scanPlainFrom flow indent n s spaces

/-- A plain scalar; outside brackets its lines are indented at least as far as `indent`. -/
def scanPlain (flow : Bool) (indent : Int) (c : Cursor) : PlainScalar :=
  scanPlainFrom flow indent (c.rest.length + 1) ⟨[], false, c⟩ []

/-! ## Quoted scalars -/

/-- The characters that a letter after a backslash stands for. -/
def escapeLetters : List (Char × Nat) :=
  [('0', 0x00), ('a', 0x07), ('b', 0x08), ('t', 0x09), ('\t', 0x09), ('n', 0x0A), ('v', 0x0B),
    ('f', 0x0C), ('r', 0x0D), ('e', 0x1B), (' ', 0x20), (doubleQuote, 0x22), ('\\', 0x5C),
    ('/', 0x2F), ('N', 0x85), ('_', 0xA0), ('L', 0x2028), ('P', 0x2029)]

/-- The count of hexadecimal digits after a letter that announces them. -/
def escapeWidth? (c : Char) : Option Nat :=
  if c = 'x' then some 2 else if c = 'u' then some 4 else if c = 'U' then some 8 else none

/-- A code point by its number. -/
def checkPoint (n : Nat) : Except Failure Nat :=
  if 0x7FFFFFFF < n then .error (.fault .characterOverflow)
  else if 0x10FFFF < n then .error (.fault .characterOutOfRange)
  else .ok n

/-- Line breaks inside quotation marks with the blanks at the start of the lines. -/
def scanQuotedBreaks : Nat → List Char → Cursor → Except Failure (List Char × Cursor)
  | 0, breaks, c => .ok (breaks, c)
  | n + 1, breaks, c =>
    if c.isDocumentMarker then .error .malformed
    else
      let c := c.skipRun isSpaceOrTab
      if isLineBreak c.head then
        let (b, c) := c.lineBreak
        scanQuotedBreaks n (breaks ++ b) c
      else .ok (breaks, c)

/-- The rest of an escape whose backslash is behind the cursor. -/
def scanEscape (c : Cursor) : Except Failure (List Nat × Cursor) :=
  match escapeLetters.lookup c.head with
  | some n => .ok ([n], c.next)
  | none =>
    match escapeWidth? c.head with
    | some width =>
      let digits := c.next.rest.take width
      if digits.length = width ∧ digits.all fun d => (hexDigitValue? d).isSome then do
        return ([← checkPoint (ofDigits 16 digits)], c.next.skip width)
      else .error .malformed
    | none =>
      if isLineBreak c.head then do
        let (breaks, c) ← scanQuotedBreaks (c.rest.length + 1) [] c.lineBreak.2
        return (codePoints breaks, c)
      else .error .malformed

/-- Blanks inside quotation marks: kept within a line, folded at its end. -/
def scanQuotedBlanks (c : Cursor) : Except Failure (List Char × Cursor) := do
  let (blanks, c) := c.run isSpaceOrTab
  if c.head == endMark then .error .malformed
  else if isLineBreak c.head then
    let (first, c) := c.lineBreak
    let (rest, c) ← scanQuotedBreaks (c.rest.length + 1) [] c
    return (foldBreaks first rest, c)
  else return (blanks, c)

/-- The text of a scalar up to the quotation mark that ends it. -/
def scanQuotedFrom (mark : Char) : Nat → List Nat → Cursor → Except Failure (List Nat × Cursor)
  | 0, _, _ => .error .malformed
  | n + 1, text, c =>
    let ch := c.head
    if ch == mark then
      if mark == apostrophe && c.peek 1 == apostrophe then
        scanQuotedFrom mark n (text ++ [ch.toNat]) (c.skip 2)
      else .ok (text, c.next)
    else if mark == doubleQuote && ch == '\\' then do
      let (piece, c) ← scanEscape c.next
      scanQuotedFrom mark n (text ++ piece) c
    else if separates ch then do
      let (piece, c) ← scanQuotedBlanks c
      scanQuotedFrom mark n (text ++ codePoints piece) c
    else
      let (piece, c) := c.run fun d => !separates d && d != mark && d != '\\'
      if piece.isEmpty then scanQuotedFrom mark n (text ++ [ch.toNat]) c.next
      else scanQuotedFrom mark n (text ++ codePoints piece) c

/-- A scalar in quotation marks, the first of which stands here. -/
def scanQuoted (c : Cursor) : Except Failure (List Nat × Cursor) :=
  scanQuotedFrom c.head (c.rest.length + 1) [] c.next

/-! ## Block scalars -/

/-- What becomes of the line breaks at the end of a block. -/
inductive Chomping where
  | strip
  | clip
  | keep
  deriving DecidableEq

def chomping? (c : Char) : Option Chomping :=
  if c = '+' then some .keep else if c = '-' then some .strip else none

/-- An explicit indentation; zero is none. -/
def scanIncrement (c : Cursor) : Except Failure (Option Nat × Cursor) :=
  match asciiDigitValue? c.head with
  | none => .ok (none, c)
  | some 0 => .error .malformed
  | some d => .ok (some d, c.next)

/-- The signs after the one that starts a block, in either order. -/
def scanBlockHeader (c : Cursor) : Except Failure ((Chomping × Option Nat) × Cursor) := do
  let ((chomping, increment), c) ← match chomping? c.head with
    | some chomping => do
      let (increment, c) ← scanIncrement c.next
      .ok ((chomping, increment), c)
    | none => do
      let (increment, c) ← scanIncrement c
      match increment.bind fun _ => chomping? c.head with
      | some chomping => .ok ((chomping, increment), c.next)
      | none => .ok ((.clip, increment), c)
  if endsWord c.head then .ok ((chomping, increment), c) else .error .malformed

/-- Empty lines at the start of a block, and the deepest column that a space reaches in them. -/
def scanIndentation : Nat → List Char → Nat → Cursor → List Char × Nat × Cursor
  | 0, breaks, deepest, c => (breaks, deepest, c)
  | n + 1, breaks, deepest, c =>
    if c.head == ' ' then
      let c := c.next
      scanIndentation n breaks (max deepest c.column) c
    else if isLineBreak c.head then
      let (b, c) := c.lineBreak
      scanIndentation n (breaks ++ b) deepest c
    else (breaks, deepest, c)

/-- Up to a column, as far as there are spaces. -/
def skipIndent (indent : Nat) : Nat → Cursor → Cursor
  | 0, c => c
  | n + 1, c => if c.column < indent && c.head == ' ' then skipIndent indent n c.next else c

/-- Empty lines inside a block, and the indentation of the line after them. -/
def scanBlockBreaks (indent : Nat) : Nat → List Char → Cursor → List Char × Cursor
  | 0, breaks, c => (breaks, c)
  | n + 1, breaks, c =>
    let c := skipIndent indent indent c
    if isLineBreak c.head then
      let (b, c) := c.lineBreak
      scanBlockBreaks indent n (breaks ++ b) c
    else (breaks, c)

/-- The line break between two lines of a block. -/
def blockJoint (folded spaced : Bool) (lineBreak breaks : List Char) : List Char :=
  if folded && lineBreak == ['\n'] && !spaced then (if breaks.isEmpty then [' '] else [])
  else lineBreak

/-- The lines of a block, with the last line break and the empty lines after it. -/
def scanBlockLines (folded : Bool) (indent : Nat) :
    Nat → List Char → List Char → Cursor → List Char × List Char × List Char × Cursor
  | 0, text, breaks, c => (text, [], breaks, c)
  | n + 1, text, breaks, c =>
    if c.column == indent && c.head != endMark then
      let indented := isSpaceOrTab c.head
      let (line, c) := c.run (!endsLine ·)
      let (lineBreak, c) := c.lineBreak
      let text := text ++ breaks ++ line
      let (breaks, c) := scanBlockBreaks indent (c.rest.length + 1) [] c
      if c.column == indent && c.head != endMark then
        let joint := blockJoint folded (indented || isSpaceOrTab c.head) lineBreak breaks
        scanBlockLines folded indent n (text ++ joint) breaks c
      else (text, lineBreak, breaks, c)
    else (text, [], breaks, c)

/-- A block scalar, whose sign stands here, inside a block of the given indentation. -/
def scanBlock (parentIndent : Int) (c : Cursor) : Except Failure (List Char × Cursor) := do
  let folded := c.head == '>'
  let ((chomping, increment), c) ← scanBlockHeader c.next
  let c ← scanRestOfLine c
  let least := (parentIndent + 1).toNat.max 1
  let fuel := c.rest.length + 1
  let (breaks, indent, c) := match increment with
    | some d =>
      let indent := least + d - 1
      let (breaks, c) := scanBlockBreaks indent fuel [] c
      (breaks, indent, c)
    | none =>
      let (breaks, deepest, c) := scanIndentation fuel [] 0 c
      (breaks, max least deepest, c)
  let (text, lineBreak, breaks, c) := scanBlockLines folded indent fuel [] breaks c
  match chomping with
  | .strip => return (text, c)
  | .clip => return (text ++ lineBreak, c)
  | .keep => return (text ++ lineBreak ++ breaks, c)

end CommandServer.Yaml
