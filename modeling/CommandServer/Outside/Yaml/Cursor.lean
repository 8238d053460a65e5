/-
A place in the text of a document, and the classes of characters that end lines, words and names.
The end of the text reads as the character zero, which no document may hold.
-/
namespace CommandServer.Yaml

/-! ## Character classes -/

def endMark : Char := '\x00'

def isLineBreak (c : Char) : Bool :=
  c == '\n' || c == '\r' || c.toNat == 0x85 || c.toNat == 0x2028 || c.toNat == 0x2029

/-- A line break or the end. -/
def endsLine (c : Char) : Bool := isLineBreak c || c == endMark

/-- A space, a line break or the end. -/
def endsWord (c : Char) : Bool := c == ' ' || endsLine c

/-- A space, a tab, a line break or the end. -/
def separates (c : Char) : Bool := c == '\t' || endsWord c

def isSpaceOrTab (c : Char) : Bool := c == ' ' || c == '\t'

/-- The characters of anchors, tag handles and directive names. -/
def isWordChar (c : Char) : Bool := c.isAlphanum || c == '-' || c == '_'

def byteOrderMark : Char := Char.ofNat 0xFEFF

/-- The characters that a document may hold. -/
def isAllowed (c : Char) : Bool :=
  let n := c.toNat
  n == 0x09 || n == 0x0A || n == 0x0D || (0x20 ≤ n && n ≤ 0x7E) || n == 0x85 ||
    (0xA0 ≤ n && n ≤ 0xD7FF) || (0xE000 ≤ n && n ≤ 0xFFFD) || 0x10000 ≤ n

/-! ## Cursors -/

/-- What is left of the text, and where in the text, in lines and columns, it starts. -/
structure Cursor where
  rest : List Char
  index : Nat := 0
  line : Nat := 0
  column : Nat := 0

namespace Cursor

/-- The character at a distance. -/
def peek (c : Cursor) (k : Nat) : Char := c.rest.getD k endMark

def head (c : Cursor) : Char := c.peek 0

def next (c : Cursor) : Cursor :=
  match c.rest with
  | [] => c
  | ch :: r =>
    if isLineBreak ch && !(ch == '\r' && r.head? == some '\n') then ⟨r, c.index + 1, c.line + 1, 0⟩
    else ⟨r, c.index + 1, c.line, if ch == byteOrderMark then c.column else c.column + 1⟩

def skip (c : Cursor) : Nat → Cursor
  | 0 => c
  | n + 1 => c.next.skip n

/-- The longest run of characters of a class, and the cursor behind it. -/
def run (p : Char → Bool) (c : Cursor) : List Char × Cursor :=
  let taken := c.rest.takeWhile p
  (taken, c.skip taken.length)

def skipRun (p : Char → Bool) (c : Cursor) : Cursor := (c.run p).2

def skipSpaces (c : Cursor) : Cursor := c.skipRun (· == ' ')

/-- Up to the end of the line, when a comment starts here. -/
def skipComment (c : Cursor) : Cursor :=
  if c.head == '#' then c.skipRun (!endsLine ·) else c

/-- The line break here, as it counts in a scalar: a line feed, or a Unicode separator itself. -/
def lineBreak (c : Cursor) : List Char × Cursor :=
  let ch := c.head
  if ch == '\r' && c.peek 1 == '\n' then (['\n'], c.skip 2)
  else if ch == '\r' || ch == '\n' || ch.toNat == 0x85 then (['\n'], c.next)
  else if isLineBreak ch then ([ch], c.next)
  else ([], c)

/-- Whether three of the given character stand here, followed by a separator. -/
def isTriple (ch : Char) (c : Cursor) : Bool :=
  c.peek 0 == ch && c.peek 1 == ch && c.peek 2 == ch && separates (c.peek 3)

/-- Whether a line that starts here is a document marker. -/
def isDocumentMarker (c : Cursor) : Bool := c.isTriple '-' || c.isTriple '.'

end Cursor

end CommandServer.Yaml
