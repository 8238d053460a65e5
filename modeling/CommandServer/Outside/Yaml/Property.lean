/-
Node properties and directives as they stand in a document: anchors and aliases, tags, the version
and the tag handles.
-/
import CommandServer.Text.Digit
import CommandServer.Text.Utf8
import CommandServer.Outside.Yaml.Cursor
import CommandServer.Outside.Yaml.Token

namespace CommandServer.Yaml

open CommandServer.Text

/-- The name of an anchor or an alias, whose sign stands here. -/
def scanAnchorName (c : Cursor) : Except Failure (String × Cursor) :=
  let (name, c) := c.next.run isWordChar
  if name.isEmpty || !(separates c.head || "?:,]\x7d%@`".toList.contains c.head) then
    .error .malformed
  else .ok (String.ofList name, c)

/-! ## Tags -/

def isUriChar (c : Char) : Bool :=
  c.isAlphanum || "-;/?:@&=+$,_.!~*'()[]%".toList.contains c

/-- The bytes of a run of percent escapes. -/
def escapedBytes? : List Char → Option (List UInt8 × List Char)
  | '%' :: a :: b :: r => do
    let x ← hexDigitValue? a
    let y ← hexDigitValue? b
    let (bytes, rest) ← escapedBytes? r
    return (UInt8.ofNat (x * 16 + y) :: bytes, rest)
  | '%' :: _ => none
  | r => some ([], r)

/-- The text of a part of a URI, escapes read as UTF-8. -/
def unescapeUri? : Nat → List Char → Option (List Char)
  | 0, _ => none
  | _ + 1, [] => some []
  | n + 1, '%' :: r => do
    let (bytes, rest) ← escapedBytes? ('%' :: r)
    return (← decodeUtf8? bytes) ++ (← unescapeUri? n rest)
  | n + 1, ch :: r => (unescapeUri? n r).map (ch :: ·)

def scanUri (c : Cursor) : Except Failure (String × Cursor) :=
  let (raw, c) := c.run isUriChar
  match unescapeUri? (raw.length + 1) raw with
  | some text => if raw.isEmpty then .error .malformed else .ok (String.ofList text, c)
  | none => .error .malformed

/-- A tag handle: one exclamation mark, or a word between two. -/
def scanTagHandle (c : Cursor) : Except Failure (String × Cursor) :=
  if c.head != '!' then .error .malformed
  else if c.peek 1 == ' ' then .ok ("!", c.next)
  else
    let (word, d) := c.next.run isWordChar
    if d.head == '!' then .ok (String.ofList ('!' :: word ++ ['!']), d.next)
    else .error .malformed

/-- Whether a second exclamation mark stands in the word that starts here. -/
def hasSecondMark (c : Cursor) : Bool :=
  ((c.next.rest.takeWhile fun ch => !endsWord ch).contains '!')

def scanTag (c : Cursor) : Except Failure ((Option String × String) × Cursor) := do
  let (tag, c) ←
    if c.peek 1 == '<' then do
      let (suffix, d) ← scanUri (c.skip 2)
      if d.head != '>' then .error .malformed else .ok ((none, suffix), d.next)
    else if separates (c.peek 1) then .ok ((none, "!"), c.next)
    else do
      let (handle, d) ← if hasSecondMark c then scanTagHandle c else .ok ("!", c.next)
      let (suffix, e) ← scanUri d
      .ok ((some handle, suffix), e)
  if endsWord c.head then .ok (tag, c) else .error .malformed

/-! ## Directives -/

/-- Nothing but blanks and a comment up to the end of the line. -/
def scanRestOfLine (c : Cursor) : Except Failure Cursor :=
  let c := c.skipSpaces.skipComment
  if endsLine c.head then .ok c.lineBreak.2 else .error .malformed

def scanVersionNumber (c : Cursor) : Except Failure (Nat × Cursor) :=
  let (digits, c) := c.run Char.isDigit
  if digits.isEmpty then .error .malformed
  else if maxDigits < digits.length then .error (.fault (.integerTooLong digits.length))
  else .ok (ofDigits 10 digits, c)

def scanVersion (c : Cursor) : Except Failure (Directive × Cursor) := do
  let (major, c) ← scanVersionNumber c.skipSpaces
  if c.head != '.' then .error .malformed
  let (_, c) ← scanVersionNumber c.next
  if endsWord c.head then .ok (.version major, c) else .error .malformed

def scanHandleDirective (c : Cursor) : Except Failure (Directive × Cursor) := do
  let (handle, c) ← scanTagHandle c.skipSpaces
  if c.head != ' ' then .error .malformed
  let (tagPrefix, c) ← scanUri c.skipSpaces
  if endsWord c.head then .ok (.tagHandle handle tagPrefix, c) else .error .malformed

/-- A directive, whose percent sign stands here. -/
def scanDirective (c : Cursor) : Except Failure (Directive × Cursor) := do
  let (name, c) := c.next.run isWordChar
  if name.isEmpty || !endsWord c.head then .error .malformed
  let (d, c) ← match String.ofList name with
    | "YAML" => scanVersion c
    | "TAG" => scanHandleDirective c
    | _ => .ok (.other, c.skipRun (!endsLine ·))
  return (d, ← scanRestOfLine c)

end CommandServer.Yaml
