/-
Names in the messages of programs. A name that a shell would read differently stands between
apostrophes, bytes that are not printable ASCII being escaped in a notation of their own; a word
that is no name is escaped with backslashes throughout.
-/
import CommandServer.Text.Quoted
import CommandServer.Text.Utf8

namespace CommandServer.Job

open CommandServer.Text

/-! ## Bytes -/

def isPrintableByte (b : UInt8) : Bool := 0x20 ≤ b.toNat && b.toNat ≤ 0x7E

/-- The control characters that have a letter after a backslash. -/
def controlLetters : List (Nat × Char) :=
  [(0x07, 'a'), (0x08, 'b'), (0x09, 't'), (0x0A, 'n'), (0x0B, 'v'), (0x0C, 'f'), (0x0D, 'r')]

/-- A byte as an escape: by its letter, or by its octal number. -/
def escapedByte (b : UInt8) : List Char :=
  match controlLetters.lookup b.toNat with
  | some l => ['\\', l]
  | none =>
    let digits := Nat.toDigits 8 b.toNat
    '\\' :: List.replicate (3 - digits.length) '0' ++ digits

/-! ## Names -/

/-- The characters that a shell never reads differently. -/
def isPlainNameChar (c : Char) : Bool := c.isAlphanum || "%+,-./:@]_".toList.contains c

/-- Characters that are plain wherever they stand but in one place: at the start, or alone. -/
def isPlainInside (c : Char) (first alone : Bool) : Bool :=
  ((c == '#' || c == '~') && !first) || ((c == '\x7b' || c == '\x7d') && !alone)

/-- Whether a name needs no quotation marks. -/
def isPlainName : List UInt8 → Bool
  | [] => false
  | b :: bs =>
    let plain (first : Bool) (b : UInt8) : Bool :=
      let c := Char.ofNat b.toNat
      isPlainNameChar c || isPlainInside c first bs.isEmpty
    plain true b && bs.all (plain false)

/-- Whether a name can stand in double quotes: all but apostrophes and blanks is plain. -/
def fitsDoubleQuotes : List UInt8 → Bool
  | [] => true
  | b :: bs =>
    let c := Char.ofNat b.toNat
    let quiet (b : UInt8) : Bool :=
      let c := Char.ofNat b.toNat
      c == apostrophe || c == ' ' || isPlainNameChar c
    (quiet b || c == '#' || c == '~') && bs.all quiet

/-- The bytes of a name between apostrophes; `escaping` says whether the notation for escapes is
open. -/
def quotedFrom (escaping : Bool) : List UInt8 → List Char
  | [] => [apostrophe]
  | b :: bs =>
    let c := Char.ofNat b.toNat
    if !isPrintableByte b then
      (if escaping then [] else [apostrophe, '$', apostrophe]) ++ escapedByte b ++
        quotedFrom true bs
    else if c = apostrophe then
      [apostrophe, '\\', apostrophe, apostrophe] ++ quotedFrom false bs
    else (if escaping then [apostrophe, apostrophe] else []) ++ c :: quotedFrom false bs

/-- A name in quotation marks: double ones if it holds apostrophes and nothing else of note. A name
that holds an apostrophe and ends in an escape starts as if an escape were open. -/
def alwaysQuoted (s : String) : String :=
  let bytes := encodeUtf8 s
  let apostrophes := s.toList.contains apostrophe
  if apostrophes && fitsDoubleQuotes bytes then "\"" ++ s ++ "\""
  else
    let escaping := apostrophes && bytes.getLast?.any (!isPrintableByte ·)
    String.ofList (apostrophe :: quotedFrom escaping bytes)

/-- A name with quotation marks only where a shell needs them. -/
def quotedForShell (s : String) : String :=
  if isPlainName (encodeUtf8 s) then s else alwaysQuoted s

/-- A name in front of a colon, which it must not hold itself. -/
def quotedName (s : String) : String :=
  if s.toList.contains ':' then alwaysQuoted s else quotedForShell s

/-! ## Words -/

/-- One byte of a word between apostrophes. -/
def wordByte (b : UInt8) : List Char :=
  let c := Char.ofNat b.toNat
  if !isPrintableByte b then escapedByte b
  else if c = apostrophe ∨ c = '\\' then ['\\', c]
  else [c]

/-- A word between apostrophes. -/
def quotedWord (s : String) : String :=
  String.ofList (apostrophe :: (encodeUtf8 s).flatMap wordByte ++ [apostrophe])

end CommandServer.Job
