/-
Quoted text: how a text or a byte string stands inside a larger one. The quotation mark is an
apostrophe, or a double quote when the text holds an apostrophe and no double quote. The mark
itself, the backslash and every character that is not printable are escaped.
-/
import CommandServer.Text.Digit
import CommandServer.Text.Printable

namespace CommandServer.Text

def apostrophe : Char := '\x27'

def doubleQuote : Char := '\x22'

/-- The mark that quotes a text. -/
def quotationMark (cs : List Char) : Char :=
  if cs.contains apostrophe && !cs.contains doubleQuote then doubleQuote else apostrophe

/-- The escapes that have a letter of their own. -/
def letterEscape? (c : Char) : Option Char :=
  if c = '\n' then some 'n' else if c = '\r' then some 'r' else if c = '\t' then some 't' else none

/-- One character between quotation marks. -/
def quotedChar (mark c : Char) : List Char :=
  if c = mark ∨ c = '\\' then ['\\', c]
  else match letterEscape? c with
    | some l => ['\\', l]
    | none =>
      if isPrintable c then [c]
      else if c.toNat ≤ 0xFF then '\\' :: 'x' :: (paddedHex 2 c.toNat).toList
      else if c.toNat ≤ 0xFFFF then '\\' :: 'u' :: (paddedHex 4 c.toNat).toList
      else '\\' :: 'U' :: (paddedHex 8 c.toNat).toList

/-- A text in quotation marks. -/
def quoted (s : String) : String :=
  let mark := quotationMark s.toList
  String.ofList (mark :: s.toList.flatMap (quotedChar mark) ++ [mark])

/-- One byte between quotation marks: only ASCII is printable here. -/
def quotedByte (mark : Char) (b : UInt8) : List Char :=
  if b.toNat < 0x7F then quotedChar mark (Char.ofNat b.toNat)
  else '\\' :: 'x' :: (paddedHex 2 b.toNat).toList

/-- A byte string in quotation marks, with the letter that sets it apart from a text. -/
def quotedBytes (bs : List UInt8) : String :=
  let mark := quotationMark (bs.map fun b => Char.ofNat b.toNat)
  String.ofList ('b' :: mark :: bs.flatMap (quotedByte mark) ++ [mark])

end CommandServer.Text
