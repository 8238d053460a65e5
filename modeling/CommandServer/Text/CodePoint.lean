/-
Texts as code points. An escape can spell one half of a surrogate pair, which is no character, so a
text that may hold escapes is a list of code points until its halves are joined.
-/
import CommandServer.Text.Quoted
import CommandServer.Text.Utf8

namespace CommandServer.Text

/-! ## Halves of pairs -/

def isHighHalf (n : Nat) : Bool := 0xD800 ≤ n && n ≤ 0xDBFF

def isLowHalf (n : Nat) : Bool := 0xDC00 ≤ n && n ≤ 0xDFFF

def isHalf (n : Nat) : Bool := isHighHalf n || isLowHalf n

/-- The code point that two halves are together. -/
def joinPair (high low : Nat) : Nat := 0x10000 + (high - 0xD800) * 0x400 + (low - 0xDC00)

/-! ## Characters -/

def codePoints (cs : List Char) : List Nat := cs.map Char.toNat

/-- The character of a code point; a half has none and is replaced. -/
def pointChar (n : Nat) : Char := if isHalf n then replacementChar else Char.ofNat n

/-- The characters of a text, one for each code point. -/
def pointChars (ps : List Nat) : List Char := ps.map pointChar

/-- The characters of a text, two halves that follow each other being one. -/
def joinHalves : List Nat → List Char
  | [] => []
  | [n] => [pointChar n]
  | n :: m :: r =>
    if isHighHalf n && isLowHalf m then Char.ofNat (joinPair n m) :: joinHalves r
    else pointChar n :: joinHalves (m :: r)

/-! ## Quotation -/

/-- One code point between quotation marks; a half is escaped. -/
def quotedPoint (mark : Char) (n : Nat) : List Char :=
  if isHalf n then '\\' :: 'u' :: (paddedHex 4 n).toList else quotedChar mark (Char.ofNat n)

/-- A text of code points in quotation marks. -/
def quotedPoints (ps : List Nat) : String :=
  let mark := quotationMark (pointChars ps)
  String.ofList (mark :: ps.flatMap (quotedPoint mark) ++ [mark])

/-! ## Pieces -/

/-- The pieces of a text between the code points of one character, with the piece read so far in
reverse. -/
def splitPoints (separator : Char) (piece : List Nat) : List Nat → List (List Nat)
  | [] => [piece.reverse]
  | n :: r =>
    if n = separator.toNat then piece.reverse :: splitPoints separator [] r
    else splitPoints separator (n :: piece) r

end CommandServer.Text
