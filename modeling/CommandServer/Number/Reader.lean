/-
Reading a number from text: blanks around it, a sign, decimal digits of any script with single
underscores between them, a point, an exponent, or the words for infinity and not a number.
-/
import CommandServer.Number.Binary64
import CommandServer.Text.Blank
import CommandServer.Text.Digit

namespace CommandServer.Binary64

open CommandServer.Text

/-- Blanks around a number: all blanks but the four information separators. -/
def isNumberBlank (c : Char) : Bool :=
  isBlank c && !(0x1C ≤ c.toNat && c.toNat ≤ 0x1F)

def trimNumber (cs : List Char) : List Char :=
  ((cs.dropWhile isNumberBlank).reverse.dropWhile isNumberBlank).reverse

/-- Every decimal digit as an ASCII one. -/
def unifyDigits (cs : List Char) : List Char :=
  cs.map fun c => match digitValue? c with
    | some d => asciiDigit d
    | none => c

/-- The text without its underscores, each of which must stand between two digits. -/
def dropUnderscores? (before : Option Char) : List Char → Option (List Char)
  | [] => some []
  | '_' :: r =>
    if (before.any Char.isDigit) && (r.head?.any Char.isDigit) then dropUnderscores? (some '_') r
    else none
  | c :: r => (dropUnderscores? (some c) r).map (c :: ·)

/-- A sign, if there is one, and the rest. -/
def splitSign : List Char → Bool × List Char
  | '-' :: r => (true, r)
  | '+' :: r => (false, r)
  | r => (false, r)

/-- The value of an exponent part, which may be missing. -/
def readExponent? : List Char → Option Int
  | [] => some 0
  | c :: r =>
    if c = 'e' ∨ c = 'E' then
      let (negative, ds) := splitSign r
      if ds.isEmpty || !ds.all Char.isDigit then none
      else some (if negative then -(ofDigits 10 ds : Int) else ofDigits 10 ds)
    else none

/-- An unsigned decimal number with optional point and exponent. -/
def readUnsigned? (negative : Bool) (cs : List Char) : Option Binary64 :=
  let whole := cs.takeWhile Char.isDigit
  let rest := cs.dropWhile Char.isDigit
  let (fraction, tail) := match rest with
    | '.' :: r => (r.takeWhile Char.isDigit, r.dropWhile Char.isDigit)
    | r => ([], r)
  if whole.isEmpty && fraction.isEmpty then none
  else (readExponent? tail).map fun e =>
    ofDecimal negative (ofDigits 10 (whole ++ fraction)) (e - fraction.length)

/-- The number that a text spells, if it spells one. -/
def read? (cs : List Char) : Option Binary64 :=
  (dropUnderscores? none (unifyDigits (trimNumber cs))).bind fun cs =>
    let (negative, body) := splitSign cs
    let word := String.ofList (lowerAscii body)
    if word = "inf" ∨ word = "infinity" then some (.infinite negative)
    else if word = "nan" then some .nan
    else readUnsigned? negative body

end CommandServer.Binary64
