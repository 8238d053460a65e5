/-
Slots of a format: the flags, the width and the precision that stand between a percent sign and the
letter of a conversion, and how texts and numbers are fitted into them.
-/
import CommandServer.Number.Decimal

namespace CommandServer.Text

/-- How wide a converted value is and on which side it is filled up. -/
structure Slot where
  left : Bool := false
  zeros : Bool := false
  plus : Bool := false
  blank : Bool := false
  alternate : Bool := false
  width : Nat := 0
  precision : Option Nat := none

namespace Slot

/-! ## Fitting -/

/-- Sign and digits filled up to the width. -/
def fill (p : Slot) (sign body : List Char) (zeros : Bool) : List Char :=
  let missing := p.width - (sign.length + body.length)
  if p.left then sign ++ body ++ List.replicate missing ' '
  else if zeros then sign ++ List.replicate missing '0' ++ body
  else List.replicate missing ' ' ++ sign ++ body

def signOf (p : Slot) (negative : Bool) : List Char :=
  if negative then ['-'] else if p.plus then ['+'] else if p.blank then [' '] else []

/-- A text, cut to the precision. -/
def fillText (p : Slot) (s : String) : List Char :=
  let cs := s.toList
  p.fill [] (match p.precision with
    | some k => cs.take k
    | none => cs) false

/-- A single character, which a precision does not cut. -/
def fillCharacter (p : Slot) (s : String) : List Char := p.fill [] s.toList false

/-- The digits of a whole number in a base, as many as the precision asks for at least. -/
def wholeDigits (p : Slot) (base : Nat) (upper : Bool) (n : Nat) : List Char :=
  let digits := Nat.toDigits base n
  let digits := List.replicate (p.precision.getD 0 - digits.length) '0' ++ digits
  if upper then digits.map Char.toUpper else digits

/-- A whole number in a base, with a mark of the base if asked for. -/
def fillInteger (p : Slot) (base : Nat) (mark : String) (upper : Bool) (n : Int) : List Char :=
  let mark := if p.alternate then mark.toList else []
  p.fill (p.signOf (n < 0) ++ mark) (p.wholeDigits base upper n.natAbs) p.zeros

/-! ## Floating point numbers -/

/-- Digits with a point before the last `places` of them; in the alternate form the point stands
even before none. -/
def pointBefore (alternate : Bool) (places : Nat) (digits : List Char) : List Char :=
  let digits := List.replicate (places + 1 - digits.length) '0' ++ digits
  let whole := digits.take (digits.length - places)
  if places = 0 ∧ !alternate then whole
  else whole ++ '.' :: digits.drop (digits.length - places)

/-- The number `m * 2 ^ e` rounded to `count` significant digits, zeros at its end included. -/
def significant (count mantissa : Nat) (exponent : Int) : Binary64.Decimal :=
  let x : Binary64.Decimal :=
    if mantissa = 0 then ⟨['0'], 0⟩ else Binary64.roundedDecimal count mantissa exponent
  ⟨x.digits ++ List.replicate (count - x.digits.length) '0', x.exponent⟩

def fixed (alternate : Bool) (places mantissa : Nat) (exponent : Int) : List Char :=
  let (n, d) := Binary64.magnitude mantissa exponent
  pointBefore alternate places (decimalDigits (Binary64.roundDiv (n * powTen places) d))

/-- One digit before the point, `places` behind it, and an exponent. -/
def scientific (alternate : Bool) (places mantissa : Nat) (exponent : Int) : List Char :=
  let x := significant (places + 1) mantissa exponent
  pointBefore alternate places x.digits ++ Binary64.exponentText x.exponent

/-- As many significant digits as asked for, in full where that is short. Zeros at the end are kept
in the alternate form only. -/
def shortest (alternate : Bool) (digits mantissa : Nat) (exponent : Int) : List Char :=
  let count := max 1 digits
  let x := significant count mantissa exponent
  let inFull := -4 ≤ x.exponent ∧ x.exponent < count
  if alternate then
    if inFull then pointBefore true ((count : Int) - 1 - x.exponent).toNat x.digits
    else scientific true (count - 1) mantissa exponent
  else
    let layout : Binary64.Layout := ⟨-4, count, false⟩
    layout.place
      (if mantissa = 0 then ⟨['0'], 0⟩ else Binary64.roundedDecimal count mantissa exponent)

/-- A number through `body`, which gets the form, the precision, and the number itself. The words
for infinity and not a number are filled up with zeros only if `zerosForWords` says so. -/
def fillFloat (p : Slot) (body : Bool → Nat → Nat → Int → List Char) (upper zerosForWords : Bool)
    (x : Binary64) : List Char :=
  let raise (cs : List Char) : List Char := if upper then cs.map Char.toUpper else cs
  match x with
  | .nan => p.fill (p.signOf false) (raise "nan".toList) (p.zeros && zerosForWords)
  | .infinite negative =>
    p.fill (p.signOf negative) (raise "inf".toList) (p.zeros && zerosForWords)
  | .finite negative m e =>
    p.fill (p.signOf negative) (raise (body p.alternate (p.precision.getD 6) m e)) p.zeros

end Slot

/-! ## Written slots -/

/-- A width or a precision is a number, or it is the next value. -/
inductive Measure where
  | number (n : Nat)
  | operand
  deriving DecidableEq, Repr

/-- A slot as a format writes it. -/
structure SlotForm where
  flags : Slot := {}
  width : Option Measure := none
  precision : Option Measure := none

/-- The slot with a width; a negative one puts the value to the left. -/
def Slot.widen (p : Slot) (width : Int) : Slot :=
  { p with left := p.left || width < 0, width := width.natAbs }

namespace SlotForm

def readFlags (p : Slot) : List Char → Slot × List Char
  | '-' :: r => readFlags { p with left := true } r
  | '0' :: r => readFlags { p with zeros := true } r
  | '+' :: r => readFlags { p with plus := true } r
  | ' ' :: r => readFlags { p with blank := true } r
  | '#' :: r => readFlags { p with alternate := true } r
  | r => (p, r)

def readMeasure : List Char → Option Measure × List Char
  | '*' :: r => (some .operand, r)
  | cs =>
    let digits := cs.takeWhile Char.isDigit
    (if digits.isEmpty then none else some (.number (ofDigits 10 digits)), cs.drop digits.length)

/-- A slot up to what follows its precision. A point without a number is a precision of zero. -/
def read (cs : List Char) : SlotForm × List Char :=
  let (flags, r) := readFlags {} cs
  let (width, r) := readMeasure r
  match r with
  | '.' :: r =>
    let (precision, r) := readMeasure r
    (⟨flags, width, precision.orElse fun _ => some (.number 0)⟩, r)
  | r => (⟨flags, width, none⟩, r)

/-- The letters that announce the size of a number. -/
def isSizeMark (c : Char) : Bool := c == 'h' || c == 'l' || c == 'L'

end SlotForm

end CommandServer.Text
