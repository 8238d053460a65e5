/-
Decimal text of a binary64 number. The shortest text has the fewest digits that read back to the
number, and of those the nearest; the rounded text has a fixed count of significant digits. Where
the decimal point goes is a layout of its own.
-/
import CommandServer.Number.Binary64
import CommandServer.Text.Digit

namespace CommandServer.Binary64

open CommandServer.Text

/-- Significant digits and the power of ten of the first one. -/
structure Decimal where
  digits : List Char
  exponent : Int

/-- A whole number of significant digits as a decimal; zeros at its end carry no information. -/
def Decimal.ofNat (n : Nat) (lastExponent : Int) : Decimal :=
  let all := decimalDigits n
  let kept := (all.reverse.dropWhile (· == '0')).reverse
  ⟨kept, lastExponent + all.length - 1⟩

/-! ## Digits -/

/-- Numerator and denominator of `m * 2 ^ e / 10 ^ u`. -/
def overPowerOfTen (m : Nat) (e u : Int) : Nat × Nat :=
  (m * powTwo e.toNat * powTen (-u).toNat, powTwo (-e).toNat * powTen u.toNat)

/-- The power of ten of the first digit of `m * 2 ^ e`, for positive `m`. Every positive number
times `10 ^ 400` is above one. -/
def decimalExponent (m : Nat) (e : Int) : Int :=
  let (n, d) := overPowerOfTen m e (-400)
  (decimalDigits (n / d)).length - 401

/-- The number `m * 2 ^ e` rounded to `count` significant digits, a tie to the even digit. -/
def roundedDecimal (count : Nat) (m : Nat) (e : Int) : Decimal :=
  let u := decimalExponent m e - count + 1
  let (n, d) := overPowerOfTen m e u
  Decimal.ofNat (roundDiv n d) u

/-- Whether `c * 10 ^ u` rounds to the number `m * 2 ^ e`. Halfway points belong to it when its
mantissa is even; below a power of two the numbers lie closer. -/
def readsBack (m : Nat) (e : Int) (c : Nat) (u : Int) : Bool :=
  let low := if m = powTwo (precision - 1) ∧ minExponent < e then 4 * m - 1 else 4 * m - 2
  let high := 4 * m + 2
  let (scale, d) := overPowerOfTen 1 (e - 2) u
  let x := c * d
  if m % 2 = 0 then low * scale ≤ x && x ≤ high * scale else low * scale < x && x < high * scale

/-- The grid point with `count` digits that reads back to the number, the nearer of two. -/
def gridDecimal? (m : Nat) (e : Int) (count : Nat) : Option Decimal :=
  let u := decimalExponent m e - count + 1
  let (n, d) := overPowerOfTen m e u
  let q := n / d
  let near := roundDiv n d
  let far := if near = q then q + 1 else q
  if readsBack m e near u then some (Decimal.ofNat near u)
  else if readsBack m e far u then some (Decimal.ofNat far u)
  else none

/-- The fewest digits that read back to the number; seventeen always do. -/
def shortestDecimal (m : Nat) (e : Int) : Decimal :=
  ((List.range 17).findSome? fun k => gridDecimal? m e (k + 1)).getD (roundedDecimal 17 m e)

/-! ## Layout -/

/-- Where numbers are written out in full and whether a whole number keeps its point. -/
structure Layout where
  leastPositional : Int
  firstExponential : Int
  keepsPoint : Bool

/-- Sign and digits of an exponent, two digits at least. -/
def exponentText (p : Int) : List Char :=
  'e' :: (if p < 0 then '-' else '+') :: (padded 2 p.natAbs).toList

def Layout.place (l : Layout) (x : Decimal) : List Char :=
  let p := x.exponent
  if l.leastPositional ≤ p ∧ p < l.firstExponential then
    if p < 0 then '0' :: '.' :: List.replicate (p.natAbs - 1) '0' ++ x.digits
    else
      let whole := x.digits.take (p.toNat + 1)
      let fraction := x.digits.drop (p.toNat + 1)
      whole ++ List.replicate (p.toNat + 1 - whole.length) '0' ++
        (if fraction.isEmpty then (if l.keepsPoint then ['.', '0'] else []) else '.' :: fraction)
  else
    match x.digits with
    | [] => []
    | [d] => d :: exponentText p
    | d :: ds => d :: '.' :: ds ++ exponentText p

/-- Numbers in values: in full from `0.0001` up to sixteen digits, and always with a point or an
exponent. -/
def valueLayout : Layout := ⟨-4, 16, true⟩

/-- Numbers in messages: six significant digits, in full from `0.0001` up to six digits. -/
def messageLayout : Layout := ⟨-4, 6, false⟩

def messageDigits : Nat := 6

/-- A number through a layout, with the digits that `digits` gives for a positive one. -/
def textWith (l : Layout) (digits : Nat → Int → Decimal) : Binary64 → String
  | .nan => "nan"
  | .infinite negative => if negative then "-inf" else "inf"
  | .finite negative m e =>
    let body := if m = 0 then l.place ⟨['0'], 0⟩ else l.place (digits m e)
    String.ofList (if negative then '-' :: body else body)

/-- The shortest text that reads back. -/
def text : Binary64 → String :=
  textWith valueLayout shortestDecimal

/-- The text with six significant digits. -/
def roundedText : Binary64 → String :=
  textWith messageLayout (roundedDecimal messageDigits)

end CommandServer.Binary64
