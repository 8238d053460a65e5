/-
Numbers of 64-bit binary floating point, by their exact value: not a number, an infinity, or
`mantissa * 2 ^ exponent` with a sign. Every operation rounds its exact result to the nearest such
number, a tie to the even mantissa.
-/
namespace CommandServer

def powTwo (n : Nat) : Nat := Nat.pow 2 n

def powTen (n : Nat) : Nat := Nat.pow 10 n

inductive Binary64 where
  | nan
  | infinite (negative : Bool)
  | finite (negative : Bool) (mantissa : Nat) (exponent : Int)
  deriving DecidableEq, Repr, Inhabited

namespace Binary64

/-- Bits of a full mantissa. -/
def precision : Nat := 53

/-- The exponent of the smallest positive number. -/
def minExponent : Int := -1074

/-- The greatest exponent of a finite number. -/
def maxExponent : Int := 971

def zero : Binary64 := .finite false 0 minExponent

/-! ## Rounding -/

/-- The quotient of two naturals rounded to the nearest integer, a tie to the even one. -/
def roundDiv (num den : Nat) : Nat :=
  let q := num / den
  let r := num % den
  if den < 2 * r ∨ (2 * r = den ∧ q % 2 = 1) then q + 1 else q

/-- Numerator and denominator of `num / den` divided by `2 ^ e`. -/
def scaleDown (num den : Nat) (e : Int) : Nat × Nat :=
  if e < 0 then (num * powTwo (-e).toNat, den) else (num, den * powTwo e.toNat)

/-- The exponent at which `num / den` has a full mantissa, or the least one. -/
def exponentOf (num den : Nat) : Int :=
  let e : Int := (num.log2 : Int) - (den.log2 : Int) - precision
  let (n, d) := scaleDown num den e
  max minExponent (if powTwo precision ≤ n / d then e + 1 else e)

/-- The number nearest to `num / den`; what is too large becomes an infinity. -/
def ofRatio (negative : Bool) (num den : Nat) : Binary64 :=
  if num = 0 then .finite negative 0 minExponent
  else
    let e := exponentOf num den
    let (n, d) := scaleDown num den e
    let m := roundDiv n d
    let (m, e) := if m = powTwo precision then (powTwo (precision - 1), e + 1) else (m, e)
    if maxExponent < e then .infinite negative else .finite negative m e

/-- The number nearest to an integer, if one is finite. -/
def ofInt? (n : Int) : Option Binary64 :=
  match ofRatio (n < 0) n.natAbs 1 with
  | .infinite _ => none
  | x => some x

/-- The number nearest to `digits * 10 ^ exponent`. Exponents so far off that only an infinity or
zero can result are not computed. -/
def ofDecimal (negative : Bool) (digits : Nat) (exponent : Int) : Binary64 :=
  let magnitude : Int := (Nat.toDigits 10 digits).length + exponent
  if digits = 0 ∨ magnitude < -400 then .finite negative 0 minExponent
  else if 400 < magnitude then .infinite negative
  else if exponent < 0 then ofRatio negative digits (powTen (-exponent).toNat)
  else ofRatio negative (digits * powTen exponent.toNat) 1

/-! ## Exact values -/

/-- Numerator and denominator of the magnitude of a finite number. -/
def magnitude (mantissa : Nat) (exponent : Int) : Nat × Nat :=
  if exponent < 0 then (mantissa, powTwo (-exponent).toNat)
  else (mantissa * powTwo exponent.toNat, 1)

/-- The exact value as a signed numerator over a denominator. -/
def toRatio? : Binary64 → Option (Int × Nat)
  | .finite negative m e =>
    let (n, d) := magnitude m e
    some (if negative then -(n : Int) else n, d)
  | _ => none

/-- Whether the number is zero or below; not a number is neither. -/
def isNonPositive : Binary64 → Bool
  | .nan => false
  | .infinite negative => negative
  | .finite negative m _ => negative || m == 0

def isZero : Binary64 → Bool
  | .finite _ 0 _ => true
  | _ => false

/-- Equality of values: the two zeros are equal, and not a number equals itself. -/
def sameValue (x y : Binary64) : Bool :=
  match x.toRatio?, y.toRatio? with
  | some (a, b), some (c, d) => a * d == c * b
  | _, _ => x == y

/-- Equality of the value with an integer. -/
def isInteger (x : Binary64) (n : Int) : Bool :=
  match x.toRatio? with
  | some (a, b) => a == n * b
  | none => false

/-! ## Arithmetic -/

def neg : Binary64 → Binary64
  | .nan => .nan
  | .infinite s => .infinite (!s)
  | .finite s m e => .finite (!s) m e

def add (x y : Binary64) : Binary64 :=
  match x, y with
  | .nan, _ => .nan
  | _, .nan => .nan
  | .infinite s, .infinite t => if s = t then .infinite s else .nan
  | .infinite s, _ => .infinite s
  | _, .infinite t => .infinite t
  | .finite s m e, .finite t n f =>
    let (a, b) := magnitude m e
    let (c, d) := magnitude n f
    let sum : Int := (if s then -(a : Int) else a) * d + (if t then -(c : Int) else c) * b
    ofRatio (if sum = 0 then s && t else sum < 0) sum.natAbs (b * d)

def mul (x y : Binary64) : Binary64 :=
  match x, y with
  | .nan, _ => .nan
  | _, .nan => .nan
  | .infinite s, .infinite t => .infinite (s != t)
  | .infinite s, .finite t m _ => if m = 0 then .nan else .infinite (s != t)
  | .finite s m _, .infinite t => if m = 0 then .nan else .infinite (s != t)
  | .finite s m e, .finite t n f =>
    let (a, b) := magnitude m e
    let (c, d) := magnitude n f
    ofRatio (s != t) (a * c) (b * d)

end CommandServer.Binary64
