/-
Scalars from their texts. The type of a scalar says how its text is read, which a suggested type
nearly always allows.
-/
import CommandServer.Text.Lower
import CommandServer.Outside.Yaml.NodeType
import CommandServer.Outside.Yaml.Token

namespace CommandServer.Yaml

open CommandServer.Text

/-! ## Integers -/

/-- The letter that may stand after a zero in front of the digits of a base. -/
def baseLetter? (base : Nat) : Option Char :=
  if base = 2 then some 'b' else if base = 8 then some 'o' else if base = 16 then some 'x' else none

def dropBaseMark (base : Nat) : List Char → List Char
  | '0' :: c :: r => if baseLetter? base = some c.toLower then r else '0' :: c :: r
  | cs => cs

def isDigitOf (base : Nat) (c : Char) : Bool := (hexDigitValue? c).any (· < base)

/-- An integer in a base, with a sign and blanks around it. Too many decimal digits are too many
whatever follows them. -/
def readInBase (base : Nat) (ps : List Nat) : Except Fault Int :=
  let (negative, body) :=
    Binary64.splitSign (Binary64.unifyDigits (Binary64.trimNumber (pointChars ps)))
  let digits := dropBaseMark base body
  let count := (digits.takeWhile (isDigitOf base)).length
  if base = 10 ∧ maxDigits < count then .error (.integerTooLong count)
  else if count = 0 ∨ count < digits.length then .error (.badInteger base ps)
  else .ok (if negative then -(ofDigits base digits : Int) else ofDigits base digits)

/-- The value of a list of digits to the base sixty, the last one first. -/
def sixtiethsValue : List Int → Int
  | [] => 0
  | d :: r => d + 60 * sixtiethsValue r

def dropUnderscores (ps : List Nat) : List Nat := ps.filter (· != '_'.toNat)

/-- A sign, if there is one, and the rest of a text, which must not be empty. -/
def splitNumber (ps : List Nat) : Except Fault (Bool × List Nat) :=
  if ps.isEmpty then .error .emptyNumber
  else
    let (negative, body) := Binary64.splitSign (pointChars ps)
    .ok (negative, ps.drop (ps.length - body.length))

def readInt (ps : List Nat) : Except Fault Int := do
  let (negative, body) ← splitNumber (dropUnderscores ps)
  let n ← match pointChars body with
    | [] => .error .emptyNumber
    | ['0'] => .ok 0
    | '0' :: 'b' :: _ => readInBase 2 (body.drop 2)
    | '0' :: 'x' :: _ => readInBase 16 (body.drop 2)
    | '0' :: _ => readInBase 8 body
    | cs =>
      if cs.contains ':' then
        ((splitPoints ':' [] body).mapM (readInBase 10)).map fun ds => sixtiethsValue ds.reverse
      else readInBase 10 body
  return if negative then -n else n

/-! ## Floating point numbers -/

def readFloatPart (ps : List Nat) : Except Fault Binary64 :=
  match Binary64.read? (pointChars ps) with
  | some x => .ok x
  | none => .error (.badFloat ps)

/-- The sum of parts to the base sixty, the last part first, rounded at every step. -/
def sumSixtieths (base : Nat) (sum : Binary64) : List Binary64 → Except Fault Binary64
  | [] => .ok sum
  | x :: r =>
    match Binary64.ofInt? base with
    | none => .error .integerTooLarge
    | some b => sumSixtieths (base * 60) (sum.add (x.mul b)) r

def nanWord : List Char := ".nan".toList

def infinityWord : List Char := ".inf".toList

def readFloat (ps : List Nat) : Except Fault Binary64 := do
  let (negative, body) ← splitNumber (lowerPoints (dropUnderscores ps))
  let cs := pointChars body
  if cs == nanWord then return .nan
  let x ←
    if cs == infinityWord then .ok (.infinite false)
    else if cs.contains ':' then do
      sumSixtieths 1 .zero (← (splitPoints ':' [] body).mapM readFloatPart).reverse
    else readFloatPart body
  return if negative then x.neg else x

/-- Whether a text is the word for "not a number", which is one and the same wherever it stands. -/
def isNanWord (ps : List Nat) : Bool :=
  (Binary64.splitSign (pointChars (lowerPoints (dropUnderscores ps)))).2 == nanWord

/-! ## Booleans -/

def readBool (ps : List Nat) : Except Fault Bool :=
  let lower := lowerPoints ps
  let word := String.ofList (pointChars lower)
  if trueWords.contains word then .ok true
  else if falseWords.contains word then .ok false
  else .error (.badBoolean lower)

/-! ## Bytes -/

/-- The value of a digit to the base sixty-four. -/
def sixtyFourth? (c : Char) : Option Nat :=
  if 'A' ≤ c ∧ c ≤ 'Z' then some (c.toNat - 0x41)
  else if 'a' ≤ c ∧ c ≤ 'z' then some (c.toNat - 0x61 + 26)
  else if c.isDigit then some (c.toNat - 0x30 + 52)
  else if c = '+' then some 62
  else if c = '/' then some 63
  else none

/-- The bytes of a text to the base sixty-four. Other characters are passed over; `held` are the
bits without a byte yet, `place` their number of digits, `pads` the padding just before. -/
def readBytes? (held place pads : Nat) : List Char → Option (List UInt8)
  | [] => if place = 0 then some [] else none
  | '=' :: r =>
    if 2 ≤ place ∧ 4 ≤ place + pads + 1 then some []
    else readBytes? held place (if 2 ≤ place then pads + 1 else pads) r
  | c :: r =>
    match sixtyFourth? c with
    | none => readBytes? held place pads r
    | some d =>
      match place with
      | 0 => readBytes? d 1 0 r
      | 1 => (readBytes? (d % 16) 2 0 r).map (UInt8.ofNat (held * 4 + d / 16) :: ·)
      | 2 => (readBytes? (d % 4) 3 0 r).map (UInt8.ofNat (held * 16 + d / 4) :: ·)
      | _ => (readBytes? 0 0 0 r).map (UInt8.ofNat (held * 64 + d) :: ·)

/-! ## Scalars of a type -/

def lift {α : Type} (x : Except Fault α) : Except Failure α := x.mapError .fault

/-- The scalar of a type that a text spells. -/
def ScalarType.read (t : ScalarType) (ps : List Nat) : Except Failure Scalar :=
  let cs := pointChars ps
  match t with
  | .null => .ok .null
  | .bool => lift ((readBool ps).map .bool)
  | .int => lift ((readInt ps).map .int)
  | .float => lift ((readFloat ps).map .float)
  | .text => .ok (.text (String.ofList (joinHalves ps)))
  | .bytes =>
    match if cs.all (·.toNat < 0x80) then readBytes? 0 0 0 cs else none with
    | some bs => .ok (.bytes bs)
    | none => .error .malformed
  | .timestamp =>
    match Timestamp.read? (dropLastBreak cs) with
    | some t => lift t.scalar
    | none => .error (.fault .badTimestamp)

end CommandServer.Yaml
