/-
Numbers as arguments of a formatted printing: integers in base ten, eight or sixteen, numbers with
a point or an exponent, and the number of a character behind a quotation mark. What follows a number
is a flaw, and so is a number out of range, but both leave a number to print.
-/
import CommandServer.Number.Reader
import CommandServer.Text.Utf8

namespace CommandServer.Job

open CommandServer.Text

/-- The dialects of formats: that of a shell's own command, and the larger one of a program. -/
inductive Dialect where
  | shell
  | program
  deriving DecidableEq

/-- What is wrong with the text of a number. -/
inductive NumberFlaw where
  | unread
  | unfinished
  | outOfRange
  /-- A character with more text behind it, which only the larger dialect minds. -/
  | excess (rest : List Char)
  deriving DecidableEq

/-- A number with what is wrong with its text. -/
abbrev Operand (α : Type) := α × Option NumberFlaw

/-- The flaw of a text from which a number was read as far as `rest`. -/
def flawOf (rest : List Char) (inRange : Bool) : Option NumberFlaw :=
  if !rest.isEmpty then some .unfinished else if inRange then none else some .outOfRange

def isSpace (c : Char) : Bool := c == ' ' || (0x09 ≤ c.toNat && c.toNat ≤ 0x0D)

/-- The number of a character behind a quotation mark: that of its first byte. A mark alone is zero
in the smaller dialect. -/
def characterOperand? (d : Dialect) : List Char → Option (Operand Nat)
  | [] => none
  | mark :: cs =>
    if mark ≠ '\x27' ∧ mark ≠ '\x22' then none
    else match cs with
      | [] => if d = .shell then some (0, none) else none
      | c :: r =>
        match encodeUtf8 (String.ofList [c]) with
        | [b] => some (b.toNat, if r.isEmpty then none else some (.excess r))
        | bs => some ((bs.headD 0).toNat, some (.excess (replacementChar :: r)))

/-! ## Integers -/

/-- Base and digits of a whole number. -/
def splitBase : List Char → Nat × List Char
  | '0' :: c :: d :: r =>
    if (c = 'x' ∨ c = 'X') ∧ (hexDigitValue? d).isSome then (16, d :: r)
    else (8, '0' :: c :: d :: r)
  | '0' :: r => (8, '0' :: r)
  | r => (10, r)

/-- The whole number at the start of a text, and what follows it. -/
def readWhole? (cs : List Char) : Option (Int × List Char) :=
  let (negative, body) := Binary64.splitSign (cs.dropWhile isSpace)
  let (base, digits) := splitBase body
  let taken := digits.takeWhile fun c => (hexDigitValue? c).any (· < base)
  let n : Int := ofDigits base taken
  if taken.isEmpty then none else some (if negative then -n else n, digits.drop taken.length)

def maxSigned : Int := powTwo 63 - 1

def maxUnsigned : Int := powTwo 64 - 1

/-- A number with a sign, moved into its range. -/
def clampSigned (n : Int) : Int := max (-maxSigned - 1) (min maxSigned n)

/-- A number without a sign. A negative one counts back from the end of the range. -/
def clampUnsigned (n : Int) : Int :=
  if maxUnsigned < n.natAbs then maxUnsigned else n % (maxUnsigned + 1)

def inUnsignedRange (n : Int) : Bool := n.natAbs ≤ maxUnsigned

/-- The integer that an argument spells, of either kind. The empty text is zero. -/
def integerOperand (d : Dialect) (signed : Bool) (s : String) : Operand Int :=
  let cs := s.toList
  match characterOperand? d cs with
  | some (n, flaw) => (n, flaw)
  | none =>
    match readWhole? cs with
    | none => (0, if cs.isEmpty then none else some .unread)
    | some (n, rest) =>
      if signed then (clampSigned n, flawOf rest (clampSigned n == n))
      else (clampUnsigned n, flawOf rest (inUnsignedRange n))

/-! ## Numbers with a point -/

/-- The number nearest to `num / den` with a mantissa of 64 bits. -/
def roundWide (negative : Bool) (num den : Nat) : Binary64 :=
  if num = 0 then .finite negative 0 0
  else
    let e : Int := (num.log2 : Int) - (den.log2 : Int) - 64
    let (n, d) := Binary64.scaleDown num den e
    let e := if powTwo 64 ≤ n / d then e + 1 else e
    let (n, d) := Binary64.scaleDown num den e
    .finite negative (Binary64.roundDiv n d) e

/-- The greatest power of ten that a number of a dialect has. -/
def maxMagnitude : Dialect → Int
  | .shell => 309
  | .program => 4933

/-- The number `digits * 10 ^ exponent` as a dialect knows it, and whether it is in range. -/
def decimalNumber (d : Dialect) (negative : Bool) (digits : Nat) (exponent : Int) :
    Binary64 × Bool :=
  let magnitude : Int := (decimalDigits digits).length + exponent
  if digits = 0 then (.finite negative 0 0, true)
  else if maxMagnitude d < magnitude then (.infinite negative, false)
  else if magnitude < -390 then (.finite negative 0 0, d = .program)
  else match d with
    | .shell =>
      let x := Binary64.ofDecimal negative digits exponent
      (x, x != .infinite negative && !x.isZero)
    | .program =>
      (roundWide negative (digits * powTen exponent.toNat) (powTen (-exponent).toNat), true)

/-- An exponent behind its letter; without digits it is none. -/
def readExponent (isLetter : Char → Bool) (cs : List Char) : Int × List Char :=
  match cs with
  | e :: r =>
    let (negative, digits) := Binary64.splitSign r
    let taken := digits.takeWhile Char.isDigit
    if isLetter e && !taken.isEmpty then
      let n : Int := ofDigits 10 taken
      (if negative then -n else n, digits.drop taken.length)
    else (0, cs)
  | [] => (0, [])

/-- The digits of a number in a base, how many of them stand behind its point, and the rest. -/
def readFraction? (isDigit : Char → Bool) (cs : List Char) :
    Option (List Char × Nat × List Char) :=
  let whole := cs.takeWhile isDigit
  let (fraction, rest) := match cs.drop whole.length with
    | '.' :: r => (r.takeWhile isDigit, r.dropWhile isDigit)
    | r => ([], r)
  if whole.isEmpty && fraction.isEmpty then none
  else some (whole ++ fraction, fraction.length, rest)

def startsWithWord (word : String) (cs : List Char) : Bool :=
  lowerAscii (cs.take word.length) == word.toList

/-- A remark in parentheses behind the word for "not a number". -/
def dropRemark (cs : List Char) : List Char :=
  match cs with
  | '(' :: r =>
    match r.dropWhile fun c => c.isAlphanum || c == '_' with
    | ')' :: r => r
    | _ => cs
  | _ => cs

def isHexMark : List Char → Bool
  | '0' :: c :: r =>
    (c == 'x' || c == 'X') && (readFraction? (fun c => (hexDigitValue? c).isSome) r).isSome
  | _ => false

/-- The number at the start of a text, whether it is in range, and what follows it. -/
def readReal? (d : Dialect) (cs : List Char) : Option (Binary64 × Bool × List Char) :=
  let (negative, body) := Binary64.splitSign (cs.dropWhile isSpace)
  if startsWithWord "infinity" body then some (.infinite negative, true, body.drop 8)
  else if startsWithWord "inf" body then some (.infinite negative, true, body.drop 3)
  else if startsWithWord "nan" body then some (.nan, true, dropRemark (body.drop 3))
  else if isHexMark body then
    (readFraction? (fun c => (hexDigitValue? c).isSome) (body.drop 2)).map
      fun (digits, places, rest) =>
        let (e, rest) := readExponent (fun c => c == 'p' || c == 'P') rest
        let e := max (-1300) (min 1300 (e - 4 * places))
        let (n, den) := (ofDigits 16 digits * powTwo e.toNat, powTwo (-e).toNat)
        let x :=
          if d = .program then roundWide negative n den else Binary64.ofRatio negative n den
        (x, true, rest)
  else
    (readFraction? Char.isDigit body).map fun (digits, places, rest) =>
      let (e, rest) := readExponent (fun c => c == 'e' || c == 'E') rest
      let (x, inRange) := decimalNumber d negative (ofDigits 10 digits) (e - places)
      (x, inRange, rest)

/-- The number that an argument spells. The empty text is zero. -/
def realOperand (d : Dialect) (s : String) : Operand Binary64 :=
  let cs := s.toList
  match characterOperand? d cs with
  | some (n, flaw) => (Binary64.ofRatio false n 1, flaw)
  | none =>
    match readReal? d cs with
    | none => (.zero, if cs.isEmpty then none else some .unread)
    | some (x, inRange, rest) => (x, flawOf rest inRange)

end CommandServer.Job
