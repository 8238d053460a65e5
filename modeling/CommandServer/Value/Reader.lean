/-
Reading a value from JSON text. Blanks may stand between the parts. A name that occurs twice in a
record keeps its first place and its last value.
-/
import CommandServer.Number.Reader
import CommandServer.Value.Json

namespace CommandServer.Value

open CommandServer.Text

/-! ## Blanks and signs -/

def isJsonBlank (c : Char) : Bool := c == ' ' || c == '\t' || c == '\n' || c == '\r'

def skipBlanks (cs : List Char) : List Char := cs.dropWhile isJsonBlank

/-- What follows a sign that must stand here, blanks passed over. -/
def afterSign? (sign : Char) (cs : List Char) : Option (List Char) :=
  match skipBlanks cs with
  | c :: r => if c = sign then some r else none
  | [] => none

/-- What follows a word that must stand here. -/
def afterWord? (word : String) (cs : List Char) : Option (List Char) :=
  if word.toList.isPrefixOf cs then some (cs.drop word.length) else none

/-! ## Strings -/

/-- The four digits of a UTF-16 unit. -/
def readUnit? (cs : List Char) : Option (Nat × List Char) :=
  let digits := cs.take 4
  if digits.length = 4 ∧ digits.all fun c => (hexDigitValue? c).isSome then
    some (ofDigits 16 digits, cs.drop 4)
  else none

/-- The character that an escape gives, its first two characters being behind. The upper half of a
pair needs the lower one. -/
def readUnitEscape? (cs : List Char) : Option (Char × List Char) := do
  let (high, r) ← readUnit? cs
  if 0xD800 ≤ high ∧ high < 0xDC00 then
    let (low, r) ← readUnit? (← afterWord? "\\u" r)
    if 0xDC00 ≤ low ∧ low < 0xE000 then
      some (Char.ofNat (0x10000 + (high - 0xD800) * 0x400 + (low - 0xDC00)), r)
    else none
  else if 0xDC00 ≤ high ∧ high < 0xE000 then none
  else some (Char.ofNat high, r)

def jsonEscapes : List (Char × Char) :=
  [(doubleQuote, doubleQuote), ('\\', '\\'), ('/', '/'), ('b', '\x08'), ('f', '\x0c'), ('n', '\n'),
    ('r', '\r'), ('t', '\t')]

/-- A string behind its opening quote, with what follows it. -/
def readString? : Nat → List Char → Option (List Char × List Char)
  | 0, _ => none
  | _ + 1, [] => none
  | n + 1, '\\' :: 'u' :: r => do
    let (c, r) ← readUnitEscape? r
    let (cs, r) ← readString? n r
    return (c :: cs, r)
  | n + 1, '\\' :: e :: r => do
    let c ← jsonEscapes.lookup e
    let (cs, r) ← readString? n r
    return (c :: cs, r)
  | n + 1, c :: r =>
    if c = doubleQuote then some ([], r)
    else if c.toNat < 0x20 ∨ c = '\\' then none
    else (readString? n r).map fun (cs, r) => (c :: cs, r)

/-! ## Numbers -/

def isNumberPart (c : Char) : Bool :=
  c.isDigit || c == '-' || c == '+' || c == '.' || c == 'e' || c == 'E'

/-- A number: an integer unless it has a point or an exponent. -/
def readNumber? (cs : List Char) : Option (Value × List Char) :=
  let number := cs.takeWhile isNumberPart
  let rest := cs.dropWhile isNumberPart
  let (negative, digits) := match number with
    | '-' :: r => (true, r)
    | r => (false, r)
  if !digits.head?.any Char.isDigit then none
  else if digits.all Char.isDigit then
    let n : Int := ofDigits 10 digits
    some (.int (if negative then -n else n), rest)
  else (Binary64.readUnsigned? negative digits).map fun x => (.float x, rest)

/-! ## Values -/

mutual

/-- A value, with what follows it. -/
def readJson? : Nat → List Char → Option (Value × List Char)
  | 0, _ => none
  | n + 1, cs =>
    match skipBlanks cs with
    | [] => none
    | c :: r =>
      if c = doubleQuote then
        (readString? (r.length + 1) r).map fun (s, r) => (.text (String.ofList s), r)
      else if c = '[' then
        match afterSign? ']' r with
        | some r => some (.list [], r)
        | none => (readItems? n r).map fun (xs, r) => (.list xs, r)
      else if c = '\x7b' then
        match afterSign? '\x7d' r with
        | some r => some (.record [], r)
        | none => (readEntries? n r).map fun (es, r) => (.ofPairs es, r)
      else if c = 'n' then (afterWord? "null" (c :: r)).map (.null, ·)
      else if c = 't' then (afterWord? "true" (c :: r)).map (.bool true, ·)
      else if c = 'f' then (afterWord? "false" (c :: r)).map (.bool false, ·)
      else readNumber? (c :: r)

/-- The items of a list up to its closing bracket. -/
def readItems? : Nat → List Char → Option (List Value × List Char)
  | 0, _ => none
  | n + 1, cs => do
    let (x, r) ← readJson? n cs
    match skipBlanks r with
    | ',' :: r =>
      let (xs, r) ← readItems? n r
      return (x :: xs, r)
    | ']' :: r => return ([x], r)
    | _ => none

/-- The entries of a record up to its closing brace. -/
def readEntries? : Nat → List Char → Option (List (String × Value) × List Char)
  | 0, _ => none
  | n + 1, cs => do
    let (k, r) ← readString? (cs.length + 1) (← afterSign? doubleQuote cs)
    let (x, r) ← readJson? n (← afterSign? ':' r)
    match skipBlanks r with
    | ',' :: r =>
      let (es, r) ← readEntries? n r
      return ((String.ofList k, x) :: es, r)
    | '\x7d' :: r => return ([(String.ofList k, x)], r)
    | _ => none

end

/-- The value that a JSON text spells, if it spells one and nothing else. -/
def ofJson? (text : String) : Option Value :=
  match readJson? (2 * text.length + 2) text.toList with
  | some (v, rest) => if (skipBlanks rest).isEmpty then some v else none
  | none => none

end CommandServer.Value
