/-
The types of nodes. A tag says which type a node has; without a tag, the text of a scalar suggests
one.
-/
import CommandServer.Number.Reader
import CommandServer.Outside.Yaml.Timestamp

namespace CommandServer.Yaml

open CommandServer.Text

inductive ScalarType where
  | null
  | bool
  | int
  | float
  | text
  | bytes
  | timestamp
  deriving DecidableEq, Repr

inductive NodeType where
  | scalar (t : ScalarType)
  | mapping
  | sequence
  | set
  | pairs
  /-- The key under which other mappings are merged into one. -/
  | merge
  /-- The key of the value that stands for a whole mapping. -/
  | default
  /-- A type that no value has. -/
  | other
  deriving DecidableEq, Repr

/-! ## Tags -/

/-- The start of the tags that every document may write with two exclamation marks. -/
def coreTagStart : String := "tag:yaml.org,2002:"

def NodeType.names : List (String × NodeType) :=
  [("null", .scalar .null), ("bool", .scalar .bool), ("int", .scalar .int),
    ("float", .scalar .float), ("str", .scalar .text), ("binary", .scalar .bytes),
    ("timestamp", .scalar .timestamp), ("map", .mapping), ("seq", .sequence), ("set", .set),
    ("omap", .pairs), ("pairs", .pairs), ("merge", .merge), ("value", .default)]

/-- The type that a full tag names. -/
def NodeType.ofTag (tag : String) : NodeType :=
  ((names.find? fun e => coreTagStart ++ e.1 == tag).map Prod.snd).getD .other

/-! ## Numbers as texts suggest them -/

def isDigitOrUnderscore (c : Char) : Bool := c.isDigit || c == '_'

/-- The pieces of a text between colons, with the piece read so far. -/
def splitColons (piece : List Char) : List Char → List (List Char)
  | [] => [piece.reverse]
  | ':' :: r => piece.reverse :: splitColons [] r
  | c :: r => splitColons (c :: piece) r

/-- A digit to the base sixty. -/
def isSixtieth : List Char → Bool
  | [c] => c.isDigit
  | [c, d] => '0' ≤ c && c ≤ '5' && d.isDigit
  | _ => false

/-- A digit and then digits and underscores. -/
def isDigits : List Char → Bool
  | [] => false
  | c :: r => c.isDigit && r.all isDigitOrUnderscore

/-- Nothing, or an exponent with its sign. -/
def isSignedExponent : List Char → Bool
  | [] => true
  | e :: sign :: digits =>
    (e == 'e' || e == 'E') && (sign == '-' || sign == '+') && !digits.isEmpty &&
      digits.all Char.isDigit
  | _ => false

/-- Digits and underscores up to an exponent. -/
def isFraction (cs : List Char) : Bool := isSignedExponent (cs.dropWhile isDigitOrUnderscore)

def suggestsFloat (cs : List Char) : Bool :=
  let body := (Binary64.splitSign cs).2
  let whole := body.takeWhile (· != '.')
  match body.dropWhile (· != '.') with
  | [] => false
  | _ :: fraction =>
    match splitColons [] whole with
    | [[]] =>
      [".inf", ".Inf", ".INF"].contains (String.ofList body) ||
        [".nan", ".NaN", ".NAN"].contains (String.ofList cs) ||
        (cs == body && isDigits (fraction.take 1) && isFraction fraction)
    | [digits] => isDigits digits && isFraction fraction
    | digits :: sixtieths =>
      isDigits digits && sixtieths.all isSixtieth && fraction.all isDigitOrUnderscore
    | [] => false

def suggestsInt (cs : List Char) : Bool :=
  let body := (Binary64.splitSign cs).2
  match body with
  | ['0'] => true
  | '0' :: 'b' :: r => !r.isEmpty && r.all fun c => c == '0' || c == '1' || c == '_'
  | '0' :: 'x' :: r => !r.isEmpty && r.all fun c => (hexDigitValue? c).isSome || c == '_'
  | '0' :: r => r.all fun c => ('0' ≤ c && c ≤ '7') || c == '_'
  | _ =>
    match splitColons [] body with
    | digits :: sixtieths => isDigits digits && sixtieths.all isSixtieth
    | [] => false

/-! ## Words -/

def trueWords : List String :=
  ["yes", "Yes", "YES", "true", "True", "TRUE", "on", "On", "ON"]

def falseWords : List String :=
  ["no", "No", "NO", "false", "False", "FALSE", "off", "Off", "OFF"]

def nullWords : List String := ["~", "null", "Null", "NULL", ""]

/-- The text without a line feed at its end. -/
def dropLastBreak (cs : List Char) : List Char :=
  if cs.getLast? = some '\n' then cs.dropLast else cs

/-- The texts that stand for signs of the notation itself. -/
def signWords : List String := ["!", "&", "*"]

/-- The type that a text suggests. A line feed at the end of a text does not count. -/
def NodeType.suggested (cs : List Char) : NodeType :=
  let kept := dropLastBreak cs
  let word := String.ofList kept
  if cs.head? = some '\n' then .scalar .text
  else if trueWords.contains word || falseWords.contains word then .scalar .bool
  else if suggestsFloat kept then .scalar .float
  else if suggestsInt kept then .scalar .int
  else if word = "<<" then .merge
  else if nullWords.contains word then .scalar .null
  else if (Timestamp.read? kept).any Timestamp.isSuggestive then .scalar .timestamp
  else if word = "=" then .default
  else if signWords.contains word then .other
  else .scalar .text

end CommandServer.Yaml
