/-
Fields of a template: what stands between two brackets, `name...#description`. Double braces mark a
field that a caller must supply, square brackets one that may be left out; between square brackets
a name that starts with a dash is a switch, passed on as it is spelled when the caller turns it on.
-/
import CommandServer.Text.Blank

namespace CommandServer

open CommandServer.Text

/-! ## Names -/

def underscored (c : Char) : Char := if c = '-' then '_' else c

def dashed (c : Char) : Char := if c = '_' then '-' else c

/-- The spelling of a name in the input schema. -/
def normalizeName (name : String) : String := name.map underscored

/-- The spelling of a name with dashes for underscores. -/
def denormalizeName (name : String) : String := name.map dashed

def isNameStart (c : Char) : Bool := c.isAlpha || c == '_'

def isNameChar (c : Char) : Bool := c.isAlphanum || c == '_'

/-- Letters, digits and underscores, no digit first; dashes count as underscores. -/
def isIdentifier (cs : List Char) : Bool :=
  match cs.map underscored with
  | [] => false
  | c :: r => isNameStart c && r.all isNameChar

namespace Template

/-! ## Brackets -/

/-- The two pairs of brackets around a field. -/
inductive Bracket where
  | braces
  | squares
  deriving DecidableEq, Repr

def Bracket.opener : Bracket → List Char
  | .braces => ['\x7b', '\x7b']
  | .squares => ['[']

def Bracket.closer : Bracket → List Char
  | .braces => ['\x7d', '\x7d']
  | .squares => [']']

/-! ## Fields -/

/-- What a field stands for. A switch has the count of dashes in front of its name. -/
inductive FieldKind where
  | scalar (required : Bool)
  | array (required : Bool)
  | switch (dashes : Nat)
  deriving DecidableEq, Repr

structure Field where
  name : String
  description : String
  kind : FieldKind
  deriving DecidableEq, Repr

namespace Field

/-- Written between double braces. -/
def isRequired (f : Field) : Bool :=
  match f.kind with
  | .scalar required => required
  | .array required => required
  | .switch _ => false

def isArray (f : Field) : Bool :=
  match f.kind with
  | .array _ => true
  | _ => false

/-- The switch as it is passed to the command; empty for any other field. -/
def switchText (f : Field) : String :=
  match f.kind with
  | .switch dashes => String.ofList (List.replicate dashes '-' ++ f.name.toList)
  | _ => ""

def isSwitch (f : Field) : Bool :=
  match f.kind with
  | .switch _ => true
  | _ => false

def normalizedName (f : Field) : String := normalizeName f.name

/-- The field as people see it, without its description. -/
def display (f : Field) : String :=
  match f.kind with
  | .switch _ => "[" ++ f.switchText ++ "]"
  | .array _ => "[" ++ f.normalizedName ++ "...]"
  | .scalar true => "\x7b\x7b" ++ f.normalizedName ++ "\x7d\x7d"
  | .scalar false => "[" ++ f.normalizedName ++ "]"

/-! ## Reading -/

def arrayMark : List Char := ['.', '.', '.']

/-- The name before a `#`, trimmed. -/
def namePart (content : List Char) : List Char :=
  trim (content.takeWhile (· != '#'))

/-- What follows the first `#`, trimmed. -/
def descriptionPart (content : List Char) : List Char :=
  trim ((content.dropWhile (· != '#')).drop 1)

/-- A name without the array mark at its end, and whether it had one. -/
def splitArrayMark (name : List Char) : List Char × Bool :=
  match arrayMark.isSuffixOf? name with
  | some stem => (trimEnd stem, true)
  | none => (name, false)

/-- The description of a switch that comes without one. -/
def switchDescription (spelling : List Char) : String :=
  "Enable " ++ String.ofList spelling ++ " flag"

/-- The field that the text between two brackets describes, if it describes one. -/
def parse? (b : Bracket) (content : List Char) : Option Field :=
  let (name, isArray) := splitArrayMark (namePart content)
  let description := String.ofList (descriptionPart content)
  if b = .squares ∧ name.head? = some '-' then
    let bare := name.dropWhile (· == '-')
    if isIdentifier bare then
      some ⟨String.ofList bare, if description.isEmpty then switchDescription name else description,
        .switch (name.length - bare.length)⟩
    else none
  else if isIdentifier name then
    some ⟨String.ofList name, description,
      if isArray then .array (b = .braces) else .scalar (b = .braces)⟩
  else none

end Field

end Template

end CommandServer
