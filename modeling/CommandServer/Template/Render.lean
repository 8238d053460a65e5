/-
From arguments to the argument vector. Validation refuses a required parameter without a value and
an array parameter that is no array; rendering then turns each word of the template into the
arguments that it contributes. A value that cannot be written ends rendering with a fault, which is
no refusal.
-/
import CommandServer.Arguments
import CommandServer.Schema
import CommandServer.Value.Text

namespace CommandServer.Template

/-! ## Validation -/

inductive RenderError where
  | missing (name : String)
  | mistyped (name : String) (expected : PropertyType) (actual : String)
  deriving DecidableEq, Repr

def RenderError.message : RenderError → String
  | .missing name => "missing required parameter: " ++ name
  | .mistyped name expected actual =>
    "parameter '" ++ name ++ "' must be an " ++ expected.name ++ ", got " ++ actual

/-- Present and not null. -/
def isSupplied (v : Option Value) : Bool :=
  match v with
  | none | some .null => false
  | some _ => true

/-- The first required name without a value. -/
def missingName? (s : Schema) (args : Arguments) : Option String :=
  s.required.find? fun n => !isSupplied (args.lookup? n)

/-- The first argument for an array that is no array. -/
def mistyped? (s : Schema) (args : Arguments) : Option (String × Value) :=
  args.entries.find? fun e =>
    (s.get? e.1).any (·.type == .array) && e.2.items?.isNone

/-- Missing parameters are reported before mistyped ones. -/
def validate (s : Schema) (args : Arguments) : Except RenderError Unit :=
  match missingName? s args with
  | some n => .error (.missing n)
  | none =>
    match mistyped? s args with
    | some (k, v) => .error (.mistyped k .array v.typeName)
    | none => .ok ()

/-! ## Words -/

section Words

variable (stack : Stack) (args : Arguments)

/-- The text of a field inside a longer word. -/
def fieldText (f : Field) : Except Fault String :=
  let v := args.lookup? f.name
  match f.kind with
  | .switch _ => .ok (if v.any Value.isTrue then f.switchText else "")
  | _ => (v.getD .null).argumentText stack.free

def tokenText : Token → Except Fault String
  | .text s => .ok s
  | .field f => fieldText stack args f

/-- A word vanishes when it holds no text, no scalar that must be supplied, and no field with a
value to show. -/
def vanishes (tokens : List Token) : Bool :=
  tokens.all fun
    | .text _ => false
    | .field f =>
      !(f.isRequired && !f.isArray) && !(args.lookup? f.name).any Value.isMeaningful

/-- The arguments of a word that is one array field: its items, or a lone value by itself. -/
def spread : Option Value → Except Fault (List String)
  | none => .ok []
  | some v =>
    if v.isVacant then .ok []
    else ((v.items?).getD [v]).mapM (Value.argumentText stack.free)

/-- The tokens of a word as one argument. -/
def joined (tokens : List Token) : Except Fault (List String) :=
  (tokens.mapM (tokenText stack args)).map fun texts => [String.join texts]

/-- The arguments that a word contributes, if all that it writes can be written. -/
def renderWord (tokens : List Token) : Except Fault (List String) :=
  if vanishes args tokens then .ok []
  else match tokens with
    | [.field f] =>
      let v := args.lookup? f.name
      match f.kind with
      | .switch _ => .ok (if v.any Value.isTrue then [f.switchText] else [])
      | .array _ => spread stack v
      | .scalar required =>
        if required && v.isSome then joined stack args tokens
        else if v.any Value.isMeaningful then v.toList.mapM (Value.argumentText stack.free)
        else .ok []
    | _ => joined stack args tokens

end Words

end CommandServer.Template
