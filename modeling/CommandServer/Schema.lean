/-
The input schema of a template: one property for each name, in the order in which the names first
occur. The first occurrence of a name fixes its type, the first description that is not empty
describes it, and one occurrence that must be supplied makes it required, unless its type is a
switch. Arrays are always required, and an array without any description gets the default one.
-/
import CommandServer.Template.Scan
import CommandServer.Value

namespace CommandServer

open CommandServer.Template

inductive PropertyType where
  | string
  | array
  | boolean
  deriving DecidableEq, Repr

def PropertyType.name : PropertyType → String
  | .string => "string"
  | .array => "array"
  | .boolean => "boolean"

structure Property where
  name : String
  type : PropertyType
  description : String
  deriving DecidableEq, Repr

structure Schema where
  properties : List Property
  required : List String
  deriving DecidableEq, Repr

namespace Template.Field

/-- The type of the parameter that a field stands for. -/
def propertyType (f : Field) : PropertyType :=
  match f.kind with
  | .scalar _ => .string
  | .array _ => .array
  | .switch _ => .boolean

/-- Whether this occurrence asks for the parameter: arrays always do, switches never. -/
def demands (f : Field) : Bool :=
  match f.kind with
  | .scalar required => required
  | .array _ => true
  | .switch _ => false

def property (f : Field) : Property := ⟨f.normalizedName, f.propertyType, f.description⟩

end Template.Field

namespace Schema

def defaultArrayDescription : String := "Additional command line arguments"

def empty : Schema := ⟨[], []⟩

/-! ## Merging occurrences -/

/-- A description for a property that has none. -/
def describe (description : String) (p : Property) : Property :=
  if p.description.isEmpty then ⟨p.name, p.type, description⟩ else p

/-- One more occurrence of a property. -/
def mergeProperty (q : Property) : List Property → List Property
  | [] => [q]
  | p :: ps => if p.name = q.name then describe q.description p :: ps else p :: mergeProperty q ps

/-- The schema after one more field. -/
def add (s : Schema) (f : Field) : Schema :=
  ⟨mergeProperty f.property s.properties,
    if f.demands && !s.required.contains f.normalizedName then s.required ++ [f.normalizedName]
    else s.required⟩

/-- The property of a name in its normalized spelling. -/
def find? (s : Schema) (name : String) : Option Property :=
  s.properties.find? (·.name == name)

/-- Default descriptions, and no demand for a name whose type is a switch. -/
def finish (s : Schema) : Schema :=
  ⟨s.properties.map fun p => if p.type = .array then describe defaultArrayDescription p else p,
    s.required.filter fun n => !(s.find? n).any (·.type == .boolean)⟩

/-- The schema of the fields of a command, in their order. -/
def ofFields (fields : List Field) : Schema :=
  (fields.foldl add empty).finish

/-- The schema of the tokens of the words of a command. -/
def ofWords (words : List (List Token)) : Schema :=
  ofFields (words.flatten.filterMap Token.field?)

/-- The property of a name in any spelling. -/
def get? (s : Schema) (name : String) : Option Property :=
  s.find? (normalizeName name)

/-! ## As data -/

def propertyRecord (p : Property) : Value :=
  .ofPairs <|
    [("type", .text p.type.name)] ++
    (if p.description.isEmpty then [] else [("description", .text p.description)]) ++
    (if p.type = .array then [("items", .ofPairs [("type", .text PropertyType.string.name)])]
     else [])

/-- The schema in the form that clients of the tool read. -/
def toValue (s : Schema) : Value :=
  .ofPairs <|
    [("type", .text "object"),
      ("properties", .ofPairs (s.properties.map fun p => (p.name, propertyRecord p)))] ++
    (if s.required.isEmpty then [] else [("required", .list (s.required.map .text))])

end Schema

end CommandServer
