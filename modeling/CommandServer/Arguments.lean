/-
The arguments of a call: values by parameter name. A parameter is found under its name as written,
under the name with underscores, or under the name with dashes, in this order.
-/
import CommandServer.Template.Field
import CommandServer.Value

namespace CommandServer

/-- Argument values by name, in the order in which they were given. -/
abbrev Arguments := OrderedMap Value

namespace Arguments

/-- The spellings under which a parameter is looked up. -/
def spellings (name : String) : List String :=
  [name, normalizeName name, denormalizeName name]

/-- The value under the first spelling of the name that is present. -/
def lookup? (args : Arguments) (name : String) : Option Value :=
  (spellings name).findSome? args.get?

/-- The arguments as one value. -/
def toValue (args : Arguments) : Value := .record args.entries

end Arguments

end CommandServer
