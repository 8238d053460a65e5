/-
Argument values: what a caller may supply for a parameter, and the classifications of a value that
validation and rendering ask for.
-/
import CommandServer.Number.Binary64
import CommandServer.OrderedMap

namespace CommandServer

/-- A record holds its entries in the order in which they came, each name once. -/
inductive Value where
  | null
  | bool (b : Bool)
  | int (n : Int)
  | float (x : Binary64)
  | text (s : String)
  | bytes (bs : List UInt8)
  | list (items : List Value)
  | tuple (items : List Value)
  | record (entries : List (String × Value))
  deriving Inhabited

namespace Value

/-- A record from pairs, put one after the other. -/
def ofPairs (pairs : List (String × Value)) : Value :=
  .record (entriesOfPairs pairs)

/-- The items of a list or a tuple. -/
def items? : Value → Option (List Value)
  | .list xs => some xs
  | .tuple xs => some xs
  | _ => none

/-- The name of the value's type in the JSON sense. -/
def typeName : Value → String
  | .null => "null"
  | .bool _ => "boolean"
  | .int _ => "number"
  | .float _ => "number"
  | .text _ => "string"
  | .bytes _ => "bytes"
  | .list _ => "array"
  | .tuple _ => "array"
  | .record _ => "object"

/-- The switch is on: only the boolean itself counts. -/
def isTrue : Value → Bool
  | .bool b => b
  | _ => false

/-- Null, false, zero and everything empty are vacant; not a number is not. -/
def isVacant : Value → Bool
  | .null => true
  | .bool b => !b
  | .int n => n == 0
  | .float x => x.isZero
  | .text s => s.isEmpty
  | .bytes bs => bs.isEmpty
  | .list xs => xs.isEmpty
  | .tuple xs => xs.isEmpty
  | .record es => es.isEmpty

/-- A value that an optional field has something to show for: numbers and records always do. -/
def isMeaningful : Value → Bool
  | .null => false
  | .bool b => b
  | .text s => !s.isEmpty
  | .list xs => !xs.isEmpty
  | .tuple xs => !xs.isEmpty
  | _ => true

end CommandServer.Value
