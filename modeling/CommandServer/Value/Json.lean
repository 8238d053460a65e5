/-
JSON text of a value in ASCII: a comma and a colon are followed by one blank, entries keep their
order, and every character outside printable ASCII is escaped by its UTF-16 units. JSON has no byte
strings: one is written as the text of its quoted form.
-/
import CommandServer.Value.Text

namespace CommandServer.Value

open CommandServer.Text

/-- The escape of one UTF-16 unit. -/
def unitEscape (u : Nat) : List Char :=
  '\\' :: 'u' :: (paddedHex 4 u).toList

/-- One character inside a JSON string. -/
def jsonChar (c : Char) : List Char :=
  if c = doubleQuote then ['\\', c]
  else if c = '\\' then ['\\', '\\']
  else if c = '\n' then ['\\', 'n']
  else if c = '\r' then ['\\', 'r']
  else if c = '\t' then ['\\', 't']
  else if c.toNat = 0x08 then ['\\', 'b']
  else if c.toNat = 0x0C then ['\\', 'f']
  else if 0x20 ≤ c.toNat ∧ c.toNat < 0x7F then [c]
  else if c.toNat ≤ 0xFFFF then unitEscape c.toNat
  else
    let rest := c.toNat - 0x10000
    unitEscape (0xD800 + rest / 0x400) ++ unitEscape (0xDC00 + rest % 0x400)

def jsonString (s : String) : String :=
  String.ofList (doubleQuote :: s.toList.flatMap jsonChar ++ [doubleQuote])

/-- JSON knows no such numbers; they are written by name. -/
def jsonFloat : Binary64 → String
  | .nan => "NaN"
  | .infinite negative => if negative then "-Infinity" else "Infinity"
  | x => x.text

mutual

/-- The value as JSON text. A container takes one level, and so does a byte string. -/
def json : Nat → Value → Except Fault String
  | _, .null => .ok "null"
  | _, .bool b => .ok (if b then "true" else "false")
  | _, .int n => writeInteger n
  | _, .float x => .ok (jsonFloat x)
  | _, .text s => .ok (jsonString s)
  | _ + 1, .bytes bs => .ok (jsonString (quotedBytes bs))
  | free + 1, .list xs => do return "[" ++ String.intercalate ", " (← jsonItems free xs) ++ "]"
  | free + 1, .tuple xs => do return "[" ++ String.intercalate ", " (← jsonItems free xs) ++ "]"
  | free + 1, .record es => do
    return "\x7b" ++ String.intercalate ", " (← jsonEntries free es) ++ "\x7d"
  | 0, _ => .error .tooDeepToEncode

def jsonItems (free : Nat) : List Value → Except Fault (List String)
  | [] => .ok []
  | x :: xs => do return (← json free x) :: (← jsonItems free xs)

def jsonEntries (free : Nat) : List (String × Value) → Except Fault (List String)
  | [] => .ok []
  | (k, x) :: es => do
    return (jsonString k ++ ": " ++ (← json free x)) :: (← jsonEntries free es)

end

end CommandServer.Value
