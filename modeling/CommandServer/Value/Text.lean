/-
Texts of a value. The written form stands inside a container and tells the types apart; the
argument form is what a command receives: texts as they are, switches as words, lists with blanks
between their items. An integer of too many digits has no text, and writing what lies deep in other
values takes a share of the call stack for each level, so that a text may not come to its end.
-/
import CommandServer.Fault
import CommandServer.Number.Decimal
import CommandServer.Text.Quoted
import CommandServer.Value

namespace CommandServer

open CommandServer.Text

/-! ## Limits -/

/-- What is left of the call stack when a value is written. A list of plain texts always fits. -/
structure Stack where
  free : Nat
  three_le_free : 3 ≤ free

/-- The stack of the program at work. -/
def Stack.usual : Stack := ⟨970, by decide⟩

/-- The decimal text of an integer, which one of too many digits does not have. -/
def writeInteger (n : Int) : Except Fault String :=
  if powTen maxDigits ≤ n.natAbs then .error .integerUnwritable else .ok (integerText n)

def truthText (b : Bool) : String := if b then "True" else "False"

namespace Value

/-! ## The written form -/

/-- A tuple from the texts of its items; one item alone has a comma behind it. -/
def tupleText : List String → String
  | [t] => "(" ++ t ++ ",)"
  | ts => "(" ++ String.intercalate ", " ts ++ ")"

mutual

/-- The value as it stands inside a list or a record. What it contains takes one level. -/
def written (free : Nat) : Value → Except Fault String
  | .null => .ok "None"
  | .bool b => .ok (truthText b)
  | .int n => writeInteger n
  | .float x => .ok x.text
  | .text s => .ok (quoted s)
  | .bytes bs => .ok (quotedBytes bs)
  | .list xs => do return "[" ++ String.intercalate ", " (← writtenItems free xs) ++ "]"
  | .tuple xs => do return tupleText (← writtenItems free xs)
  | .record es => do
    return "\x7b" ++ String.intercalate ", " (← writtenEntries free es) ++ "\x7d"

def writtenItems : Nat → List Value → Except Fault (List String)
  | _, [] => .ok []
  | 0, _ :: _ => .error .tooDeepToWrite
  | free + 1, x :: xs => do return (← written free x) :: (← writtenItems (free + 1) xs)

def writtenEntries : Nat → List (String × Value) → Except Fault (List String)
  | _, [] => .ok []
  | 0, _ :: _ => .error .tooDeepToWrite
  | free + 1, (k, x) :: es => do
    return (quoted k ++ ": " ++ (← written free x)) :: (← writtenEntries (free + 1) es)

end

/-! ## The argument form -/

mutual

/-- The value as an argument of a command. The items of a list take three levels. -/
def argumentText (free : Nat) : Value → Except Fault String
  | .null => .ok ""
  | .bool b => .ok (if b then "true" else "false")
  | .text s => .ok s
  | .list xs => do return String.intercalate " " (← argumentTexts free xs)
  | .tuple xs => do return String.intercalate " " (← argumentTexts free xs)
  | v => written free v

def argumentTexts : Nat → List Value → Except Fault (List String)
  | _, [] => .ok []
  | free + 3, x :: xs => do return (← argumentText free x) :: (← argumentTexts (free + 3) xs)
  | _, _ :: _ => .error .tooDeep

end

@[simp] theorem argumentText_null (free : Nat) : argumentText free .null = .ok "" := by
  simp [argumentText]

@[simp] theorem argumentText_text (free : Nat) (s : String) :
    argumentText free (.text s) = .ok s := by simp [argumentText]

end Value

end CommandServer
