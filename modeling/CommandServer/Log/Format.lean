/-
Messages with slots for values. A percent sign starts a slot, which may begin with the name of an
entry in parentheses. Two percent signs are one. Without values a message stands as it is; with
values every slot needs a fitting one that can be written, and none may be left over.
-/
import CommandServer.Text.Slot
import CommandServer.Value.Text

namespace CommandServer.Log

open CommandServer.Text

/-! ## Conversions -/

def writtenText? (stack : Stack) (v : Value) : Option String := (v.written stack.free).toOption

def plainText? (stack : Stack) : Value → Option String
  | .text s => some s
  | v => writtenText? stack v

/-- One character in ASCII, by its number where it has no place there. -/
def asciiChar (c : Char) : List Char :=
  let n := c.toNat
  if n < 0x80 then [c]
  else if n ≤ 0xFF then '\\' :: 'x' :: (paddedHex 2 n).toList
  else if n ≤ 0xFFFF then '\\' :: 'u' :: (paddedHex 4 n).toList
  else '\\' :: 'U' :: (paddedHex 8 n).toList

def asciiText (s : String) : String := String.ofList (s.toList.flatMap asciiChar)

/-- The whole number that a value is or contains. -/
def wholeNumber? : Value → Option Int
  | .int n => some n
  | .bool b => some (if b then 1 else 0)
  | .float x => x.toRatio?.map fun (n, d) => n.tdiv d
  | _ => none

def integer? : Value → Option Int
  | .int n => some n
  | .bool b => some (if b then 1 else 0)
  | _ => none

def number? : Value → Option Binary64
  | .float x => some x
  | v => (integer? v).bind Binary64.ofInt?

def character? : Value → Option String
  | .text s => if s.length = 1 then some s else none
  | v => (integer? v).bind fun n =>
    if 0 ≤ n ∧ n < 0x110000 then some (String.ofList [Char.ofNat n.toNat]) else none

/-- A whole number that has a decimal text. -/
def decimalNumber? (v : Value) : Option Int :=
  (wholeNumber? v).filter fun n => (writeInteger n).toBool

/-- A value in a slot, converted as a letter says. -/
def convert? (stack : Stack) (p : Slot) (letter : Char) (v : Value) : Option (List Char) :=
  match letter with
  | 's' => (plainText? stack v).map p.fillText
  | 'r' => (writtenText? stack v).map p.fillText
  | 'a' => (writtenText? stack v).map fun s => p.fillText (asciiText s)
  | 'd' | 'i' | 'u' => (decimalNumber? v).map (p.fillInteger 10 "" false)
  | 'o' => (integer? v).map (p.fillInteger 8 "0o" false)
  | 'x' => (integer? v).map (p.fillInteger 16 "0x" false)
  | 'X' => (integer? v).map (p.fillInteger 16 "0X" true)
  | 'f' | 'F' => (number? v).map (p.fillFloat Slot.fixed (letter == 'F') true)
  | 'e' | 'E' => (number? v).map (p.fillFloat Slot.scientific (letter == 'E') true)
  | 'g' | 'G' => (number? v).map (p.fillFloat Slot.shortest (letter == 'G') true)
  | 'c' => (character? v).map p.fillCharacter
  | _ => none

/-! ## Operands -/

/-- The values for the next slots, and the record from which slots may ask for an entry. -/
structure Operands where
  values : List Value
  record : Option (List (String × Value)) := none

namespace Operands

/-- A single record that holds something is taken apart; as a whole it fits one slot. -/
def ofValues : List Value → Operands
  | [.record es] => ⟨[.record es], if es.isEmpty then none else some es⟩
  | vs => ⟨vs, none⟩

def take? (ops : Operands) : Option (Value × Operands) :=
  match ops.values with
  | v :: vs => some (v, { ops with values := vs })
  | [] => none

def takeInteger? (ops : Operands) : Option (Int × Operands) := do
  let (v, ops) ← ops.take?
  return (← integer? v, ops)

/-- With the entry of a name as the only value. -/
def select? (name : String) (ops : Operands) : Option Operands := do
  let es ← ops.record
  return { ops with values := [← es.lookup name] }

/-- Whether a message may end here. -/
def isUsedUp (ops : Operands) : Bool := ops.values.isEmpty || ops.record.isSome

end Operands

/-! ## Slots -/

/-- The text up to the parenthesis that closes `depth` open ones, and what follows it. -/
def readName? : Nat → List Char → Option (List Char × List Char)
  | _, [] => none
  | depth, c :: r =>
    if c = ')' ∧ depth ≤ 1 then some ([], r)
    else
      let depth := if c = '(' then depth + 1 else if c = ')' then depth - 1 else depth
      (readName? depth r).map fun (name, rest) => (c :: name, rest)

/-- The operands for a slot, which may begin with the name of an entry. -/
def selectOperands? (ops : Operands) : List Char → Option (Operands × List Char)
  | '(' :: r => do
    let (name, r) ← readName? 1 r
    return (← ops.select? (String.ofList name), r)
  | r => some (ops, r)

/-- The most that a width and a precision may be. -/
def maxWidth : Nat := powTwo 63 - 1

def maxPrecision : Nat := powTwo 31 - 1

/-- A width or precision in bounds, taken from the operands if it has to be. -/
def measure? (limit : Nat) (m : Measure) (ops : Operands) : Option (Int × Operands) := do
  let (n, ops) ← match m with
    | .number n => some ((n : Int), ops)
    | .operand => ops.takeInteger?
  if -limit - 1 ≤ n ∧ n ≤ limit then some (n, ops) else none

/-- The slot of a form, and the operands behind its width and precision. A negative precision
counts as zero. -/
def slot? (f : SlotForm) (ops : Operands) : Option (Slot × Operands) := do
  let (p, ops) ← match f.width with
    | none => some (f.flags, ops)
    | some m => (measure? maxWidth m ops).map fun (n, ops) => (f.flags.widen n, ops)
  match f.precision with
  | none => some (p, ops)
  | some m => (measure? maxPrecision m ops).map fun (n, ops) =>
    ({ p with precision := some n.toNat }, ops)

/-- One mark of a size says nothing. -/
def dropSizeMark : List Char → List Char
  | c :: r => if SlotForm.isSizeMark c then r else c :: r
  | [] => []

/-- The converted value of a slot whose percent sign is behind, with the operands and the text that
are left. -/
def fillSlot? (stack : Stack) (ops : Operands) (cs : List Char) :
    Option (List Char × Operands × List Char) := do
  let (ops, r) ← selectOperands? ops cs
  let (form, r) := SlotForm.read r
  let (p, ops) ← slot? form ops
  match dropSizeMark r with
  | [] => none
  | letter :: r => do
    let (v, ops) ← ops.take?
    return (← convert? stack p letter v, ops, r)

/-! ## Messages -/

/-- The text of a message from a place in it on. -/
def formatFrom (stack : Stack) : Nat → Operands → List Char → Option (List Char)
  | 0, _, _ => none
  | _ + 1, ops, [] => if ops.isUsedUp then some [] else none
  | n + 1, ops, '%' :: '%' :: r => (formatFrom stack n ops r).map ('%' :: ·)
  | n + 1, ops, '%' :: r => do
    let (text, ops, r) ← fillSlot? stack ops r
    return text ++ (← formatFrom stack n ops r)
  | n + 1, ops, c :: r => (formatFrom stack n ops r).map (c :: ·)

/-- A message with its values put in, if they fit. -/
def format (stack : Stack) (message : String) (values : List Value) : Option String :=
  if values.isEmpty then some message
  else (formatFrom stack (message.length + 1) (.ofValues values) message.toList).map String.ofList

end CommandServer.Log
