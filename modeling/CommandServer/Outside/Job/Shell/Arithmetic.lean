/-
Arithmetic expressions of a script: integers of 64 bits, variables, which may be assigned to, and
operators by rank. The side of a choice that is not taken is read, but has no effect.
-/
import CommandServer.Outside.Job.Shell.Basic

namespace CommandServer.Job.Shell

open CommandServer.Text

/-! ## Operators -/

/-- The binary operators by rank, the weakest first. -/
def ranks : List (List String) :=
  [["|"], ["^"], ["&"], ["==", "!="], ["<=", ">=", "<", ">"], ["<<", ">>"], ["+", "-"],
    ["*", "/", "%"]]

/-- All signs that have a meaning, longer ones before their beginnings. -/
def signs : List String :=
  ["<<=", ">>=", "<<", ">>", "<=", ">=", "==", "!=", "&&", "||", "+=", "-=", "*=", "/=", "%=", "&=",
    "|=", "^=", "<", ">", "=", "!", "~", "+", "-", "*", "/", "%", "&", "|", "^", "?", ":", "(", ")"]

/-- The last 64 bits of a number, as a number with a sign. -/
def wrapWord (n : Int) : Int := (n + powTwo 63) % powTwo 64 - powTwo 63

/-- The word without a sign that has the same bits. -/
def bitsOf (n : Int) : Nat := (n % powTwo 64).toNat

/-- The value of an operation; none divides by zero. -/
def applyOperator (operator : String) (a b : Int) : Option Int :=
  let truth (p : Bool) : Option Int := some (if p then 1 else 0)
  match operator with
  | "|" => some (wrapWord (bitsOf a ||| bitsOf b : Nat))
  | "^" => some (wrapWord (bitsOf a ^^^ bitsOf b : Nat))
  | "&" => some (wrapWord (bitsOf a &&& bitsOf b : Nat))
  | "==" => truth (a == b)
  | "!=" => truth (a != b)
  | "<=" => truth (a ≤ b)
  | ">=" => truth (a ≥ b)
  | "<" => truth (a < b)
  | ">" => truth (a > b)
  | "<<" => some (wrapWord (a * powTwo (bitsOf b % 64)))
  | ">>" => some (a / powTwo (bitsOf b % 64))
  | "+" => some (wrapWord (a + b))
  | "-" => some (wrapWord (a - b))
  | "*" => some (wrapWord (a * b))
  | "/" => if b = 0 then none else some (wrapWord (a.tdiv b))
  | "%" => if b = 0 then none else some (a.tmod b)
  | _ => none

/-! ## Reading -/

/-- What is left of an expression, with the shell whose variables it uses. -/
structure Calculation where
  text : String
  left : List Char
  shell : Shell

/-- A calculation that fails leaves the message of the shell. -/
abbrev Calculator (α : Type) := StateT Calculation (Except String) α

namespace Calculator

def fail {α : Type} (what : String) : Calculator α := fun c =>
  .error ("arithmetic expression: " ++ what ++ ": \"" ++ c.text ++ "\"")

/-- The sign at the start of what is left; none where there is none. -/
def sign? : Calculator (Option String) := do
  let c ← get
  let left := c.left.dropWhile isBlank
  set { c with left }
  return signs.find? fun o => o.toList.isPrefixOf left

def skip (k : Nat) : Calculator Unit := modify fun c => { c with left := c.left.drop k }

/-- Takes a sign if it comes next. -/
def take? (o : String) : Calculator Bool := do
  if (← sign?) = some o then
    skip o.length
    return true
  else return false

/-- The number that a variable holds. -/
def valueOf (name : String) : Calculator Int := do
  let s := (← get).shell
  let value := (s.parameter? name).getD ""
  match readWhole? value.toList with
  | some (n, rest) =>
    if rest.all isSpace && clampSigned n = n then return n
    else if s.dialect = .program then return 0
    else throw ("Illegal number: " ++ value)
  | none =>
    if value.toList.all isSpace ∨ s.dialect = .program then return 0
    else throw ("Illegal number: " ++ value)

def store (name : String) (n : Int) : Calculator Int := do
  let c ← get
  if c.shell.isFixed name then throw (name ++ ": is read only")
  set { c with shell := c.shell.put name (integerText n) }
  return n

/-- The value of an operation that takes effect, or else any value. -/
def apply (active : Bool) (operator : String) (a b : Int) : Calculator Int :=
  if !active then return b
  else match applyOperator operator a b with
    | some n => return n
    | none => fail "division by zero"

def truth (n : Int) : Bool := n != 0

def ofTruth (b : Bool) : Int := if b then 1 else 0

mutual

/-- An assignment, or a choice. -/
def readAssignment : Nat → Bool → Calculator Int
  | 0, _ => fail "expecting primary"
  | n + 1, active => do
    let start ← get
    let left := start.left.dropWhile isBlank
    let name := left.takeWhile Word.isNamePart
    if left.head?.any Word.isNameStart then
      set { start with left := left.drop name.length }
      match ← sign? with
      | some o =>
        let isAssignment := o = "=" ∨
          (o.endsWith "=" ∧ ! ["==", "!=", "<=", ">="].contains o)
        if isAssignment then
          skip o.length
          let value ← readAssignment n active
          let name := String.ofList name
          if !active then return value
          let value ← if o = "=" then pure value
            else do apply true (o.dropEnd 1).toString (← valueOf name) value
          store name value
        else
          set start
          readChoice n active
      | none =>
        set start
        readChoice n active
    else readChoice n active

def readChoice : Nat → Bool → Calculator Int
  | 0, _ => fail "expecting primary"
  | n + 1, active => do
    let a ← readEither n active
    if ← take? "?" then
      let b ← readAssignment n (active && truth a)
      if !(← take? ":") then fail "expecting ':'"
      let c ← readChoice n (active && !truth a)
      return if truth a then b else c
    else return a

def readEither : Nat → Bool → Calculator Int
  | 0, _ => fail "expecting primary"
  | n + 1, active => do
    let a ← readBoth n active
    if ← take? "||" then
      let b ← readEither n (active && !truth a)
      return ofTruth (truth a || truth b)
    else return a

def readBoth : Nat → Bool → Calculator Int
  | 0, _ => fail "expecting primary"
  | n + 1, active => do
    let a ← readRanked n active ranks
    if ← take? "&&" then
      let b ← readBoth n (active && truth a)
      return ofTruth (truth a && truth b)
    else return a

/-- An expression of operators of the given ranks. -/
def readRanked : Nat → Bool → List (List String) → Calculator Int
  | 0, _, _ => fail "expecting primary"
  | n + 1, active, [] => readUnary n active
  | n + 1, active, operators :: tighter => do
    let a ← readRanked n active tighter
    readRankedRest n active operators tighter a

def readRankedRest : Nat → Bool → List String → List (List String) → Int → Calculator Int
  | 0, _, _, _, _ => fail "expecting primary"
  | n + 1, active, operators, tighter, a => do
    match (← sign?).filter operators.contains with
    | none => return a
    | some o =>
      skip o.length
      let b ← readRanked n active tighter
      readRankedRest n active operators tighter (← apply active o a b)

def readUnary : Nat → Bool → Calculator Int
  | 0, _ => fail "expecting primary"
  | n + 1, active => do
    match ← sign? with
    | some "-" =>
      skip 1
      return wrapWord (-(← readUnary n active))
    | some "+" =>
      skip 1
      readUnary n active
    | some "!" =>
      skip 1
      return ofTruth (!truth (← readUnary n active))
    | some "~" =>
      skip 1
      return -(← readUnary n active) - 1
    | some "(" =>
      skip 1
      let a ← readAssignment n active
      if !(← take? ")") then fail "expecting ')'"
      return a
    | some _ => fail "expecting primary"
    | none =>
      let cs := (← get).left
      let c := cs.headD ' '
      if c.isDigit then
        match readWhole? cs with
        | some (k, rest) =>
          modify fun c => { c with left := rest }
          return clampSigned k
        | none => fail "expecting primary"
      else if Word.isNameStart c then
        let name := cs.takeWhile Word.isNamePart
        skip name.length
        if active then valueOf (String.ofList name) else return 0
      else fail "expecting primary"

end

end Calculator

/-- The value of an arithmetic expression, and the shell after it; or the message of the shell. -/
def calculate (s : Shell) (text : String) : Except String (Int × Shell) := do
  let whole : Calculator Int := do
    let n ← Calculator.readAssignment (32 * (text.length + 2)) true
    let _ ← Calculator.sign?
    if (← get).left.isEmpty then return n else Calculator.fail "expecting EOF"
  let (n, c) ← whole.run ⟨text, text.toList, s⟩
  return (n, c.shell)

end CommandServer.Job.Shell
