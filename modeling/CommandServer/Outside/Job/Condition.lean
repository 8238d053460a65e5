/-
Conditions: the expressions of the program that tests files, texts and numbers. The number of the
arguments decides what up to four of them mean; more are read as an expression with connectives.
-/
import CommandServer.Outside.Job.Printf

namespace CommandServer.Job

open CommandServer.Text

namespace Condition

/-- A test of one operand by the letter after its dash. -/
def unary? (c : Context) (letter operand : String) : Option Bool :=
  let found := c.files.find c.working operand
  match letter with
  | "-n" => some (!operand.isEmpty)
  | "-z" => some operand.isEmpty
  | "-e" => some (found matches .ok _)
  | "-f" => some (match found with
    | .ok (place, .file _) => place != nullDevice
    | _ => false)
  | "-d" => some (found matches .ok (_, .directory))
  | "-r" => some (found matches .ok _)
  | "-w" => some (found matches .ok _)
  | "-c" => some (match found with
    | .ok (place, _) => place == nullDevice
    | .error _ => false)
  | "-x" => some (match found with
    | .ok (place, .file _) => c.files.isStartable place
    | .ok (_, .directory) => true
    | .error _ => false)
  | "-s" => some (match found with
    | .ok (place, .file bytes) => !bytes.isEmpty || place.dropLast == programDirectory
    | .ok (_, .directory) => true
    | .error _ => false)
  | "-h" | "-L" => some (c.files.link? c.working operand).isSome
  | "-O" => some (found matches .ok _)
  | "-G" => some (found matches .ok _)
  | letter =>
    if ["-b", "-g", "-k", "-p", "-S", "-t", "-u"].contains letter then some false else none

/-- The integer that an operand spells in full. -/
def integer? (s : String) : Option Int :=
  let (negative, body) := Binary64.splitSign (trim s.toList)
  if body.isEmpty || !body.all Char.isDigit then none
  else some (if negative then -(ofDigits 10 body : Int) else ofDigits 10 body)

def compare? (operator : String) : Option (Int → Int → Bool) :=
  match operator with
  | "-eq" => some (· == ·)
  | "-ne" => some (· != ·)
  | "-lt" => some (· < ·)
  | "-le" => some (· ≤ ·)
  | "-gt" => some (· > ·)
  | "-ge" => some (· ≥ ·)
  | _ => none

def fail {α : Type} (message : String) : Except String α := .error message

def integer (s : String) : Except String Int :=
  match integer? s with
  | some n => .ok n
  | none => fail ("invalid integer " ++ quotedWord s)

def binaryOperators : List String :=
  ["=", "==", "!=", "-nt", "-ot", "-ef", "-eq", "-ne", "-lt", "-le", "-gt", "-ge"]

/-- Whether two names lead to the same file, or one file is there and another one is not. -/
def compareFiles? (c : Context) (left operator right : String) : Option Bool :=
  let place (name : String) : Option Place := (c.files.find c.working name).toOption.map Prod.fst
  match operator with
  | "-ef" => some ((place left).isSome && place left == place right)
  | "-nt" => some ((place left).isSome && (place right).isNone)
  | "-ot" => some ((place left).isNone && (place right).isSome)
  | _ => none

def binary (c : Context) (left operator right : String) : Except String Bool :=
  match compareFiles? c left operator right, compare? operator with
  | some b, _ => .ok b
  | none, some compare => do return compare (← integer left) (← integer right)
  | none, none => .ok ((left == right) == (operator != "!="))

/-- The arguments that are left, and the last one of all, which messages name. -/
structure Reading where
  args : List String
  last : String

abbrev Tester (α : Type) := StateT Reading (Except String) α

namespace Tester

/-- There are not enough arguments. -/
def beyond {α : Type} : Tester α := do
  fail ("missing argument after " ++ quotedWord (← get).last)

def next (needsMore : Bool) : Tester String := do
  let r ← get
  match r.args with
  | [] => beyond
  | a :: rest =>
    set { r with args := rest }
    if needsMore && rest.isEmpty then beyond
    return a

def one : Tester Bool := do return !(← next false).isEmpty

/-- Whether an argument has the form of an operator with one operand. -/
def hasUnaryForm (a : String) : Bool := a.length = 2 && a.startsWith "-"

def unary (c : Context) : Tester Bool := do
  let letter := (← get).args.headD ""
  if (unary? c letter "").isNone then fail (quotedWord letter ++ ": unary operator expected")
  let letter ← next true
  let operand ← next false
  return (unary? c letter operand).getD false

def two (c : Context) : Tester Bool := do
  let a := (← get).args.headD ""
  if a = "!" then
    let _ ← next false
    return !(← one)
  else if hasUnaryForm a then unary c
  else beyond

def dyad (c : Context) : Tester Bool := do
  let left ← next false
  let operator ← next true
  let right ← next false
  binary c left operator right

mutual

/-- A number of arguments that make up a condition. -/
def condition (c : Context) : Nat → Nat → Tester Bool
  | 0, _ => beyond
  | n + 1, count => do
    let args := (← get).args
    match count, args with
    | 1, _ => one
    | 2, _ => two c
    | 3, _ => three c n
    | 4, a :: _ :: _ :: d :: _ =>
      if a = "!" then
        let _ ← next true
        return !(← three c n)
      else if a = "(" ∧ d = ")" then
        let _ ← next false
        let value ← two c
        let _ ← next false
        return value
      else either c n
    | _, _ => either c n

def three (c : Context) : Nat → Tester Bool
  | 0 => beyond
  | n + 1 => do
    match (← get).args with
    | a :: b :: d :: _ =>
      if binaryOperators.contains b then dyad c
      else if a = "!" then
        let _ ← next true
        return !(← two c)
      else if a = "(" ∧ d = ")" then
        let _ ← next false
        let value ← one
        let _ ← next false
        return value
      else if b = "-a" ∨ b = "-o" then either c n
      else fail (quotedWord b ++ ": binary operator expected")
    | _ => beyond

def either (c : Context) : Nat → Tester Bool
  | 0 => beyond
  | n + 1 => do
    let a ← both c n
    if (← get).args.head? = some "-o" then
      let _ ← next false
      let b ← either c n
      return a || b
    else return a

def both (c : Context) : Nat → Tester Bool
  | 0 => beyond
  | n + 1 => do
    let a ← term c n
    if (← get).args.head? = some "-a" then
      let _ ← next false
      let b ← both c n
      return a && b
    else return a

def term (c : Context) : Nat → Tester Bool
  | 0 => beyond
  | n + 1 => do
    let args := (← get).args
    match args with
    | [] => beyond
    | "!" :: _ =>
      let _ ← next true
      return !(← term c n)
    | "(" :: _ =>
      let _ ← next true
      let inside := args.tail.tail.takeWhile (· != ")")
      let value ← condition c n (if 3 ≤ inside.length then args.length - 1 else inside.length + 1)
      match (← get).args with
      | [] => fail "')' expected"
      | ")" :: _ =>
        let _ ← next false
        return value
      | a :: _ => fail ("')' expected, found " ++ quotedWord a)
    | a :: rest =>
      if binaryOperators.contains (rest.headD "") && 2 ≤ rest.length then dyad c
      else if hasUnaryForm a then unary c
      else one

end

end Tester

/-- The value of arguments as a condition, or what is wrong with them. -/
def evaluate (c : Context) (args : List String) : Except String Bool := do
  if args.isEmpty then return false
  let last := args.getLast?.getD ""
  let (b, rest) ← (Tester.condition c (8 * args.length + 8) args.length).run ⟨args, last⟩
  match rest.args with
  | [] => return b
  | a :: _ => fail ("extra argument " ++ quotedWord a)

/-- Runs a test: true is success, an error has a status of its own. -/
def run (c : Context) (program : String) (args : List String) : Report :=
  match evaluate c args with
  | .ok b => .ofChunks c (if b then 0 else 1) []
  | .error message => .complaint c 2 program message

/-- The test that is written in brackets. -/
def runBracketed (c : Context) (program : String) (args : List String) : Report :=
  if args.getLast? = some "]" then run c program args.dropLast
  else .complaint c 2 program "missing ']'"

end Condition

end CommandServer.Job
