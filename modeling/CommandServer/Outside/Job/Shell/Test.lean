/-
The conditions of a shell: tests of files, texts and numbers, with connectives by rank.
-/
import CommandServer.Outside.Job.Condition
import CommandServer.Outside.Job.Shell.Argument

namespace CommandServer.Job

open CommandServer.Text

namespace Test

/-! ## Tokens -/

/-- What an argument is in a condition. -/
inductive TestToken where
  | finish
  | operand
  | unary
  | binary
  | negation
  | both
  | either
  | opening
  | closing
  deriving DecidableEq

def unaryOperators : List String :=
  ["-r", "-w", "-x", "-e", "-f", "-d", "-c", "-b", "-p", "-u", "-g", "-k", "-s", "-t", "-z", "-n",
    "-h", "-O", "-G", "-L", "-S"]

def binaryOperators : List String :=
  ["=", "!=", "<", ">", "-eq", "-ne", "-ge", "-gt", "-le", "-lt", "-nt", "-ot", "-ef"]

/-- Whether an operator in front of a text is itself an operand. -/
def isOperand (rest : List String) : Bool :=
  match rest with
  | [] => true
  | [_] => false
  | operator :: _ => binaryOperators.contains operator

/-- What the first of some arguments is. -/
def tokenOf (args : List String) : TestToken :=
  match args with
  | [] => .finish
  | a :: rest =>
    if unaryOperators.contains a then if isOperand rest then .operand else .unary
    else if binaryOperators.contains a then .binary
    else match a with
      | "!" => .negation
      | "-a" => .both
      | "-o" => .either
      | "(" => if rest.isEmpty then .operand else .opening
      | ")" => .closing
      | _ => .operand

/-! ## Values -/

def fail {α : Type} (operator message : String) : Except String α :=
  .error (if operator.isEmpty then message else operator ++ ": " ++ message)

def integer (s : String) : Except String Int :=
  match (Condition.integer? s).filter fun n => clampSigned n = n with
  | some n => .ok n
  | none => .error ("Illegal number: " ++ s)

def unary (c : Context) (operator operand : String) : Except String Bool :=
  if operator = "-t" then (integer operand).map fun _ => false
  else .ok ((Condition.unary? c operator (match operator with
    | "-n" => operand
    | "-z" => operand
    | _ => ofOctets operand)).getD false)

def binary (c : Context) (left operator right : String) : Except String Bool :=
  let place (name : String) : Option Place :=
    (c.files.find c.working (ofOctets name)).toOption.map Prod.fst
  match operator with
  | "-ef" => .ok ((place left).isSome && place left == place right)
  | "-nt" => .ok ((place left).isSome && (place right).isNone)
  | "-ot" => .ok ((place left).isNone && (place right).isSome)
  | operator =>
    match Condition.compare? operator with
    | some compare => do return compare (← integer left) (← integer right)
    | none => .ok (match operator with
      | "=" => left == right
      | "!=" => left != right
      | "<" => left < right
      | _ => right < left)

/-! ## Expressions -/

mutual

/-- The value of an expression whose first argument is a token, and the arguments from the last one
of it on. All parts of an expression are looked at, whether they decide its value or not. -/
def either (c : Context) : Nat → TestToken → List String → Except String (Bool × List String)
  | 0, _, args => .ok (false, args)
  | n + 1, t, args => do
    let (a, args) ← both c n t args
    if tokenOf args.tail = .either ∧ !args.isEmpty then
      let (b, args) ← either c n (tokenOf (args.drop 2)) (args.drop 2)
      return (a || b, args)
    else return (a, args)

def both (c : Context) : Nat → TestToken → List String → Except String (Bool × List String)
  | 0, _, args => .ok (false, args)
  | n + 1, t, args => do
    let (a, args) ← negated c n t args
    if tokenOf args.tail = .both ∧ !args.isEmpty then
      let (b, args) ← both c n (tokenOf (args.drop 2)) (args.drop 2)
      return (a && b, args)
    else return (a, args)

def negated (c : Context) : Nat → TestToken → List String → Except String (Bool × List String)
  | 0, _, args => .ok (false, args)
  | n + 1, t, args => do
    if t ≠ .negation then primary c n t args
    else
      let next := tokenOf args.tail
      let (a, args) ← negated c n next (if next = .finish then args else args.tail)
      return (!a, args)

def primary (c : Context) : Nat → TestToken → List String → Except String (Bool × List String)
  | 0, _, args => .ok (false, args)
  | n + 1, t, args => do
    match t, args with
    | .finish, args => return (false, args)
    | .opening, _ :: rest =>
      let next := tokenOf rest
      if next = .closing then return (false, rest)
      let (a, rest) ← either c n next rest
      if tokenOf rest.tail ≠ .closing then fail "" "closing paren expected"
      return (a, rest.tail)
    | .unary, operator :: rest =>
      match rest with
      | [] => fail operator "argument expected"
      | operand :: _ => return (← unary c operator operand, rest)
    | _, left :: rest =>
      match tokenOf rest, rest with
      | .binary, operator :: right =>
        match right with
        | [] => fail operator "argument expected"
        | value :: _ => return (← binary c left operator value, right)
      | _, _ => return (!left.isEmpty, args)
    | _, [] => return (false, [])

end

/-- The value of arguments as a condition; the error is the message of the shell. -/
def evaluate (c : Context) : Nat → List String → Except String Bool
  | 0, _ => .ok false
  | n + 1, args => do
    let isBinary := args.length = 3 ∧ binaryOperators.contains (args.getD 1 "")
    let isShort := args.length = 3 ∨ args.length = 4
    if args.isEmpty then return false
    else if isShort ∧ !isBinary ∧ args.head? = some "!" then return !(← evaluate c n args.tail)
    else
      let enclosed := isShort ∧ !isBinary ∧ args.head? = some "(" ∧ args.getLast? = some ")"
      let args := if enclosed then args.tail.dropLast else args
      let (a, rest) ← either c (4 * args.length + 8) (if isBinary then .operand else tokenOf args) args
      match rest with
      | last :: _ :: _ => fail last "unexpected operator"
      | _ => return a

end Test

namespace Shell

/-- Tests a condition under the name of a command. In brackets it must end in one. -/
def test (command : String) (args : List String) (s : Shell) : Shell :=
  if command = "[" && args.getLast? != some "]" then s.refuse command "missing ]"
  else
    let args := if command = "[" then args.dropLast else args
    match Test.evaluate s.context (args.length + 1) args with
    | .ok b => s.setStatus (if b then 0 else 1)
    | .error message => s.refuse command message

end Shell

end CommandServer.Job
