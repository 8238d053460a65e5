/-
The program that works out an expression given as arguments, each operand and operator being one of
them.
-/
import CommandServer.Outside.Job.Utility.Option
import CommandServer.Outside.Text.Octet
import CommandServer.Outside.Text.RegularExpression.Reader

namespace CommandServer.Job

open CommandServer.Text

namespace Utility

namespace Calculation

/-- What keeps an expression from having a value: bad notation, an end too early, or bad operands. -/
inductive Failure where
  | grammar (message : String)
  | ended (message : String)
  | operand (message : String)

/-- What is said about a failure. Where arguments end too early the last one is named. -/
def Failure.text (args : List String) : Failure → String
  | .grammar message => "syntax error: " ++ message
  | .ended message => "syntax error: " ++ message ++ " after " ++ quotedWord (args.getLast?.getD "")
  | .operand message => message

abbrev Calculator (α : Type) := StateT (List String) (Except Failure) α

/-! ## Values -/

/-- The integer that a value spells. -/
def integer? (s : String) : Option Int :=
  match s.toList with
  | '-' :: ds => if !ds.isEmpty && ds.all Char.isDigit then some (-(ofDigits 10 ds : Int)) else none
  | ds => if !ds.isEmpty && ds.all Char.isDigit then some (ofDigits 10 ds) else none

/-- A value counts as nothing if it is empty or spells zero. -/
def isNothing (s : String) : Bool :=
  match s.toList with
  | '-' :: ds => !ds.isEmpty && ds.all (· == '0')
  | ds => ds.all (· == '0')

def flag (b : Bool) : String := if b then "1" else "0"

/-- Two integers worked out. -/
def compute (operator a b : String) : Calculator String := do
  match integer? a, integer? b with
  | some x, some y =>
    if (operator = "/" ∨ operator = "%") ∧ y = 0 then throw (.operand "division by zero")
    return integerText (match operator with
      | "+" => x + y
      | "-" => x - y
      | "*" => x * y
      | "/" => x.tdiv y
      | _ => x.tmod y)
  | _, _ => throw (.operand "non-integer argument")

/-- Two values compared, as integers if both are. -/
def compare (operator a b : String) : String :=
  let order : Ordering := match integer? a, integer? b with
    | some x, some y => if x < y then .lt else if x = y then .eq else .gt
    | _, _ => if a < b then .lt else if a = b then .eq else .gt
  flag (match operator with
    | "<" => order = .lt
    | "<=" => order ≠ .gt
    | "=" | "==" => order = .eq
    | "!=" => order ≠ .eq
    | ">=" => order ≠ .lt
    | _ => order = .gt)

/-- What an expression matches at the start of a text: its first group, or the count of characters
if it has no groups. -/
def matchStart (text pattern : String) : Calculator String :=
  match RegularExpression.read {} (octets pattern) with
  | .error f => throw (.operand f.message)
  | .ok r =>
    let found := r.matchAt? { before := none, rest := (octets text).toList }
    return match found, r.groupCount with
      | some t, 0 => toString ((octets text).length - t.rest.length)
      | some t, _ => ofOctets (String.ofList ((t.groups.lookup 1).getD []))
      | none, 0 => "0"
      | none, _ => ""

/-! ## Notation -/

/-- The operators of a level, those that bind less first. -/
def operatorsOf (level : Nat) : List String :=
  match level with
  | 0 => ["|"]
  | 1 => ["&"]
  | 2 => ["<", "<=", "=", "==", "!=", ">=", ">"]
  | 3 => ["+", "-"]
  | 4 => ["*", "/", "%"]
  | _ => [":"]

/-- The level of what has no operators but words in front of it. -/
def topLevel : Nat := 6

/-- The next argument. -/
def next : Calculator String := do
  match ← get with
  | a :: rest =>
    set rest
    return a
  | [] => throw (.ended "missing argument")

/-- Two values joined by an operator. -/
def apply (operator a b : String) : Calculator String :=
  match operator with
  | "|" => return if !isNothing a then a else if !isNothing b then b else "0"
  | "&" => return if isNothing a || isNothing b then "0" else a
  | ":" => matchStart a b
  | "+" | "-" | "*" | "/" | "%" => compute operator a b
  | operator => return compare operator a b

mutual

/-- The value of an expression of a level. -/
def read : Nat → Nat → Calculator String
  | 0, _ => throw (.grammar "too deep")
  | n + 1, level => do
    if level < topLevel then
      let a ← read n (level + 1)
      readMore n level a
    else
      match ← next with
      | "(" =>
        let a ← read n 0
        match ← get with
        | ")" :: rest =>
          set rest
          return a
        | [] => throw (.ended "expecting ')'")
        | b :: _ => throw (.grammar ("expecting ')' instead of " ++ quotedWord b))
      | ")" => throw (.grammar "unexpected ')'")
      | "+" => next
      | "match" =>
        let a ← read n topLevel
        matchStart a (← read n topLevel)
      | "length" =>
        let a ← read n topLevel
        return toString a.utf8ByteSize
      | "index" =>
        let a ← read n topLevel
        let signs := (octets (← read n topLevel)).toList
        let place := (octets a).toList.findIdx? signs.contains
        return toString ((place.map Nat.succ).getD 0)
      | "substr" =>
        let a ← read n topLevel
        let first ← read n topLevel
        let count ← read n topLevel
        match integer? first, integer? count with
        | some k, some m =>
          if k ≤ 0 ∨ m ≤ 0 then return ""
          let cs := (octets a).toList
          return ofOctets (String.ofList ((cs.drop (k.toNat - 1)).take m.toNat))
        | _, _ => return ""
      | word => return word

/-- The value of what follows a value at a level. -/
def readMore : Nat → Nat → String → Calculator String
  | 0, _, _ => throw (.grammar "too deep")
  | n + 1, level, a => do
    match ← get with
    | operator :: rest =>
      if (operatorsOf level).contains operator then
        set rest
        let b ← read n (level + 1)
        readMore n level (← apply operator a b)
      else return a
    | [] => return a

end

/-- The value of a whole expression. -/
def value (args : List String) : Except Failure String := do
  let (a, rest) ← (read (8 * args.length + 16) 0).run args
  match rest with
  | [] => return a
  | b :: _ => throw (.grammar ("unexpected argument " ++ quotedWord b))

end Calculation

def expr : Behaviour := fun argv c =>
  let args := if argv.tail.head? = some "--" then argv.tail.tail else argv.tail
  if args.isEmpty then .complaint c 2 "expr" ("missing operand" ++ helpHint "expr")
  else match Calculation.value args with
    | .ok a =>
      .ofChunks c (if Calculation.isNothing a then 1 else 0) [⟨.out, encodeUtf8 (a ++ "\n")⟩]
    | .error f => .complaint c 2 "expr" (f.text args)

end Utility

end CommandServer.Job
