/-
The text of a script while it is being read: what is left of it, the line that has been reached, and
the tokens that commands are read from.
-/
import CommandServer.Outside.Job.Script

namespace CommandServer.Job

open CommandServer.Text

/-! ## Errors -/

/-- Why a script cannot be read. -/
inductive ScriptFault where
  | quotation
  | backquote
  | brace
  | arithmetic
  | unexpected (what : String) (wanted : Option String)
  | loopVariable
  | functionName
  | descriptor
  deriving DecidableEq, Repr

def ScriptFault.message (f : ScriptFault) : String :=
  "Syntax error: " ++ match f with
    | .quotation => "Unterminated quoted string"
    | .backquote => "EOF in backquote substitution"
    | .brace => "Missing '\x7d'"
    | .arithmetic => "Missing '))'"
    | .loopVariable => "Bad for loop variable"
    | .functionName => "Bad function name"
    | .descriptor => "Bad fd number"
    | .unexpected what none => what ++ " unexpected"
    | .unexpected what (some "word") => what ++ " unexpected (expecting word)"
    | .unexpected what (some s) => what ++ " unexpected (expecting \"" ++ s ++ "\")"

structure ScriptError where
  fault : ScriptFault
  line : Nat

/-! ## Tokens -/

inductive ScriptToken where
  | word (w : Word)
  | operator (s : String)
  | redirect (descriptor : Nat) (kind : RedirectKind) (strips : Bool)
  | finish

/-- What is left of a script. The token that has been looked at ahead waits to be taken. Lines that
have been taken out of the text are counted at the end of the line in front of them. An alias is busy
as long as the text that it stands for is being read, that is while more than the given number of
characters is left. -/
structure Source where
  chars : List Char
  line : Nat := 1
  skipped : Nat := 0
  ahead : Option ScriptToken := none
  isFile : Bool := false
  aliases : List (String × String) := []
  busy : List (String × Nat) := []

abbrev Reader (α : Type) := StateT Source (Except ScriptError) α

namespace Source

def fail {α : Type} (f : ScriptFault) : Reader α := fun s => .error ⟨f, s.line⟩

/-- The source after some of its characters, none of which ends a line. -/
def drop (k : Nat) : Reader Unit := modify fun s => { s with chars := s.chars.drop k }

/-- The source after the end of a line. -/
def dropLineEnd : Reader Unit :=
  modify fun s => { s with chars := s.chars.tail, line := s.line + 1 + s.skipped, skipped := 0 }

/-- The source after any one character. -/
def dropAny (c : Char) : Reader Unit := if c = '\n' then dropLineEnd else drop 1

/-- Looks at the characters that are left. -/
def chars' : Reader (List Char) := do return (← get).chars

/-! ## Characters -/

/-- The characters that end a word unless they are quoted. -/
def isDelimiter (c : Char) : Bool := " \t\n;&|<>()".toList.contains c

/-- Parameters whose name is one sign. -/
def isSpecial (c : Char) : Bool := c.isDigit || "?$#@*!-".toList.contains c

/-- The text up to an apostrophe, which is taken too. -/
def takeSingle : Reader String := do
  let cs ← chars'
  let text := cs.takeWhile (· != apostrophe)
  if text.length = cs.length then
    modify fun s => { s with line := s.line + text.count '\n' }
    fail .quotation
  modify fun s =>
    { s with chars := cs.drop (text.length + 1), line := s.line + text.count '\n' }
  return String.ofList text

/-- The text up to a backquote, and what follows it. A backslash keeps a backquote, a dollar sign and
itself, and in a quotation the sign that ends that. -/
def splitBackquoted? (quoted : Bool) : List Char → Option (List Char × List Char)
  | [] => none
  | '\x60' :: r => some ([], r)
  | '\\' :: c :: r =>
    (splitBackquoted? quoted r).map fun (t, r) =>
      if c = '\x60' ∨ c = '\\' ∨ c = '$' ∨ (quoted ∧ c = doubleQuote) then (c :: t, r)
      else ('\\' :: c :: t, r)
  | c :: r => (splitBackquoted? quoted r).map fun (t, r) => (c :: t, r)

def takeBackquoted (quoted : Bool) : Reader (List Char) := do
  let s ← get
  match splitBackquoted? quoted s.chars with
  | none => fail .backquote
  | some (t, r) =>
    set { s with chars := r, line := s.line + s.chars.count '\n' - r.count '\n' }
    return t

/-! ## Tokens of signs -/

def operators2 : List String := ["&&", "||", ";;"]

def operators1 : List String := [";", "&", "|", "(", ")"]

/-- A redirection at the start of a text, for a descriptor that may be written in front, and the
number of its characters. -/
def redirect? (cs : List Char) : Option (ScriptToken × Nat) :=
  let (given, r) := match cs with
    | d :: r => if d.isDigit then (asciiDigitValue? d, r) else (none, cs)
    | [] => (none, cs)
  let width := cs.length - r.length
  let token (default : Nat) (kind : RedirectKind) (strips : Bool) (k : Nat) :
      Option (ScriptToken × Nat) :=
    some (.redirect (given.getD default) kind strips, width + k)
  match r with
  | '>' :: '>' :: _ => token 1 .append false 2
  | '>' :: '&' :: _ => token 1 .duplicate false 2
  | '>' :: '|' :: _ => token 1 .overwrite false 2
  | '>' :: _ => token 1 .write false 1
  | '<' :: '<' :: '-' :: _ => token 0 .here true 3
  | '<' :: '<' :: _ => token 0 .here false 2
  | '<' :: '&' :: _ => token 0 .duplicate false 2
  | '<' :: '>' :: _ => token 0 .both false 2
  | '<' :: _ => token 0 .read false 1
  | _ => none

def operator? (cs : List Char) : Option (ScriptToken × Nat) :=
  let two := String.ofList (cs.take 2)
  let one := String.ofList (cs.take 1)
  if operators2.contains two then some (.operator two, 2)
  else if operators1.contains one then some (.operator one, 1)
  else none

/-- Drops blanks, a comment, and line ends behind a backslash. -/
def dropBlanks : Nat → Reader Unit
  | 0 => return
  | n + 1 => do
    match ← chars' with
    | ' ' :: _ | '\t' :: _ => drop 1; dropBlanks n
    | '\\' :: '\n' :: _ => drop 1; dropLineEnd; dropBlanks n
    | '#' :: r => drop (1 + (r.takeWhile (· != '\n')).length)
    | _ => return

/-! ## Here documents -/

/-- The delimiter of a here document, whether a part of it is quoted, and what follows; `mark` is the
quotation mark of the part that is being read. -/
def splitDelimiter (mark : Option Char) : List Char → List Char × Bool × List Char
  | [] => ([], false, [])
  | '\\' :: c :: r =>
    if mark = some apostrophe then
      let (t, quoted, r) := splitDelimiter mark (c :: r)
      ('\\' :: t, quoted, r)
    else
      let (t, _, r) := splitDelimiter mark r
      (c :: t, true, r)
  | c :: r =>
    if mark.isNone && isDelimiter c then ([], false, c :: r)
    else if some c = mark then
      let (t, _, r) := splitDelimiter none r
      (t, true, r)
    else if mark.isNone && (c == apostrophe || c == doubleQuote) then
      let (t, _, r) := splitDelimiter (some c) r
      (t, true, r)
    else
      let (t, quoted, r) := splitDelimiter mark r
      (c :: t, quoted, r)

/-- The lines up to one that is the delimiter alone, and what follows from the end of that line. -/
def splitBody (delimiter : List Char) (strips : Bool) : Nat → List Char → List Char × List Char
  | 0, cs => ([], cs)
  | _ + 1, [] => ([], [])
  | n + 1, cs =>
    let whole := cs.takeWhile (· != '\n')
    let line := if strips then whole.dropWhile (· == '\t') else whole
    let after := cs.drop whole.length
    if line = delimiter then ([], after)
    else match after with
      | [] => (line, [])
      | _ :: r =>
        let (body, after) := splitBody delimiter strips n r
        (line ++ '\n' :: body, after)

/-- Takes the body of a here document out of the lines behind this one, and says whether its
delimiter is quoted. -/
def takeBody (strips : Bool) : Reader (List Char × Bool) := do
  let s ← get
  let (delimiter, quoted, r) := splitDelimiter none s.chars
  let line := r.takeWhile (· != '\n')
  let lines := r.drop (line.length + 1)
  let (body, after) := splitBody delimiter strips (lines.length + 1) lines
  let taken := (r.drop line.length).count '\n' - after.count '\n'
  set { s with chars := line ++ after, skipped := s.skipped + taken }
  return (body, quoted)

end Source

end CommandServer.Job
