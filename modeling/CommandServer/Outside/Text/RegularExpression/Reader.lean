/-
The notation of regular expressions. In the basic one a backslash makes signs of brackets, braces and
a few more characters; in the extended one it takes that meaning away.
-/
import CommandServer.Outside.Text.CharacterClass
import CommandServer.Text.Digit
import CommandServer.Text.Quoted
import CommandServer.Outside.Text.RegularExpression

namespace CommandServer.Text

/-- What is wrong with the notation of a regular expression. -/
inductive RegularFault where
  | pattern
  | bracket
  | parenthesis
  | closing
  | brace
  | content
  | range
  | rangeName
  | className
  | preceding
  | backReference
  | backslash
  | tooBig
  deriving DecidableEq, Repr

def RegularFault.message : RegularFault → String
  | .pattern => "Invalid regular expression"
  | .bracket => "Unmatched [, [^, [:, [., or [="
  | .parenthesis => "Unmatched ( or \\("
  | .closing => "Unmatched ) or \\)"
  | .brace => "Unmatched \\\x7b"
  | .content => "Invalid content of \\\x7b\\\x7d"
  | .range => "Invalid range end"
  | .rangeName => "Invalid collation character"
  | .className => "Invalid character class name"
  | .preceding => "Invalid preceding regular expression"
  | .backReference => "Invalid back reference"
  | .backslash => "Trailing backslash"
  | .tooBig => "Regular expression too big"

/-- How a notation is to be read. -/
structure RegularNotation where
  extended : Bool := false
  ignoresCase : Bool := false

structure RegularSource where
  chars : List Char
  groups : Nat := 0
  closed : List Nat := []

abbrev RegularReader (α : Type) := StateT RegularSource (Except RegularFault) α

namespace RegularExpression

/-! ## Characters -/

/-- One character of a kind, in any case if that does not count. -/
def oneOf (ignoresCase : Bool) (isMember : Char → Bool) : RegularExpression :=
  .one fun c => isMember c || (ignoresCase && (isMember c.toLower || isMember c.toUpper))

def fault {α : Type} (f : RegularFault) : RegularReader α := throw f

def drop (k : Nat) : RegularReader Unit := modify fun s => { s with chars := s.chars.drop k }

/-- The name between two signs and brackets, and what follows. -/
def readNamed (sign : Char) (cs : List Char) : Option (List Char × List Char) :=
  match cs.span (· != sign) with
  | (name, _ :: ']' :: rest) => some (name, rest)
  | _ => none

/-- The members of a class as conditions. -/
def readMembers : Nat → Bool → RegularReader (List (Char → Bool))
  | 0, _ => fault .bracket
  | n + 1, first => do
    match (← get).chars with
    | [] => fault .bracket
    | ']' :: r =>
      if first then readRange n ']' r
      else
        drop 1
        return []
    | '[' :: ':' :: r =>
      match readNamed ':' r with
      | some (name, rest) =>
        match characterClasses.lookup (String.ofList name) with
        | some p =>
          modify fun s => { s with chars := rest }
          return p :: (← readMembers n false)
        | none => fault .className
      | none => fault .bracket
    | '[' :: sign :: r =>
      if sign = '=' ∨ sign = '.' then
        match readNamed sign r with
        | some ([c], rest) => readRange n c rest
        | some _ => fault .rangeName
        | none => fault .bracket
      else readRange n '[' (sign :: r)
    | c :: r => readRange n c r
where
  /-- The members from a character on, which may begin a range. -/
  readRange (n : Nat) (c : Char) (rest : List Char) : RegularReader (List (Char → Bool)) := do
    match rest with
    | '-' :: ']' :: _ =>
      modify fun s => { s with chars := rest }
      return (· == c) :: (← readMembers n false)
    | '-' :: d :: r =>
      modify fun s => { s with chars := r }
      if d < c then fault .range
      return (fun x => c ≤ x && x ≤ d) :: (← readMembers n false)
    | _ =>
      modify fun s => { s with chars := rest }
      return (· == c) :: (← readMembers n false)

/-- A class behind its bracket. -/
def readClass (ignoresCase : Bool) : RegularReader RegularExpression := do
  let cs := (← get).chars
  if cs.isEmpty ∨ cs = ['^'] then fault .pattern
  if cs.head? = some '^' then
    drop 1
    let members ← readMembers (cs.length + 1) true
    let isMember (c : Char) : Bool :=
      members.any fun p => p c || (ignoresCase && (p c.toLower || p c.toUpper))
    return .one fun c => !isMember c
  else
    let members ← readMembers (cs.length + 1) true
    return oneOf ignoresCase fun c => members.any (· c)

/-! ## Repetition -/

/-- The bounds of a repetition in braces, and the text behind them. -/
def readBounds (extended : Bool) (cs : List Char) :
    RegularReader (Option (Nat × Option Nat × List Char)) := do
  let low := cs.takeWhile Char.isDigit
  let rest := cs.drop low.length
  let (high, rest) := match rest with
    | ',' :: r =>
      let digits := r.takeWhile Char.isDigit
      (some digits, r.drop digits.length)
    | r => (none, r)
  let after? := match extended, rest with
    | true, '\x7d' :: r => some r
    | false, '\\' :: '\x7d' :: r => some r
    | _, _ => none
  match after? with
  | none => if extended then return none else fault (if rest.isEmpty then .brace else .content)
  | some after =>
    if low.isEmpty ∧ high.isNone then
      if extended then return none else fault .content
    let least := ofDigits 10 low
    let most := match high with
      | none => some least
      | some [] => none
      | some digits => some (ofDigits 10 digits)
    if most.any (· < least) then fault .content
    if 32767 < max least (most.getD 0) then fault .tooBig
    return some (least, most, after)

/-- What a sign asks for behind an expression, and the number of characters that it takes. -/
def repetition? (extended : Bool) (cs : List Char) : Option (Nat × Option Nat × Nat) :=
  match extended, cs with
  | _, '*' :: _ => some (0, none, 1)
  | true, '+' :: _ => some (1, none, 1)
  | true, '?' :: _ => some (0, some 1, 1)
  | false, '\\' :: '+' :: _ => some (1, none, 2)
  | false, '\\' :: '?' :: _ => some (0, some 1, 2)
  | _, _ => none

/-- An expression with the repetitions behind it. -/
def readRepetitions (extended : Bool) : Nat → RegularExpression →
    RegularReader RegularExpression
  | 0, r => return r
  | n + 1, r => do
    let cs := (← get).chars
    match repetition? extended cs with
    | some (least, most, k) =>
      drop k
      readRepetitions extended n (.repeated least most r)
    | none =>
      let braces := match extended, cs with
        | true, '\x7b' :: rest => some rest
        | false, '\\' :: '\x7b' :: rest => some rest
        | _, _ => none
      match braces with
      | none => return r
      | some rest =>
        match ← readBounds extended rest with
        | some (least, most, after) =>
          modify fun s => { s with chars := after }
          readRepetitions extended n (.repeated least most r)
        | none => return r

/-! ## Expressions -/

/-- What a backslash makes of the character behind it, where that is a condition or a kind of
characters. -/
def escaped? (c : Char) : Option RegularExpression :=
  match c with
  | 'w' => some (.one isWordPart)
  | 'W' => some (.one fun c => !isWordPart c)
  | 's' => some (.one isBlankOrBreak)
  | 'S' => some (.one fun c => !isBlankOrBreak c)
  | 'b' => some (.gap fun a b => startsWord a b || endsWord a b)
  | 'B' => some (.gap fun a b => !startsWord a b && !endsWord a b)
  | '<' => some (.gap startsWord)
  | '>' => some (.gap endsWord)
  | '\x60' => some lineStart
  | _ => if c = apostrophe then some lineEnd else none

/-- Whether an expression ends in front of a text. -/
def atEnd (extended : Bool) (depth : Nat) (cs : List Char) : Bool :=
  match extended, cs with
  | _, [] => true
  | true, '|' :: _ => true
  | true, ')' :: _ => 0 < depth
  | false, '\\' :: '|' :: _ => true
  | false, '\\' :: ')' :: _ => true
  | _, _ => false

mutual

/-- Expressions between strokes. -/
def readEither (o : RegularNotation) : Nat → Nat → RegularReader RegularExpression
  | 0, _ => fault .tooBig
  | n + 1, depth => do
    let a ← readBoth o n depth true
    match o.extended, (← get).chars with
    | true, '|' :: _ =>
      drop 1
      return .either a (← readEither o n depth)
    | false, '\\' :: '|' :: _ =>
      drop 2
      return .either a (← readEither o n depth)
    | _, _ => return a

/-- Expressions one after the other. -/
def readBoth (o : RegularNotation) : Nat → Nat → Bool → RegularReader RegularExpression
  | 0, _, _ => fault .tooBig
  | n + 1, depth, first => do
    let cs := (← get).chars
    if atEnd o.extended depth cs then return .empty
    let (r, repeats) ← readOne o n depth first
    let r ← if repeats then readRepetitions o.extended cs.length r else pure r
    let rest ← readBoth o n depth (first && !repeats)
    return match rest with
      | .empty => r
      | rest => .both r rest

/-- One expression, and whether signs of repetition count behind it. -/
def readOne (o : RegularNotation) : Nat → Nat → Bool → RegularReader (RegularExpression × Bool)
  | 0, _, _ => fault .tooBig
  | n + 1, depth, first => do
    let cs := (← get).chars
    let char (c : Char) : RegularExpression := oneOf o.ignoresCase (· == c)
    match cs with
    | [] => return (.empty, false)
    | '\\' :: [] => fault .backslash
    | '\\' :: c :: _ =>
      drop 2
      if c = '(' ∧ !o.extended then readGroup o n depth
      else if c = '\x7b' ∧ !o.extended then
        if first then return (char '\x7b', true) else fault .preceding
      else if '1' ≤ c ∧ c ≤ '9' then
        let k := (asciiDigitValue? c).getD 0
        if (← get).closed.contains k then return (.again k, true) else fault .backReference
      else match escaped? c with
        | some e => return (e, true)
        | none => return (char (if c = 'n' then '\n' else if c = 't' then '\t' else c), true)
    | '(' :: _ =>
      drop 1
      if o.extended then readGroup o n depth else return (char '(', true)
    | '.' :: _ =>
      drop 1
      return (.one fun _ => true, true)
    | '[' :: _ =>
      drop 1
      return (← readClass o.ignoresCase, true)
    | '^' :: _ =>
      drop 1
      return if o.extended ∨ first then (lineStart, o.extended) else (char '^', true)
    | '$' :: r =>
      drop 1
      return if o.extended ∨ atEnd false depth r then (lineEnd, o.extended) else (char '$', true)
    | c :: _ =>
      drop 1
      return (char c, true)

def readGroup (o : RegularNotation) : Nat → Nat → RegularReader (RegularExpression × Bool)
  | 0, _ => fault .tooBig
  | n + 1, depth => do
    let k := (← get).groups + 1
    modify fun s => { s with groups := k }
    let r ← readEither o n (depth + 1)
    match o.extended, (← get).chars with
    | true, ')' :: _ => drop 1
    | false, '\\' :: ')' :: _ => drop 2
    | _, _ => fault .parenthesis
    modify fun s => { s with closed := k :: s.closed }
    return (.group k r, true)

end

/-- The expression that a text stands for. -/
def read (o : RegularNotation) (text : String) : Except RegularFault RegularExpression := do
  let cs := text.toList
  let (r, s) ← (readEither o (8 * cs.length + 8) 0).run { chars := cs }
  if s.chars.isEmpty then return r else throw .closing

end RegularExpression

end CommandServer.Text
