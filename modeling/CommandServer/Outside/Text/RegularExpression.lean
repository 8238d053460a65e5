/-
Regular expressions and what they match: of all matches the one that starts first, and of those the
longest.
-/
namespace CommandServer.Text

/-- A gap is a place between two characters on which there is a condition. -/
inductive RegularExpression where
  | empty
  | one (isMember : Char → Bool)
  | gap (holds : Option Char → Option Char → Bool)
  | group (k : Nat) (r : RegularExpression)
  | again (k : Nat)
  | both (a b : RegularExpression)
  | either (a b : RegularExpression)
  | repeated (least : Nat) (most : Option Nat) (r : RegularExpression)

/-- Where matching stands: the character in front, what is left of the text, and what groups have
matched. -/
structure MatchState where
  before : Option Char
  rest : List Char
  groups : List (Nat × List Char) := []

/-- A match in a text: what is in front of it, the match itself, and what follows. -/
structure TextMatch where
  front : List Char
  whole : List Char
  rest : List Char
  groups : List (Nat × List Char)

namespace RegularExpression

def isWordPart (c : Char) : Bool := c.isAlphanum || c == '_'

/-- A bound for the depth of an expression in which every repetition is done as often as it must. -/
def weight : RegularExpression → Nat
  | .group _ r => weight r + 1
  | .both a b => weight a + weight b + 1
  | .either a b => weight a + weight b + 1
  | .repeated least _ r => weight r * (least + 1) + least + 1
  | _ => 1

/-- The number of groups. -/
def groupCount : RegularExpression → Nat
  | .group k r => max k (groupCount r)
  | .both a b => max (groupCount a) (groupCount b)
  | .either a b => max (groupCount a) (groupCount b)
  | .repeated _ _ r => groupCount r
  | _ => 0

/-! ## Places -/

def lineStart : RegularExpression := .gap fun before _ => before.isNone

def lineEnd : RegularExpression := .gap fun _ after => after.isNone

def startsWord (before after : Option Char) : Bool :=
  !before.any isWordPart && after.any isWordPart

def endsWord (before after : Option Char) : Bool := before.any isWordPart && !after.any isWordPart

/-- An expression that must match whole lines. -/
def wholeLine (r : RegularExpression) : RegularExpression := .both lineStart (.both r lineEnd)

/-- An expression with nothing of a word next to its matches. -/
def wholeWord (r : RegularExpression) : RegularExpression :=
  .both (.gap fun before _ => !before.any isWordPart)
    (.both r (.gap fun _ after => !after.any isWordPart))

/-- A text as it is. -/
def literal (cs : List Char) (ignoresCase : Bool) : RegularExpression :=
  cs.foldr (fun c r => .both (.one fun d =>
    d == c || (ignoresCase && d.toLower == c.toLower)) r) .empty

/-! ## Matching -/

/-- States without those that stand where an earlier one does. -/
def distinct : List MatchState → List MatchState
  | [] => []
  | s :: rest => s :: (distinct rest).filter fun t => t.rest.length != s.rest.length

/-- The states after characters of a kind, those behind more of them first. -/
def afterEach (isMember : Char → Bool) (s : MatchState) :
    Nat → Nat → List Char → Option Char → List MatchState → List MatchState
  | 0, _, _, _, states => states
  | most + 1, least, cs, before, states =>
    let states := if least = 0 then { s with before, rest := cs } :: states else states
    match cs with
    | [] => states
    | c :: r =>
      if isMember c then afterEach isMember s most (least - 1) r (some c) states else states

/-- The states in which a match may end. -/
def run : Nat → RegularExpression → MatchState → List MatchState
  | 0, _, _ => []
  | n + 1, r, s =>
    match r with
    | .empty => [s]
    | .one isMember =>
      match s.rest with
      | c :: rest => if isMember c then [{ s with before := some c, rest }] else []
      | [] => []
    | .gap holds => if holds s.before s.rest.head? then [s] else []
    | .group k r =>
      (run n r s).map fun t =>
        let text := s.rest.take (s.rest.length - t.rest.length)
        { t with groups := (k, text) :: t.groups.filter (·.1 != k) }
    | .again k =>
      match s.groups.lookup k with
      | some text =>
        if text.isPrefixOf s.rest then
          [{ s with before := text.getLast?.or s.before, rest := s.rest.drop text.length }]
        else []
      | none => []
    | .both a b => distinct ((run n a s).flatMap (run n b))
    | .either a b => distinct (run n a s ++ run n b s)
    | .repeated least most (.one isMember) =>
      afterEach isMember s ((most.getD s.rest.length) + 1) least s.rest s.before []
    | .repeated least most r =>
      let once := if most = some 0 then []
        else (run n r s).filter fun t => 0 < least || t.rest.length < s.rest.length
      let more := once.flatMap (run n (.repeated (least - 1) (most.map (· - 1)) r))
      distinct (more ++ if least = 0 then [s] else [])

/-- The longest match at the start of what is left. -/
def matchAt? (r : RegularExpression) (s : MatchState) : Option MatchState :=
  (run (weight r + s.rest.length + 8) r s).foldl (fun best t =>
    match best with
    | some b => if t.rest.length < b.rest.length then some t else some b
    | none => some t) none

/-- The first match in what is left of a text; `skipped` stands in front of it in reverse. -/
def findFrom? (r : RegularExpression) : List Char → Option Char → List Char → Option TextMatch
  | skipped, before, cs =>
    match matchAt? r ⟨before, cs, []⟩ with
    | some t =>
      some ⟨skipped.reverse, cs.take (cs.length - t.rest.length), t.rest, t.groups⟩
    | none =>
      match cs with
      | [] => none
      | c :: rest => findFrom? r (c :: skipped) (some c) rest
termination_by _ _ cs => cs.length

/-- The first match in a text. -/
def find? (r : RegularExpression) (cs : List Char) : Option TextMatch := findFrom? r [] none cs

def isIn (r : RegularExpression) (cs : List Char) : Bool := (find? r cs).isSome

/-- A part of a text: one that does not match, or a match. -/
inductive Segment where
  | plain (cs : List Char)
  | matched (m : TextMatch)

/-- The parts of a text between and in matches. An empty match does not follow another one at
once. -/
def segmentsFrom (r : RegularExpression) : Nat → Bool → Option Char → List Char → List Segment
  | 0, _, _, cs => [.plain cs]
  | n + 1, afterMatch, before, cs =>
    match findFrom? r [] before cs with
    | none => [.plain cs]
    | some m =>
      if !m.whole.isEmpty then
        .plain m.front :: .matched m :: segmentsFrom r n true m.whole.getLast? m.rest
      else
        let here := if afterMatch && m.front.isEmpty then [] else [.matched m]
        match m.rest with
        | [] => .plain m.front :: here
        | c :: rest =>
          .plain m.front :: here ++ .plain [c] :: segmentsFrom r n false (some c) rest

def segments (r : RegularExpression) (cs : List Char) : List Segment :=
  segmentsFrom r (cs.length + 2) false none cs

end RegularExpression

end CommandServer.Text
