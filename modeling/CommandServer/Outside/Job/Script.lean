/-
Shell scripts: commands and the words that they are made of. A word consists of literal text, quoted
or not, and of parts that are replaced when the word is used: parameters, the output of commands,
and arithmetic.
-/
import CommandServer.Text.Quoted

namespace CommandServer.Job

/-! ## Parts of commands -/

/-- What becomes of the value of a parameter. The flag of the middle four says whether an empty
value counts as none, that of the cuts whether as much as possible is cut off. -/
inductive ParameterUse where
  | value
  | length
  | fallback (orEmpty : Bool)
  | assignment (orEmpty : Bool)
  | alternative (orEmpty : Bool)
  | demand (orEmpty : Bool)
  | cutStart (longest : Bool)
  | cutEnd (longest : Bool)
  | unknown
  deriving DecidableEq, Repr

inductive RedirectKind where
  | read
  | write
  | overwrite
  | append
  | both
  | duplicate
  | here
  deriving DecidableEq, Repr

structure RedirectTo (α : Type) where
  descriptor : Nat
  kind : RedirectKind
  target : α

/-! ## Commands -/

mutual

inductive WordPart where
  | literal (text : String) (quoted : Bool)
  | parameter (name : String) (use : ParameterUse) (word : List WordPart) (quoted : Bool)
  | output (body : Command) (quoted : Bool)
  | arithmetic (expression : List WordPart) (quoted : Bool)

inductive Command where
  | simple (line : Nat) (assignments : List (String × List WordPart)) (words : List (List WordPart))
      (redirects : List (RedirectTo (List WordPart)))
  | pipeline (negated : Bool) (parts : List Command)
  | both (first second : Command)
  | either (first second : Command)
  | sequence (parts : List Command)
  | background (body : Command)
  | group (line : Nat) (body : Command) (redirects : List (RedirectTo (List WordPart)))
  | subshell (line : Nat) (body : Command) (redirects : List (RedirectTo (List WordPart)))
  | branch (condition body otherwise : Command)
  | loop (whileFalse : Bool) (condition body : Command)
  | forEach (line : Nat) (name : String) (items : List (List WordPart)) (body : Command)
  | choose (line : Nat) (subject : List WordPart)
      (arms : List (List (List WordPart) × Command))
  | define (name : String) (body : Command)

end

abbrev Word := List WordPart

abbrev Redirect := RedirectTo Word

instance : Inhabited Command := ⟨.sequence []⟩

/-! ## Words -/

namespace Word

/-- The text of a word without anything quoted or replaced, such as the names of the language. -/
def plain? : Word → Option String
  | [] => some ""
  | .literal s false :: w => (plain? w).map (s ++ ·)
  | _ => none

def isNameStart (c : Char) : Bool := c.isAlpha || c == '_'

def isNamePart (c : Char) : Bool := c.isAlphanum || c == '_'

/-- Whether a text is a name that a variable may have. -/
def isName (s : String) : Bool := s.toList.head?.any isNameStart && s.toList.all isNamePart

/-- A word as the name of a variable or a function. -/
def name? (w : Word) : Option String := (plain? w).filter isName

/-- The name that a word assigns to, and the value. -/
def assignment? (w : Word) : Option (String × Word) :=
  let (front, rest) := w.span fun p => match p with
    | .literal s false => s != "="
    | _ => false
  match plain? front, rest with
  | some name, .literal "=" false :: value => if isName name then some (name, value) else none
  | _, _ => none

end Word

end CommandServer.Job
