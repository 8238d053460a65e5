/-
Arguments of the commands of a shell: options, numbers, assignments, and text between apostrophes.
-/
import CommandServer.Outside.Job.Shell.Redirection

namespace CommandServer.Job.Shell

open CommandServer.Text

/-! ## Options -/

/-- The options in front of the other arguments, each with its own argument, which the letters that
a colon follows have. The error is the message of the shell. -/
def readOptions (known : List Char) : List String →
    Except String (List (Char × String) × List String)
  | [] => .ok ([], [])
  | a :: rest =>
    match a.toList with
    | ['-', '-'] => .ok ([], rest)
    | '-' :: c :: letters => do
      let (here, takesNext) ← readLetters (c :: letters)
      match takesNext, rest with
      | some c, b :: rest =>
        let (more, operands) ← readOptions known rest
        return (here ++ (c, b) :: more, operands)
      | some c, [] => throw ("No arg for -" ++ String.ofList [c] ++ " option")
      | none, rest =>
        let (more, operands) ← readOptions known rest
        return (here ++ more, operands)
    | _ => .ok ([], a :: rest)
where
  /-- The options among the letters behind a dash, and the last one if its argument is missing. -/
  readLetters : List Char → Except String (List (Char × String) × Option Char)
    | [] => .ok ([], none)
    | c :: letters =>
      if c = ':' ∨ !known.contains c then .error ("Illegal option -" ++ String.ofList [c])
      else if (known.dropWhile (· != c))[1]? = some ':' then
        .ok (if letters.isEmpty then ([], some c) else ([(c, String.ofList letters)], none))
      else do
        let (more, takesNext) ← readLetters letters
        return ((c, "") :: more, takesNext)

/-- A command with its options read. -/
def withOptions (command known : String)
    (run : List (Char × String) → List String → Shell → Shell) (args : List String) (s : Shell) :
    Shell :=
  match readOptions known.toList args with
  | .ok (options, operands) => run options operands s
  | .error message => s.refuse command message

/-! ## Numbers and names -/

/-- The number that an argument spells. -/
def number? (a : String) : Option Nat :=
  (if !a.isEmpty && a.toList.all Char.isDigit then a.toNat? else none).filter (· < powTwo 31)

def refuseNumber (command a : String) (s : Shell) : Shell :=
  s.refuse command ("Illegal number: " ++ a)

/-- The name and the value that an argument with an equals sign gives. -/
def splitAssignment (a : String) : String × Option String :=
  match a.toList.span (· != '=') with
  | (_, []) => (a, none)
  | (name, _ :: value) => (String.ofList name, some (String.ofList value))

/-- Gives a variable a value for a command of the shell, which refuses bad names. -/
def assignFor (command name value : String) (s : Shell) : Shell :=
  if !Word.isName name then s.refuse command (name ++ ": bad variable name")
  else if s.isFixed name then s.refuse command (name ++ ": is read only")
  else s.put name value

/-! ## Quotation -/

/-- The text between apostrophes; apostrophes in it stand between double quotes. -/
def singleQuoted (text : String) : String := String.ofList (quote (text.length + 1) text.toList)
where
  quote : Nat → List Char → List Char
    | 0, _ => []
    | n + 1, cs =>
      let plain := cs.takeWhile (· != apostrophe)
      let rest := cs.drop plain.length
      let marks := rest.takeWhile (· == apostrophe)
      let here := apostrophe :: plain ++ [apostrophe]
      let more := rest.drop marks.length
      if marks.isEmpty then here
      else here ++ doubleQuote :: marks ++ doubleQuote ::
        (if more.isEmpty then [] else quote n more)

/-- A line that assigns a value. -/
def assignmentLine (name value : String) : String := name ++ "=" ++ singleQuoted value ++ "\n"

end CommandServer.Job.Shell
