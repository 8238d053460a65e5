/-
Arguments of programs: options of one letter and long ones, which may have arguments of their own,
and operands among them.
-/
import CommandServer.Outside.Job.Basic
import CommandServer.Outside.Job.Quotation

namespace CommandServer.Job

open CommandServer.Text

namespace Utility

/-- The options that a program knows: its letters, those that a colon follows with an argument, and
the long names for some of them. -/
structure OptionNames where
  letters : List Char
  long : List (String × Char) := []

/-- What arguments amount to: options with their arguments, and operands. -/
abbrev GivenOptions := List (Char × String) × List String

namespace OptionNames

def knows (o : OptionNames) (c : Char) : Bool := c != ':' && o.letters.contains c

def takesArgument (o : OptionNames) (c : Char) : Bool :=
  (o.letters.dropWhile (· != c))[1]? == some ':'

/-- The options that letters behind a dash stand for. What takes an argument takes the rest of them,
or is left to take the next one. -/
def readLetters (o : OptionNames) : List Char →
    Except String (List (Char × String) × Option Char)
  | [] => .ok ([], none)
  | c :: rest =>
    if !o.knows c then .error ("invalid option -- '" ++ String.ofList [c] ++ "'")
    else if o.takesArgument c then
      .ok (if rest.isEmpty then ([], some c) else ([(c, String.ofList rest)], none))
    else do
      let (more, open?) ← readLetters o rest
      return ((c, "") :: more, open?)

/-- The long option that a name stands for, which may be cut off as long as it is clear. -/
def readLong (o : OptionNames) (a : String) : Except String (Char × String × Bool) := do
  let (name, value) := (a.drop 2).toString.toList.span (· != '=')
  let name := String.ofList name
  let fitting := match o.long.filter (·.1 == name) with
    | [] => o.long.filter fun (e : String × Char) => e.1.startsWith name
    | exact => exact
  match fitting with
  | [] => throw ("unrecognized option '" ++ a ++ "'")
  | (full, c) :: others =>
    if others.any (·.2 != c) then
      let listed := fitting.map fun (e : String × Char) => " '--" ++ e.1 ++ "'"
      throw ("option '" ++ a ++ "' is ambiguous; possibilities:" ++ String.join listed)
    match o.takesArgument c, value with
    | false, [] => return (c, "", false)
    | false, _ => throw ("option '--" ++ full ++ "' doesn't allow an argument")
    | true, [] => return (c, full, true)
    | true, _ :: value => return (c, String.ofList value, false)

/-- Reads arguments. Operands may stand before options unless the flag says that the first of them
ends the options. -/
def read (o : OptionNames) (strict : Bool) : List String → Except String GivenOptions
  | [] => .ok ([], [])
  | a :: rest =>
    match a.toList with
    | ['-', '-'] => .ok ([], rest)
    | '-' :: '-' :: _ => do
      let (c, value, takesNext) ← o.readLong a
      if !takesNext then
        let (options, operands) ← read o strict rest
        return ((c, value) :: options, operands)
      else match rest with
        | b :: rest =>
          let (options, operands) ← read o strict rest
          return ((c, b) :: options, operands)
        | [] => throw ("option '--" ++ value ++ "' requires an argument")
    | '-' :: c :: letters => do
      let (here, open?) ← o.readLetters (c :: letters)
      match open?, rest with
      | some c, b :: rest =>
        let (options, operands) ← read o strict rest
        return (here ++ (c, b) :: options, operands)
      | some c, [] => throw ("option requires an argument -- '" ++ String.ofList [c] ++ "'")
      | none, rest =>
        let (options, operands) ← read o strict rest
        return (here ++ options, operands)
    | _ =>
      if strict then .ok ([], a :: rest)
      else do
        let (options, operands) ← read o strict rest
        return (options, a :: operands)

end OptionNames

/-! ## Misuse -/

/-- The line that points to the help of a program. -/
def helpHint (program : String) : String :=
  "\nTry '" ++ program ++ " --help' for more information."

def misuse (c : Context) (program message : String) : Report :=
  .complaint c 1 program (message ++ helpHint program)

/-- A program with its arguments read. -/
def withArguments (program letters : String) (long : List (String × Char))
    (run : List (Char × String) → List String → Context → Report) : Behaviour := fun argv c =>
  match OptionNames.read ⟨letters.toList, long⟩ false argv.tail with
  | .ok (options, operands) => run options operands c
  | .error message => misuse c program message

/-- A program whose options are letters alone. -/
def withFlags (program letters : String) (run : List Char → List String → Context → Report) :
    Behaviour :=
  withArguments program letters [] fun options operands c =>
    run (options.map Prod.fst) operands c

/-- Whether an option has been given. -/
def hasOption (options : List (Char × String)) (c : Char) : Bool := options.any (·.1 == c)

/-- The argument of an option, the last one if it has been given more than once. -/
def optionValue? (options : List (Char × String)) (c : Char) : Option String :=
  (options.filter (·.1 == c)).getLast?.map Prod.snd

end Utility

end CommandServer.Job
