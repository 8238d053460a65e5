/-
The command line. Options come first and may be shortened as long as they stay unambiguous; the
first argument that is no option starts the command, and from there on nothing is an option.
-/
import CommandServer.Path
import CommandServer.Text.Quoted

namespace CommandServer

open CommandServer.Text

inductive Switch where
  | help
  | debug
  | config
  | version
  deriving DecidableEq, Repr

namespace Switch

def names : Switch → List String
  | .help => ["-h", "--help"]
  | .debug => ["--debug"]
  | .config => ["--config"]
  | .version => ["--version"]

/-- The switch as messages name it. -/
def label (s : Switch) : String := String.intercalate "/" s.names

/-- Every name with its switch. -/
def table : List (String × Switch) :=
  [help, debug, config, version].flatMap fun s => s.names.map (·, s)

end Switch

/-! ## Errors -/

inductive OptionError where
  | ambiguous (written : String) (candidates : List String)
  | needsValue (s : Switch)
  | unusedValue (s : Switch) (value : String)
  | unknown (written : List String)
  | noCommand
  deriving DecidableEq, Repr

def OptionError.message : OptionError → String
  | .ambiguous written candidates =>
    "ambiguous option: " ++ written ++ " could match " ++ String.intercalate ", " candidates
  | .needsValue s => "argument " ++ s.label ++ ": expected one argument"
  | .unusedValue s value => "argument " ++ s.label ++ ": ignored explicit argument " ++ quoted value
  | .unknown written => "unrecognized arguments: " ++ String.intercalate " " written
  | .noCommand => "no command provided"

/-! ## Single arguments -/

/-- What an argument is, as long as no command has started. -/
inductive Argument where
  | operand
  | unknown
  /-- A switch by its long name or by its letter, and the value written with it. -/
  | switch (s : Switch) (long : Bool) (value : Option String)
  deriving DecidableEq, Repr

namespace Argument

/-- A text before and after its first equals sign. -/
def splitValue (cs : List Char) : String × Option String :=
  (String.ofList (cs.takeWhile (· != '=')),
    match cs.dropWhile (· != '=') with
    | [] => none
    | _ :: value => some (String.ofList value))

def isDecimal (c : Char) : Bool := (digitValue? c).isSome

/-- A minus sign with digits, or with digits around a point; a line feed may follow. -/
def isNegativeNumber (cs : List Char) : Bool :=
  let cs := if cs.getLast? = some '\n' then cs.dropLast else cs
  match cs with
  | '-' :: body =>
    match body.dropWhile isDecimal with
    | [] => !body.isEmpty
    | '.' :: fraction => !fraction.isEmpty && fraction.all isDecimal
    | _ => false
  | _ => false

/-- The names that an argument may be short for, each with the value written with it. -/
def candidates (cs : List Char) : List (String × Switch × Option String) :=
  match cs with
  | '-' :: '-' :: _ =>
    let (name, value) := splitValue cs
    (Switch.table.filter fun e => e.1.startsWith name).map fun (n, s) => (n, s, value)
  | '-' :: c :: value =>
    Switch.table.filterMap fun (n, s) =>
      if n = String.ofList ['-', c] then some (n, s, some (String.ofList value))
      else if n.startsWith (String.ofList cs) then some (n, s, none)
      else none
  | _ => []

def isLong (name : String) : Bool := name.startsWith "--"

/-- An argument that is no name in full. -/
def ofShortened (written : String) : Except OptionError Argument :=
  let cs := written.toList
  match candidates cs with
  | [(n, s, value)] => .ok (.switch s (isLong n) value)
  | [] => .ok (if isNegativeNumber cs || cs.contains ' ' then .operand else .unknown)
  | several => .error (.ambiguous written (several.map (·.1)))

def ofString (written : String) : Except OptionError Argument :=
  let cs := written.toList
  if cs.head? ≠ some '-' ∨ cs.length = 1 then .ok .operand
  else match Switch.table.lookup written with
    | some s => .ok (.switch s (isLong written) none)
    | none =>
      match splitValue cs with
      | (name, some value) =>
        match Switch.table.lookup name with
        | some s => .ok (.switch s (isLong name) (some value))
        | none => ofShortened written
      | _ => ofShortened written

end Argument

/-! ## The command line -/

structure Options where
  debug : Bool := false
  config : Option Path := none
  command : List String := []
  deriving DecidableEq, Repr

/-- What a command line asks for. -/
inductive Invocation where
  | help
  | version
  | run (o : Options)
  deriving DecidableEq, Repr

namespace Options

/-- Every argument with what it is. Behind two dashes everything is an operand. -/
def classify : List String → Except OptionError (List (String × Argument))
  | [] => .ok []
  | w :: ws =>
    if w = "--" then .ok ((w :: ws).map (·, .operand))
    else do
      let a ← Argument.ofString w
      return (w, a) :: (← classify ws)

/-- What is written behind a letter is more letters; the first one that is no option is refused,
with all that follow it, as a value of the option in front of it. -/
def checkLetters (s : Switch) : List Char → Except OptionError Unit
  | [] => .ok ()
  | c :: r =>
    match Switch.table.lookup (String.ofList ['-', c]) with
    | some s => checkLetters s r
    | none => .error (.unusedValue s (String.ofList (c :: r)))

/-- A value written together with an option that takes none. -/
def checkValue (s : Switch) (long : Bool) : Option String → Except OptionError Unit
  | none => .ok ()
  | some value =>
    if long || value.isEmpty then .error (.unusedValue s value) else checkLetters s value.toList

/-- Takes the options, in order, up to the command. -/
def take (o : Options) (unknown : List String) :
    List (String × Argument) → Except OptionError Invocation
  | [] => finish o unknown []
  | (w, .operand) :: rest => finish o unknown (w :: rest.map Prod.fst)
  | (w, .unknown) :: rest => take o (unknown ++ [w]) rest
  | (_, .switch .config _ (some value)) :: rest =>
    take { o with config := some (.ofString value) } unknown rest
  | (_, .switch .config _ none) :: (value, .operand) :: rest =>
    if value = "--" then .error (.needsValue .config)
    else take { o with config := some (.ofString value) } unknown rest
  | (_, .switch .config _ none) :: _ => .error (.needsValue .config)
  | (_, .switch .debug long value) :: rest => do
    checkValue .debug long value
    take { o with debug := true } unknown rest
  | (_, .switch .help long value) :: _ => do
    checkValue .help long value
    return .help
  | (_, .switch .version long value) :: _ => do
    checkValue .version long value
    return .version
where
  finish (o : Options) (unknown command : List String) : Except OptionError Invocation :=
    if unknown.isEmpty then .ok (.run { o with command }) else .error (.unknown unknown)

/-- Reads a command line. -/
def parse (argv : List String) : Except OptionError Invocation := do
  take {} [] (← classify argv)

end Options

end CommandServer
