/-
Running a command and reporting what came of it. A request with a blank command starts nothing;
otherwise the outcome of the started process becomes one text and a verdict.
-/
import CommandServer.Fault
import CommandServer.Log.Record
import CommandServer.Number.Decimal
import CommandServer.OrderedMap
import CommandServer.Text.Blank

namespace CommandServer

open CommandServer.Text

/-- Environment variables by name. -/
abbrev Environment := OrderedMap String

/-! ## Requests -/

/-- A time span as it was given. -/
inductive Seconds where
  | whole (n : Int)
  | real (x : Binary64)
  deriving DecidableEq, Repr

def Seconds.text : Seconds → String
  | .whole n => integerText n
  | .real x => x.text

/-- Six significant digits; an integer beyond all floating point numbers has no such text. -/
def Seconds.roundedText : Seconds → Except Fault String
  | .whole n => match Binary64.ofInt? n with
    | some x => .ok x.roundedText
    | none => .error .integerTooLarge
  | .real x => .ok x.roundedText

/-- How commands are run: a time limit, a working directory, and variables that are put over the
environment of the program. -/
structure ExecutionSettings where
  timeout : Option Seconds := none
  directory : Option Path := none
  environment : Environment := .empty

structure ExecutionRequest where
  argv : List String
  settings : ExecutionSettings

/-- What is handed to the operating system. No environment means that of the program. -/
structure Launch where
  argv : List String
  timeout : Option Seconds
  directory : Option Path
  environment : Option Environment

/-- What came of a launch. -/
inductive Outcome where
  | completed (stdout stderr : Option String) (status : Int)
  | timedOut (limit : Seconds)
  | failed (e : SystemError)
  | refused (f : Fault)

structure ExecutionResult where
  output : String
  success : Bool
  exitCode : Option Int
  deriving DecidableEq, Repr

/-- An answer, the records logged on the way to it, and the state after it. -/
structure Step (σ α : Type) where
  answer : α
  records : List Log.Record
  state : σ

/-- Starts processes, one after the other, in a world that they may change. -/
abbrev Launcher (σ : Type) := Launch → σ → Outcome × σ

namespace Execution

/-! ## Output -/

/-- One stream without blanks at its end; a stream of blanks only is left out. -/
def streamPart? (stream : Option String) : Option String :=
  stream.bind fun s =>
    if allBlank s.toList then none else some (String.ofList (trimEnd s.toList))

/-- Both streams as one text. -/
def combine (stdout stderr : Option String) : String :=
  String.ofList (trim
    (String.intercalate "\n" ((streamPart? stdout).toList ++ (streamPart? stderr).toList)).toList)

def exitMessage (status : Int) : String :=
  "Command failed with exit code " ++ integerText status

def completedResult (stdout stderr : Option String) (status : Int) : ExecutionResult :=
  let output := combine stdout stderr
  ⟨if status ≠ 0 ∧ output.isEmpty then exitMessage status else output, status = 0, some status⟩

def failure (text : String) : ExecutionResult := ⟨"Studio error: " ++ text, false, none⟩

/-! ## Reports -/

def debug (message : String) : Log.Record := .ofDebug "tool" message

/-- The result that an outcome amounts to, and the records that it logs. -/
def report : Outcome → Except Fault ExecutionResult × List Log.Record
  | .completed stdout stderr status =>
    (.ok (completedResult stdout stderr status),
      [debug ("Command completed with exit code: " ++ integerText status),
        debug ("Final output length: " ++ integerText (combine stdout stderr).length ++ " chars")])
  | .timedOut limit =>
    (limit.roundedText.map fun t => failure ("command timed out after " ++ t ++ "s"),
      [debug ("Command timed out after " ++ limit.text ++ "s")])
  | .failed e => (.ok (failure e.message), [debug ("Spawn error: " ++ e.message)])
  | .refused f => (.error f, [])

/-- A command that names nothing to start. -/
def isBlank (argv : List String) : Bool :=
  match argv with
  | [] => true
  | command :: _ => allBlank command.toList

/-- The launch of a request in a program's environment. -/
def launchOf (environ : Environment) (r : ExecutionRequest) : Launch :=
  let e := r.settings.environment
  ⟨r.argv, r.settings.timeout, r.settings.directory,
    if e.isEmpty then none else some (environ.overlay e)⟩

/-- Runs a request. -/
def run {σ : Type} (environ : Environment) (launcher : Launcher σ) (r : ExecutionRequest)
    (world : σ) : Step σ (Except Fault ExecutionResult) :=
  if isBlank r.argv then ⟨.ok (failure "Empty command provided"), [], world⟩
  else
    let (outcome, world) := launcher (launchOf environ r) world
    let (result, records) := report outcome
    ⟨result, debug ("Executing command: " ++ String.intercalate " " r.argv) :: records, world⟩

end Execution

end CommandServer
