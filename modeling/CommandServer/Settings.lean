/-
The settings of the program, as a document and two environment variables give them. What has an
unsuitable type counts as not given; a time limit must be positive.
-/
import CommandServer.Datum
import CommandServer.Execution
import CommandServer.Number.Reader
import CommandServer.Server

namespace CommandServer

open CommandServer.Text

/-- The directory of the document is the root that its paths are seen from. -/
structure Settings where
  root : Option Path := none
  debug : Bool := false
  logFile : Option Path := none
  serverName : String := serverName
  execution : ExecutionSettings := {}

/-- The environment variables that say where the settings are, and that come before them. -/
def settingsVariable : String := "STUDIO_MCP_CONFIG"

def debugVariable : String := "STUDIO_MCP_DEBUG"

def timeoutVariable : String := "STUDIO_MCP_TIMEOUT"

/-! ## Errors -/

/-- Where a time limit was given. -/
inductive TimeoutSource where
  | document
  | variable
  deriving DecidableEq, Repr

def TimeoutSource.text : TimeoutSource → String
  | .document => "execution.timeout"
  | .variable => timeoutVariable

inductive SettingsError where
  | badTimeout (source : TimeoutSource)
  | unreadable (file : Path) (e : SystemError)
  | malformed (file : String)
  | noMapping (file : String)
  deriving DecidableEq, Repr

/-- What is said of a document that cannot be parsed. -/
def parseDetails : String := ": the document is malformed"

def SettingsError.message : SettingsError → String
  | .badTimeout source => source.text ++ " must be a positive number of seconds"
  | .unreadable file e => "Failed to read " ++ file.text ++ ": " ++ e.message
  | .malformed file => "Failed to parse " ++ file ++ parseDetails
  | .noMapping file => file ++ " must contain a mapping at the root"

/-- Settings are refused, or a fault keeps them from being read. -/
inductive SettingsFailure where
  | refused (e : SettingsError)
  | fault (f : Fault)
  deriving DecidableEq, Repr

/-- Finds where a path leads: to an absolute path without links and double dots, or to a fault. -/
abbrev Resolver := Path → Except Fault Path

namespace Settings

/-! ## Readers -/

/-- The words for a switch that is on and for one that is off. -/
def onWords : List String := ["true", "yes", "1"]

def offWords : List String := ["false", "no", "0"]

def switchOfText? (s : String) : Option Bool :=
  let word := String.ofList (lowerAscii (trim s.toList))
  if onWords.contains word then some true
  else if offWords.contains word then some false
  else none

def switch? : Datum → Option Bool
  | .scalar (.bool b) => some b
  | .scalar (.text s) => switchOfText? s
  | _ => none

/-- Whether a scalar can stand for a text. -/
def isTextual : Scalar → Bool
  | .text _ | .int _ | .float _ | .bool _ => true
  | _ => false

def text? : Datum → Except Fault (Option String)
  | .scalar s => if isTextual s then s.written.map some else .ok none
  | _ => .ok none

/-- The text of a datum, where the empty one counts as not given. -/
def someText? (d : Datum) : Except Fault (Option String) :=
  (text? d).map fun s => s.filter fun s => !s.isEmpty

/-- The number that a datum is or spells. -/
def number? : Datum → Except Fault (Option Binary64)
  | .scalar (.float x) => .ok (some x)
  | .scalar (.text s) => .ok (Binary64.read? s.toList)
  | .scalar (.int n) =>
    match Binary64.ofInt? n with
    | some x => .ok (some x)
    | none => .error .integerTooLarge
  | _ => .ok none

/-- The variables of a mapping; two keys with one text count as one. -/
def environmentOf (d : Datum) : Except Fault Environment := do
  let pairs ← (d.entries.filterMap textual?).mapM fun (k, v) => do
    return (← k.written, ← v.written)
  return .ofPairs pairs
where
  textual? : Scalar × Datum → Option (Scalar × Scalar)
    | (k, .scalar v) => if isTextual v then some (k, v) else none
    | _ => none

/-! ## The document -/

def lift {α : Type} (x : Except Fault α) : Except SettingsFailure α := x.mapError .fault

/-- The settings that a document gives. The working directory for commands is seen from the root,
and resolved. -/
def ofDatum (resolve : Resolver) (root : Path) (d : Datum) : Except SettingsFailure Settings := do
  let execution := d.under "execution"
  let logFile ← lift (someText? (d.under "log_file"))
  let directory ← lift (someText? (execution.under "cwd"))
  let timeout ← lift (number? (execution.under "timeout"))
  if timeout.any Binary64.isNonPositive then throw (.refused (.badTimeout .document))
  let directory ← lift (directory.mapM fun s => resolve (root.join (.ofString s)))
  let environment ← lift (environmentOf (execution.under "env"))
  let name ← lift (someText? ((d.under "server").under "name"))
  return {
    root := some root
    debug := (switch? (d.under "debug")).getD false
    logFile := logFile.map fun s => root.join (.ofString s)
    serverName := name.getD CommandServer.serverName
    execution := ⟨timeout.map .real, directory, environment⟩ }

/-! ## The environment -/

/-- The switch for diagnosis that the environment sets, if it does. -/
def overrideDebug (environ : Environment) (s : Settings) : Settings :=
  { s with debug := ((environ.get? debugVariable).bind switchOfText?).getD s.debug }

def setTimeout (t : Option Seconds) (s : Settings) : Settings :=
  { s with execution := { s.execution with timeout := t } }

/-- The time limit that the environment sets, if it does. -/
def overrideTimeout (environ : Environment) (s : Settings) : Except SettingsError Settings :=
  match (environ.get? timeoutVariable).filter fun t => !t.isEmpty with
  | none => .ok s
  | some t =>
    match Binary64.read? t.toList with
    | some x => if x.isNonPositive then .error (.badTimeout .variable)
      else .ok (s.setTimeout (some (.real x)))
    | none => .error (.badTimeout .variable)

/-- The settings with what the environment puts over them. -/
def overrideWith (environ : Environment) (s : Settings) : Except SettingsError Settings :=
  (s.overrideDebug environ).overrideTimeout environ

end Settings

end CommandServer
