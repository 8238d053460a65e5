/-
Where the settings come from: a file, or the file of a fixed name in a directory, or nothing but
the environment. Reading the text of a document and finding where a path leads is left to others.
-/
import CommandServer.Machine
import CommandServer.Settings

namespace CommandServer

open CommandServer.Text

/-- What the program leaves to others: to read the text of a document, and to find where a path
leads. -/
structure Host where
  read : DocumentReader
  resolve : Resolver

namespace Settings

/-- The name of the settings file in a directory. -/
def fileName : String := ".studio-mcp.yml"

section Load

variable (host : Host)

/-- The settings file that a path means. -/
def locate (m : Machine) (p : Path) : Except Fault Path := do
  let p ← m.expandHome p
  match ← m.look p with
  | some .directory => host.resolve (p.join (.ofString fileName))
  | _ => host.resolve p

/-- The datum that a settings file holds, null when it is blank. -/
def parse (name : String) (bytes : List UInt8) : Except SettingsFailure Datum :=
  match (decodeUtf8? bytes).map unifyLineBreaks with
  | none => .error (.fault .undecodable)
  | some text =>
    if allBlank text then .ok (.scalar .null)
    else match host.read text with
      | .ok d => .ok d
      | .error .malformed => .error (.refused (.malformed name))
      | .error (.fault f) => .error (.fault f)

/-- The settings that the bytes of a file give. -/
def ofBytes (file : Path) (bytes : List UInt8) : Except SettingsFailure Settings := do
  match ← parse host file.name bytes with
  | .scalar .null => ofDatum host.resolve file.parent (.mapping [])
  | .mapping entries => ofDatum host.resolve file.parent (.mapping entries)
  | _ => throw (.refused (.noMapping file.name))

/-- The settings of a file that may be missing. -/
def ofFile (m : Machine) (file : Path) : Except SettingsFailure Settings := do
  match ← lift (m.look file) with
  | none => return { root := some file.parent }
  | some (.file bytes) => ofBytes host file bytes
  | some .directory =>
    throw (.refused (.unreadable file (Obstacle.isADirectory.error (.name file.text))))

end Load

/-- The path of the settings: a given one, or the one that the environment names. -/
def chosen (environ : Environment) (path : Option Path) : Option Path :=
  let named := (environ.get? settingsVariable).filter fun s => !s.isEmpty
  path.orElse fun _ => named.map Path.ofString

/-- The paths at which settings may lie. -/
def candidates (m : Machine) (path : Option Path) : List Path :=
  match (chosen m.environ path).map (m.expandHome ·) with
  | some (.ok p) => [p, p.join (.ofString fileName)]
  | _ => []

/-- The settings from a given path, or from the one that the environment names. The environment is
mostly that of the process. -/
def load (host : Host) (m : Machine) (environ : Environment) (path : Option Path) :
    Except SettingsFailure Settings := do
  let s ← match chosen environ path with
    | none => .ok {}
    | some p => do ofFile host m (← lift (locate host m p))
  (s.overrideWith environ).mapError .refused

end Settings

end CommandServer
