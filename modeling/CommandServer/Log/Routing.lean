/-
Where log records go. A setup names a stream for the console and perhaps a file; it replaces the
setup before it altogether. When the file cannot be opened the console stays set up.
-/
import CommandServer.Machine

namespace CommandServer.Log

/-- What logging is asked for. -/
structure Setup where
  debug : Bool := false
  file : Option Path := none
  stream : String := "stderr"

/-- The threshold that counts, and where the records that reach it go. -/
structure Routing where
  threshold : Level
  stream : String
  file : Option Place

namespace Routing

/-- The number of places that a record goes to. -/
def sinks (r : Routing) : Nat := 1 + r.file.toList.length

/-- Writes a record to the console and to the file, if it reaches the threshold. -/
def write (stamp : String) (r : Routing) (m : Machine) (record : Record) : Machine :=
  if record.level.atLeast r.threshold then
    let m := m.print r.stream record.consoleLine
    match r.file with
    | some file => m.appendText file (record.fileLine stamp)
    | none => m
  else m

def writeAll (stamp : String) (r : Routing) (m : Machine) (records : List Record) : Machine :=
  records.foldl (r.write stamp) m

/-! ## Setups -/

/-- The routing to the console alone. -/
def ofConsole (s : Setup) : Routing := ⟨Log.threshold s.debug, s.stream, none⟩

/-- The absolute path of a file, double dots taken away. -/
def absolute (working p : Path) : Path :=
  ⟨if p.root = .twoSlashes then .twoSlashes else .slash, (p.resolve working).parts⟩

/-- Creates the directories above a file. -/
def makeParents (m : Machine) (p : Path) : Except Fault Unit × Machine :=
  let above := p.parent
  if above.hasNul then (.error .embeddedNul, m)
  else match Files.ensureDirectories m.working above.root above.parts.reverse m.files with
    | (.ok (), files) => (.ok (), { m with files })
    | (.error (o, p), files) => (.error (.system (o.error (.name p.text))), { m with files })

/-- Opens a file for records; what it holds already stays. -/
def openFile (m : Machine) (p : Path) : Except Fault Place × Machine :=
  match makeParents m p with
  | (.error f, m) => (.error f, m)
  | (.ok (), m) =>
    let file := absolute m.workingPath p
    if p.hasNul then (.error .embeddedNul, m)
    else match m.files.locateFile m.working file.text with
      | .ok place => (.ok place, m.appendText place "")
      | .error o => (.error (.system (o.error (.name file.text))), m)

/-- The routing of a setup, and the fault that kept its file from being opened, if one did. -/
def configure (m : Machine) (s : Setup) : (Routing × Option Fault) × Machine :=
  let console := ofConsole s
  match s.file with
  | none => ((console, none), m)
  | some p =>
    match openFile m p with
    | (.ok place, m) => (({ console with file := some place }, none), m)
    | (.error f, m) => ((console, some f), m)

end Routing

end CommandServer.Log
