/-
Redirections: where the descriptors of a command lead.
-/
import CommandServer.Outside.Job.Shell.Basic

namespace CommandServer.Job.Shell

open CommandServer.Text

/-! ## Refusals -/

/-- What a shell says of a file that it cannot read. -/
def openRefusal (name : String) (o : Obstacle) : String :=
  "cannot open " ++ name ++ ": " ++
    if o = .missing || o = .notADirectory then "No such file" else obstacleText o

/-- What a shell says of a file that it cannot write to. -/
def createRefusal (name : String) (o : Obstacle) : String :=
  "cannot create " ++ name ++ ": " ++
    if o = .missing || o = .notADirectory then "Directory nonexistent" else obstacleText o

/-- The message and the status of a redirection that fails, and whether that ends the shell. -/
structure RedirectFailure where
  message : String
  status : Int
  isFatal : Bool := false

/-- The failure of a redirection to or from a file. -/
def fileFailure (s : Shell) (kind : RedirectKind) (name : String) (o : Obstacle) :
    RedirectFailure :=
  match s.dialect with
  | .program => ⟨name ++ ": " ++ obstacleText o, 1, false⟩
  | .shell => ⟨if kind = .read then openRefusal name o else createRefusal name o, 2, false⟩

/-- The failure of a redirection to or from the terminal, of which there is none. -/
def terminalFailure (s : Shell) (kind : RedirectKind) (name : String) : RedirectFailure :=
  let text := name ++ ": No such device or address"
  match s.dialect with
  | .program => ⟨text, 1, false⟩
  | .shell => ⟨(if kind = .read then "cannot open " else "cannot create ") ++ text, 2, false⟩

/-! ## Files -/

/-- The descriptor that the name of a device stands for. -/
def deviceDescriptor? (name : String) : Option Nat :=
  match name with
  | "/dev/stdin" => some 0
  | "/dev/stdout" => some 1
  | "/dev/stderr" => some 2
  | name =>
    if name.startsWith "/dev/fd/" then (name.drop 8).toNat? else none

/-- Opens a file for reading. -/
def openInput (s : Shell) (name : String) : Except Obstacle (Target × Shell) := do
  match ← s.find name with
  | (place, .file _) =>
    if place = nullDevice then return (.nowhere, s) else return s.addStream (.file place 0)
  | (_, .directory) => return (.directory, s)

/-- Opens a file for writing. What is in it is kept if it is to be added to, and protects it if the
shell is set up so. -/
def openOutput (s : Shell) (kind : RedirectKind) (name : String) :
    Except Obstacle (Target × Shell) := do
  let place ← s.files.locateFile s.working (ofOctets name)
  if place = nullDevice then return (.nowhere, s)
  if kind = .write && s.has 'C' && (s.files.get? place).isSome then throw .occupied
  let old := if kind = .append ∨ kind = .both then s.files.content place else []
  let s := { s with files := s.files.create s.mask place (.file old) }
  return if kind = .both then s.addStream (.file place 0) else (.file place, s)

/-! ## Redirections -/

/-- The descriptor led where another one leads. -/
def duplicate (descriptor : Nat) (name : String) (s : Shell) : Except RedirectFailure Shell :=
  let badDescriptor : Except RedirectFailure Shell :=
    .error ⟨name ++ ": Bad file descriptor", if s.dialect = .shell then 2 else 1, false⟩
  if name = "-" then .ok (s.setTarget descriptor .closed)
  else match if name.length = 1 then name.toNat? else none with
    | some k =>
      match s.target k with
      | .closed => badDescriptor
      | t => .ok (s.setTarget descriptor t)
    | none => .error ⟨ScriptFault.descriptor.message, 2, true⟩

/-- Applies one redirection. -/
def redirect (descriptor : Nat) (kind : RedirectKind) (name : String) (s : Shell) :
    Except RedirectFailure Shell :=
  match kind, deviceDescriptor? name with
  | .here, _ =>
    let (t, s) := s.addStream (.bytes (octetBytes name))
    .ok (s.setTarget descriptor t)
  | .duplicate, _ => s.duplicate descriptor name
  | kind, some k =>
    match s.target k with
    | .closed => .error (s.fileFailure kind name .missing)
    | t => .ok (s.setTarget descriptor t)
  | kind, none =>
    if name = "/dev/tty" then .error (s.terminalFailure kind name)
    else match if kind = .read then s.openInput name else s.openOutput kind name with
    | .ok (t, s) => .ok (s.setTarget descriptor t)
    | .error o => .error (s.fileFailure kind name o)

/-- The descriptors as they were before redirections. -/
def restore (before s : Shell) : Shell := { s with targets := before.targets }

end CommandServer.Job.Shell
