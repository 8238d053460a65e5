/-
A tree of files. A place is a list of names from the root down; at a place there is a directory, or
a file with its bytes, or nothing. The name of a file is the text of a path as someone wrote it. It
is walked from a working directory, part by part, and every operation says what stands in its way
if it cannot be done.
-/
import CommandServer.Fault
import CommandServer.Text.Utf8

namespace CommandServer

open CommandServer.Text

/-- The names from the root down. -/
abbrev Place := List String

inductive Entry where
  | directory
  | file (content : List UInt8)
  deriving DecidableEq, Repr

/-- A name that leads to another place, with the text that says where. -/
structure Link where
  target : Place
  text : String
  deriving DecidableEq, Repr

/-- What is at places, the places that lead to others, and permissions where they are not the usual
ones. -/
structure Files where
  entries : List (Place × Entry)
  links : List (Place × Link) := []
  modes : List (Place × Nat) := []

/-- What stands in the way of an operation on a path. -/
inductive Obstacle where
  | missing
  | occupied
  | notADirectory
  | isADirectory
  | nameTooLong
  deriving DecidableEq, Repr

def Obstacle.error (s : Subject) : Obstacle → SystemError
  | .missing => .noSuchFile s
  | .occupied => .fileExists s
  | .notADirectory => .notADirectory s
  | .isADirectory => .isADirectory s
  | .nameTooLong => .nameTooLong s

/-- The bytes that a name and a path may have. -/
def maxNameSize : Nat := 255

def maxPathSize : Nat := 4095

namespace Files

/-! ## Entries -/

def get? (fs : Files) (place : Place) : Option Entry :=
  if place = [] then some .directory else fs.entries.lookup place

/-- The tree with an entry at a place. -/
def put (fs : Files) (place : Place) (e : Entry) : Files :=
  { fs with entries := (fs.entries.filter fun x => x.1 != place) ++ [(place, e)] }

/-- The tree without a place and all below it. -/
def remove (fs : Files) (place : Place) : Files :=
  { entries := fs.entries.filter fun x => !place.isPrefixOf x.1
    links := fs.links.filter fun x => !place.isPrefixOf x.1
    modes := fs.modes.filter fun x => !place.isPrefixOf x.1 }

/-- The tree with what is at a place and below it at another one. -/
def move (fs : Files) (old new : Place) : Files :=
  let moved (p : Place) : Place := if old.isPrefixOf p then new ++ p.drop old.length else p
  { entries := fs.entries.map fun x => (moved x.1, x.2)
    links := fs.links.map fun x => (moved x.1, x.2)
    modes := fs.modes.map fun x => (moved x.1, x.2) }

/-! ## Permissions -/

/-- The permissions that everything new would have if nothing were taken away from them. -/
def fullMode : Entry → Nat
  | .directory => 0o777
  | .file _ => 0o666

/-- The bits that are usually taken away from the permissions of what is new. -/
def usualMask : Nat := 0o022

/-- Bits without those of a mask. -/
def unmasked (mask bits : Nat) : Nat := bits - (bits &&& mask)

/-- The permissions at a place. -/
def mode (fs : Files) (place : Place) : Nat :=
  (fs.modes.lookup place).getD (unmasked usualMask (fullMode ((fs.get? place).getD .directory)))

def setMode (fs : Files) (place : Place) (mode : Nat) : Files :=
  { fs with modes := (place, mode) :: fs.modes.filter fun x => x.1 != place }

/-- Whether a file may be started. -/
def isStartable (fs : Files) (place : Place) : Bool :=
  (fs.get? place matches some (.file _)) && fs.mode place &&& 0o111 != 0

/-- The tree with an entry at a place. What is new there has the permissions that a mask leaves. -/
def create (fs : Files) (mask : Nat) (place : Place) (e : Entry) : Files :=
  let after := fs.put place e
  if (fs.get? place).isSome || mask = usualMask then after
  else after.setMode place (unmasked mask (fullMode e))

/-! ## Content -/

/-- The tree with an entry at a place and directories above it. -/
def putWithParents (fs : Files) (place : Place) (e : Entry) : Files :=
  let above := (List.range place.length).map place.take
  let missing := above.filter fun p => (fs.get? p).isNone
  (missing.foldl (fun fs p => fs.put p .directory) fs).put place e

/-- The bytes of a file; what is no file has none. -/
def content (fs : Files) (place : Place) : List UInt8 :=
  match fs.get? place with
  | some (.file bytes) => bytes
  | _ => []

/-- Bytes added at the end of a file, which is created if need be. -/
def append (fs : Files) (place : Place) (bytes : List UInt8) : Files :=
  fs.put place (.file (fs.content place ++ bytes))

/-- The names in a directory. -/
def children (fs : Files) (place : Place) : List String :=
  (fs.entries.map Prod.fst ++ fs.links.map Prod.fst).filterMap fun p =>
    if p.length = place.length + 1 ∧ p.dropLast = place then p.getLast? else none

/-! ## Names -/

/-- The parts that a name is walked along. A slash at the end asks for a directory, and so does a
single dot. -/
def steps (name : String) : List String :=
  let pieces := (Path.splitSlashes [] name.toList).filter fun piece => !piece.isEmpty
  pieces.map String.ofList ++ if name.endsWith "/" then ["."] else []

/-- The place that a place leads to, mostly itself. -/
def follow (fs : Files) (place : Place) : Place :=
  ((fs.links.lookup place).map Link.target).getD place

/-- Walks down the parts of a name. All but the last one must be directories. -/
def walk (fs : Files) (place : Place) : List String → Except Obstacle Place
  | [] => .ok place
  | part :: rest =>
    match fs.get? place with
    | none => .error .missing
    | some (.file _) => .error .notADirectory
    | some .directory =>
      if part = "." then fs.walk place rest
      else if part = ".." then fs.walk place.dropLast rest
      else if maxNameSize < part.utf8ByteSize then .error .nameTooLong
      else fs.walk (fs.follow (place ++ [part])) rest

/-- The place that a name means, where there may be nothing yet. -/
def locate (fs : Files) (working : Place) (name : String) : Except Obstacle Place :=
  if name.isEmpty then .error .missing
  else if maxPathSize < name.utf8ByteSize then .error .nameTooLong
  else fs.walk (if name.startsWith "/" then [] else working) (steps name)

/-- The place that a name has itself, even if it leads to another one. -/
def locateItself (fs : Files) (working : Place) (name : String) : Except Obstacle Place :=
  let parts := steps name
  match parts.getLast? with
  | none | some "." | some ".." => fs.locate working name
  | some last => do
    if maxPathSize < name.utf8ByteSize then throw .nameTooLong
    let parent ← fs.walk (if name.startsWith "/" then [] else working) (parts.dropLast ++ ["."])
    if maxNameSize < last.utf8ByteSize then throw .nameTooLong
    return parent ++ [last]

/-- Where a name leads that is not itself a file. -/
def link? (fs : Files) (working : Place) (name : String) : Option Link :=
  (fs.locateItself working name).toOption.bind fun place => fs.links.lookup place

/-- What has a name. -/
def find (fs : Files) (working : Place) (name : String) : Except Obstacle (Place × Entry) := do
  let place ← fs.locate working name
  match fs.get? place with
  | some e => return (place, e)
  | none => throw .missing

def isDirectory (fs : Files) (working : Place) (name : String) : Bool :=
  match fs.find working name with
  | .ok (_, .directory) => true
  | _ => false

def read (fs : Files) (working : Place) (name : String) : Except Obstacle (List UInt8) := do
  match ← fs.find working name with
  | (_, .file bytes) => return bytes
  | (_, .directory) => throw .isADirectory

/-- The place of a file to write to, which need not exist yet. A slash at the end is refused. -/
def locateFile (fs : Files) (working : Place) (name : String) : Except Obstacle Place := do
  let place ← fs.locate working (if name.endsWith "/" then Path.trimSlashes name else name)
  match fs.get? place with
  | some .directory => throw .isADirectory
  | _ => if name.endsWith "/" then throw .isADirectory else return place

/-! ## Directories -/

/-- Makes a directory, whose name may end in slashes. -/
def makeDirectory (fs : Files) (working : Place) (name : String) (mask : Nat := usualMask) :
    Except Obstacle Files := do
  let place ← fs.locate working (if name.isEmpty then name else Path.trimSlashes name)
  match fs.get? place with
  | some _ => throw .occupied
  | none => return fs.create mask place .directory

/-- One directory where there may be one already. -/
def ensureDirectory (fs : Files) (working : Place) (name : String) (mask : Nat := usualMask) :
    Except Obstacle Files :=
  match fs.makeDirectory working name mask with
  | .error .missing => .error .missing
  | .error o => if fs.isDirectory working name then .ok fs else .error o
  | .ok fs => .ok fs

/-- A directory with all those above it that are missing; `parts` are the parts of the path in
reverse. What stands in the way comes with the path that it concerns. -/
def ensureDirectories (working : Place) (root : PathRoot) :
    List String → Files → Except (Obstacle × Path) Unit × Files
  | [], fs => (.ok (), fs)
  | part :: above, fs =>
    let p : Path := ⟨root, (part :: above).reverse⟩
    match fs.ensureDirectory working p.text with
    | .ok fs => (.ok (), fs)
    | .error .missing =>
      match ensureDirectories working root above fs with
      | (.ok (), fs) =>
        match fs.ensureDirectory working p.text with
        | .ok fs => (.ok (), fs)
        | .error o => (.error (o, p), fs)
      | failed => failed
    | .error o => (.error (o, p), fs)

end Files

end CommandServer
