/-
The machine that the program runs on, as far as the program sees it: its files, the environment of
the process, the working directory, the homes of its users, and the streams that text is written to.
-/
import CommandServer.Execution
import CommandServer.Files

namespace CommandServer

open CommandServer.Text

structure Machine where
  files : Files
  environ : Environment
  working : Place
  /-- The home of the user who runs the program, and those of users by their names. -/
  ownHome : Option String := none
  homes : List (String × String) := []
  streams : OrderedMap String := .empty

namespace Machine

def workingPath (m : Machine) : Path := ⟨.slash, m.working⟩

/-! ## Writing -/

/-- What has been written to a stream. -/
def written (m : Machine) (stream : String) : String := (m.streams.get? stream).getD ""

def print (m : Machine) (stream text : String) : Machine :=
  { m with streams := m.streams.put stream (m.written stream ++ text) }

def appendText (m : Machine) (file : Place) (text : String) : Machine :=
  { m with files := m.files.append file (encodeUtf8 text) }

/-! ## Home directories -/

/-- The home directory of a user, or of the one who runs the program, whose environment comes
first. -/
def home? (m : Machine) (user : String) : Option String :=
  if user = "" then (m.environ.get? "HOME").or m.ownHome else m.homes.lookup user

/-- A path with the tilde at its start replaced by the home directory it stands for. -/
def expandHome (m : Machine) (p : Path) : Except Fault Path :=
  match p.root, p.parts with
  | .relative, part :: rest =>
    match part.toList with
    | '~' :: user =>
      if user.contains '\x00' then .error .embeddedNul
      else match (m.home? (String.ofList user)).map Path.trimSlashes with
        | none => .error .homeless
        | some home =>
          if home.startsWith "~" then .error .homeless
          else
            let start := Path.ofString home
            .ok ⟨start.root, start.parts ++ rest⟩
    | _ => .ok p
  | _, _ => .ok p

/-! ## Looking at files -/

/-- Whether an obstacle only means that there is no such file. -/
def isAbsence : Obstacle → Bool
  | .missing | .notADirectory => true
  | _ => false

/-- What is at a path, if anything; names that no file can have are an error. -/
def look (m : Machine) (p : Path) : Except Fault (Option Entry) :=
  if p.hasNul then .ok none
  else match m.files.find m.working p.text with
    | .ok (_, e) => .ok (some e)
    | .error o =>
      if isAbsence o then .ok none else .error (.system (o.error (.name p.text)))

end Machine

end CommandServer
