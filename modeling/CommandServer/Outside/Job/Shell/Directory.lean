/-
The working directory of a shell. It keeps the path on which it got there, which double dots in a
name take parts away from.
-/
import CommandServer.Outside.Job.Shell.Argument

namespace CommandServer.Job.Shell

open CommandServer.Text

/-! ## Paths -/

/-- The path that a change of the directory leads to. A double dot takes back the part before. -/
def pathTo (target : String) (s : Shell) : Path :=
  let p := s.path.join (.ofString target)
  { p with parts := p.parts.foldl Path.descend [] }

/-- Whether there is a directory in front of every double dot of a name. -/
def hasSoundDots (target : String) (s : Shell) : Bool :=
  let parts := Files.steps target
  (List.range parts.length).all fun k =>
    parts[k]? != some ".." ||
      (let start := (if target.startsWith "/" then "/" else "") ++
        String.intercalate "/" (parts.take k)
      s.files.isDirectory s.working (ofOctets (s.pathTo start).text))

/-- The directory that a name means. -/
def directoryAt (s : Shell) (name : String) : Except Obstacle Place := do
  match ← s.find name with
  | (place, .directory) => return place
  | (_, .file _) => throw .notADirectory

/-- What there is at the end of a change of the directory, and the path to it. One dialect follows
the name as it is written where it cannot follow the path, or if it is told to. -/
def findDirectory (target : String) (physical : Bool) (s : Shell) :
    Except Obstacle (Place × Path) :=
  let path := s.pathTo target
  let direct := (s.directoryAt target).map fun place => (place, (⟨.slash, place.map octets⟩ : Path))
  if physical then direct
  else match s.dialect with
    | .shell => (s.directoryAt path.text).map (·, path)
    | .program =>
      match s.directoryAt path.text, s.hasSoundDots target with
      | .ok place, true => .ok (place, path)
      | _, _ => direct

/-- Whether a name is looked for in no other directories than the working one. -/
def isAnchored (target : String) : Bool :=
  target.startsWith "/" || ["." , ".."].contains ((target.splitOn "/").headD "")

/-- The directories in which a name is looked for, and whether the path is shown then. -/
def startsFor (target : String) (s : Shell) : List (String × Bool) :=
  match s.vars.get? "CDPATH" with
  | some search =>
    if isAnchored target then [(target, false)]
    else (search.splitOn ":").map (fun d =>
      if d.isEmpty then (target, false)
      else ((if d.endsWith "/" then d else d ++ "/") ++ target, true)) ++ [(target, false)]
  | none => [(target, false)]

/-! ## Commands -/

def changeDirectory (args : List String) (s : Shell) : Shell :=
  withOptions "cd" "LP" (fun options operands s =>
    let value (name : String) : String := (s.vars.get? name).getD ""
    let back := operands.head? = some "-"
    let written := if back then value "OLDPWD" else operands.head?.getD (value "HOME")
    let target := if written.isEmpty then "." else written
    let physical := options.getLast?.any (·.1 == 'P')
    let found := (s.startsFor target).findSome? fun (name, shows) =>
      (s.findDirectory name physical).toOption.map (·, shows)
    match found with
    | some ((working, path), shows) =>
      let s := [("OLDPWD", s.path), ("PWD", path)].foldl
        (fun s (name, p) => (s.put name p.text).exportName name) { s with working, path }
      (if back || shows then s.print (path.text ++ "\n") else s).setStatus 0
    | none =>
      match s.dialect, s.findDirectory target physical with
      | .program, .error o => (s.complain ("cd: " ++ target ++ ": " ++ obstacleText o)).setStatus 1
      | _, _ => s.refuse "cd" ("can't cd to " ++ written)) args s

def printDirectory (args : List String) (s : Shell) : Shell :=
  withOptions "pwd" "LP" (fun options _ s =>
    let physical := options.getLast?.any (·.1 == 'P')
    let path : Path := if physical then ⟨.slash, s.working.map octets⟩ else s.path
    (s.print (path.text ++ "\n")).setStatus 0) args s

end CommandServer.Job.Shell
