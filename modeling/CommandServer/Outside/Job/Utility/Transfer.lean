/-
Programs that copy files to other places, move them there, or give them other names.
-/
import CommandServer.Outside.Job.Utility.Change

namespace CommandServer.Job

open CommandServer.Text

namespace Utility

/-! ## Targets -/

/-- The last part of a name as it is written. -/
def lastPart (name : String) : String :=
  let kept := if name.isEmpty then name else Path.trimSlashes name
  if kept = "/" then kept else (kept.splitOn "/").getLast?.getD ""

/-- The name of something in a directory. -/
def nameIn (directory name : String) : String :=
  if directory.endsWith "/" then directory ++ lastPart name
  else directory ++ "/" ++ lastPart name

/-- The sources with their targets that operands stand for. Several sources, and one where the last
operand is a directory, go into it. -/
def transfersOf (program : String) (options : List (Char × String)) (names : List String)
    (c : Context) : Except Report (List (String × String)) :=
  let into (directory : String) (sources : List String) : List (String × String) :=
    sources.map fun s => (s, nameIn directory s)
  match optionValue? options 't', names with
  | _, [] => .error (misuse c program "missing file operand")
  | some directory, sources => .ok (into directory sources)
  | none, [name] =>
    .error (misuse c program ("missing destination file operand after " ++ alwaysQuoted name))
  | none, first :: rest =>
    let target := rest.getLast?.getD ""
    let sources := first :: rest.dropLast
    if hasOption options 'T' then .ok [(first, target)]
    else if c.files.isDirectory c.working target then .ok (into target sources)
    else match sources with
      | [source] => .ok [(source, target)]
      | _ =>
        let reason := match c.files.find c.working target with
          | .error o => obstacleText o
          | .ok _ => obstacleText .notADirectory
        .error (.complaint c 1 program ("target " ++ alwaysQuoted target ++ ": " ++ reason))

/-- The steps of a program, one for each source. -/
def transfer (program letters : String) (long : List (String × Char))
    (one : List (Char × String) → Context → Files → String × String → Except String Change) :
    Behaviour :=
  withArguments program letters long fun options names c =>
    match transfersOf program options names c with
    | .error r => r
    | .ok pairs => changeEach program (one options c) pairs c

/-! ## Copies -/

/-- The tree with a copy of an entry at another place, with the permissions that a mask leaves. -/
def putCopy (mask : Nat) (fs : Files) (source target : Place) (e : Entry) : Files :=
  let isNew := (fs.get? target).isNone
  let after := if target = nullDevice then fs else fs.put target e
  let mode := Files.unmasked mask (fs.mode source)
  if isNew && after.mode target != mode then after.setMode target mode else after

/-- The tree with a copy of what is at a place and below it, and what is told of it. -/
def copyTree (mask : Nat) (told : String → String → String) :
    Nat → String → Place → String → Place → Change → Change
  | 0, _, _, _, _, x => x
  | n + 1, source, from', target, to', x =>
    match x.files.get? from' with
    | none => x
    | some e =>
      let isNew := (x.files.get? to').isNone
      let x := { x with
        files := putCopy mask x.files from' to' e
        told := if isNew || e != Entry.directory then x.told ++ told source target else x.told }
      (x.files.children from').foldl (fun x child =>
        if e != Entry.directory then x
        else copyTree mask told n (nameIn source child) (from' ++ [child]) (nameIn target child)
          (to' ++ [child]) x) x

/-- The place that a copy goes to, or why it cannot. -/
def copyTarget (kind : String) (c : Context) (files : Files) (target : String) :
    Except String Place :=
  match files.find c.working target with
  | .error .notADirectory => .error ("cannot stat " ++ alwaysQuoted target ++ ": Not a directory")
  | _ =>
    let name := if kind = "directory" then Path.trimSlashes target else target
    match files.locateFile c.working name with
    | .ok place => .ok place
    | .error o =>
      let reason := if o = .isADirectory then Obstacle.notADirectory else o
      .error ("cannot create " ++ kind ++ " " ++ alwaysQuoted target ++ ": " ++ obstacleText reason)

/-- Copies one file or tree. -/
def copyOne (options : List (Char × String)) (c : Context) (files : Files) :
    String × String → Except String Change := fun (source, target) =>
  let given (letters : String) : Bool := letters.toList.any (hasOption options)
  let told (a b : String) : String :=
    toldIf (given "v") (alwaysQuoted a ++ " -> " ++ alwaysQuoted b)
  let mask := if given "ap" then 0 else c.mask
  match files.find c.working source, files.find c.working target with
  | .error o, _ => .error ("cannot stat " ++ alwaysQuoted source ++ ": " ++ obstacleText o)
  | .ok (from', .directory), there =>
    if !given "rRa" then
      .error ("-r not specified; omitting directory " ++ alwaysQuoted source)
    else match there with
      | .ok (_, .file _) =>
        .error ("cannot overwrite non-directory " ++ alwaysQuoted target ++ " with directory " ++
          alwaysQuoted source)
      | .ok (to', .directory) =>
        if from'.isPrefixOf to' then intoItself source target
        else .ok (copyTree mask told 64 source from' target to' { files })
      | .error _ => do
        let to' ← copyTarget "directory" c files target
        if from'.isPrefixOf to' then intoItself source target
        else .ok (copyTree mask told 64 source from' target to' { files })
  | .ok _, .ok (_, .directory) =>
    .error ("cannot overwrite directory " ++ alwaysQuoted target ++ " with non-directory")
  | .ok (from', e), there => do
    let to' ← copyTarget "regular file" c files target
    if from' = to' then
      throw (alwaysQuoted source ++ " and " ++ alwaysQuoted target ++ " are the same file")
    if given "n" && there matches .ok _ then return { files }
    return { files := putCopy mask files from' to' e, told := told source target }
where
  intoItself (source target : String) : Except String Change :=
    .error ("cannot copy a directory, " ++ alwaysQuoted source ++ ", into itself, " ++
      alwaysQuoted target)

def cp : Behaviour := transfer "cp" "abdfHilLnpPrRst:TuvxZ" [("archive", 'a'), ("force", 'f'),
  ("interactive", 'i'), ("no-clobber", 'n'), ("recursive", 'r'), ("verbose", 'v'),
  ("target-directory", 't'), ("no-target-directory", 'T'), ("update", 'u')] copyOne

/-! ## Moves -/

/-- Moves one file or tree. -/
def moveOne (options : List (Char × String)) (c : Context) (files : Files) :
    String × String → Except String Change := fun (source, target) => do
  let told := toldIf (hasOption options 'v')
    ("renamed " ++ alwaysQuoted source ++ " -> " ++ alwaysQuoted target)
  let cannotMove (reason : String) : Except String Change :=
    .error ("cannot move " ++ alwaysQuoted source ++ " to " ++ alwaysQuoted target ++ ": " ++ reason)
  let isLink := (files.link? c.working source).isSome
  let (from', e) ← match files.find c.working source, files.locateItself c.working source with
    | .ok (place, e), .ok itself => pure (if isLink then itself else place, e)
    | .error o, .ok itself =>
      if isLink then pure (itself, Entry.file [])
      else throw ("cannot stat " ++ alwaysQuoted source ++ ": " ++ obstacleText o)
    | .error o, _ | _, .error o =>
      throw ("cannot stat " ++ alwaysQuoted source ++ ": " ++ obstacleText o)
  let isDirectory := e = .directory && !isLink
  match files.find c.working target with
  | .error .notADirectory =>
    .error ("cannot stat " ++ alwaysQuoted target ++ ": Not a directory")
  | .ok (to', .file _) =>
    if isDirectory then
      .error ("cannot overwrite non-directory " ++ alwaysQuoted target ++ " with directory " ++
        alwaysQuoted source)
    else if from' = to' then
      .error (alwaysQuoted source ++ " and " ++ alwaysQuoted target ++ " are the same file")
    else if hasOption options 'n' then .ok { files }
    else .ok { files := (files.remove to').move from' to', told }
  | .ok (to', .directory) =>
    if !isDirectory then
      .error ("cannot overwrite directory " ++ alwaysQuoted target ++ " with non-directory")
    else if from'.isPrefixOf to' then .error (intoItself source target)
    else if !(files.children to').isEmpty then
      .error ("cannot overwrite " ++ alwaysQuoted target ++ ": Directory not empty")
    else .ok { files := (files.remove to').move from' to', told }
  | .error _ =>
    match files.locate c.working (if target.isEmpty then target else Path.trimSlashes target) with
    | .error o => cannotMove (obstacleText o)
    | .ok to' =>
      if from'.isPrefixOf to' && from' != to' then .error (intoItself source target)
      else if target.endsWith "/" && !isDirectory then cannotMove (obstacleText .notADirectory)
      else .ok { files := files.move from' to', told }
where
  intoItself (source target : String) : String :=
    "cannot move " ++ alwaysQuoted source ++ " to a subdirectory of itself, " ++ alwaysQuoted target

def mv : Behaviour := transfer "mv" "bfint:TuvZ" [("force", 'f'), ("no-clobber", 'n'),
  ("verbose", 'v'), ("target-directory", 't'), ("no-target-directory", 'T')] moveOne

/-! ## Links -/

/-- Gives one file another name, or makes a name that leads to it. -/
def linkOne (options : List (Char × String)) (c : Context) (files : Files) :
    String × String → Except String Change := fun (text, name) => do
  let symbolic := hasOption options 's'
  let kind := if symbolic then "symbolic link " else "hard link "
  let told := toldIf (hasOption options 'v')
    (alwaysQuoted name ++ (if symbolic then " -> " else " => ") ++ alwaysQuoted text)
  let fail (reason : String) : Except String Change :=
    .error ("failed to create " ++ kind ++ alwaysQuoted name ++ ": " ++ reason)
  match if symbolic then .ok ([], Entry.file []) else files.find c.working text with
  | .error o => .error ("failed to access " ++ alwaysQuoted text ++ ": " ++ obstacleText o)
  | .ok (_, .directory) => .error (text ++ ": hard link not allowed for directory")
  | .ok (_, e) =>
    match files.locateItself c.working name with
    | .error o => fail (obstacleText o)
    | .ok place =>
      let isTaken := (files.get? place).isSome || (files.links.lookup place).isSome
      if isTaken && !hasOption options 'f' then fail (obstacleText .occupied)
      else
        let fs := files.remove place
        if !symbolic then return { files := fs.put place e, told }
        let target := (fs.locate place.dropLast text).toOption.getD place
        return { files := { fs with links := (place, ⟨target, text⟩) :: fs.links }, told }

def ln : Behaviour := withArguments "ln" "bdfFiLnPrst:Tv" [("symbolic", 's'), ("force", 'f'),
    ("verbose", 'v'), ("no-dereference", 'n')] fun options names c =>
  match names with
  | [text] => changeEach "ln" (linkOne options c) [(text, "./" ++ lastPart text)] c
  | names =>
    let target := names.getLast?.getD ""
    let isReplaced := hasOption options 'n' && (c.files.link? c.working target).isSome
    match if isReplaced then .ok [(names.headD "", target)]
        else transfersOf "ln" options names c with
    | .error r => r
    | .ok pairs => changeEach "ln" (linkOne options c) pairs c

end Utility

end CommandServer.Job
