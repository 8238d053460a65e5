/-
The program on the command line. It takes a picture of the machine that it runs on, lets the pure
program work on that, and carries out what has changed: what was printed, and what was written to
files. Requests come in lines of JSON, and so do replies.
-/
import CommandServer.Outside.Host
import CommandServer.Outside.Job.Launch
import CommandServer.Rpc
import CommandServer.Value.Reader
import Std.Time

namespace CommandServer.Main

open CommandServer.Text

/-! ## Looking at the machine -/

/-- The bytes of a file; one that cannot be read has none. -/
def readBytes (path : String) : IO (List UInt8) := do
  try return (← IO.FS.readBinFile path).toList
  catch _ => return []

def readText (path : String) : IO String :=
  return String.ofList (decodeUtf8Lenient (← readBytes path))

/-- What is at a path. -/
def entry? (path : String) : IO (Option Entry) := do
  try
    let p ← IO.FS.realPath path
    if ← p.isDir then return some .directory else return some (.file (← readBytes path))
  catch _ => return none

/-- The files with what is really at a path. -/
def loadPath (working : Place) (fs : Files) (path : Path) : IO Files := do
  let path := path.resolve ⟨.slash, working⟩
  match ← entry? path.text with
  | some e => return fs.putWithParents path.parts e
  | none => return fs

/-- The variables of this process. -/
def environment : IO Environment := do
  let text ← readText "/proc/self/environ"
  return .ofPairs ((text.splitOn "\x00").filterMap fun s =>
    match Job.Shell.splitAssignment s with
    | (name, some value) => some (name, value)
    | _ => none)

/-- The users by their numbers and names, and their homes. -/
def homes : IO (List (String × String × String)) := do
  let text ← readText "/etc/passwd"
  return (text.splitOn "\n").filterMap fun line =>
    match line.splitOn ":" with
    | name :: _ :: user :: _ :: _ :: home :: _ => some (user, name, home)
    | _ => none

/-- The number of the user who runs this process. -/
def user : IO String := do
  let text ← readText "/proc/self/status"
  let line := (text.splitOn "\n").find? fun line => line.startsWith "Uid:"
  return ((line.getD "").splitOn "\t").getD 1 ""

/-- The machine with the working directory, the files in it, and the settings for a command line. -/
def machine (argv : List String) : IO Machine := do
  let directory ← IO.currentDir
  let working := (Path.ofString directory.toString).parts
  let names := (← directory.readDir).toList.map (·.fileName)
  let fresh := Job.standardFiles.putWithParents working .directory
  let files ← (names.map Path.ofString).foldlM (loadPath working) fresh
  let users ← homes
  let own := (users.lookup (← user)).map Prod.snd
  let m : Machine :=
    { files, environ := ← environment, working, ownHome := own, homes := users.map Prod.snd }
  match Options.parse argv with
  | .ok (.run o) =>
    let files ← (Settings.candidates m o.config).foldlM (loadPath working) m.files
    return { m with files }
  | _ => return m

/-- The time and the number of this process, as they stand in log files. -/
def stamp : IO String := do
  let time ← Std.Time.PlainDateTime.now
  let process := ((← readText "/proc/self/stat").splitOn " ").headD ""
  return time.format "uuuu-MM-dd HH:mm:ss,SSS" ++ " [" ++ process ++ "] "

/-! ## Carrying out changes -/

def printNew (stream : IO.FS.Stream) (name : String) (before after : Machine) : IO Unit := do
  stream.putStr ((after.written name).drop (before.written name).length).toString
  stream.flush

/-- Writes a file that has changed. Bytes behind those that it had are added to it. -/
def writeFile (path : String) (before after : List UInt8) : IO Unit := do
  let kept := after.take before.length == before
  let handle ← IO.FS.Handle.mk path (if kept then .append else .write)
  handle.write ⟨(if kept then after.drop before.length else after).toArray⟩

/-- Prints and writes all that a step has added to a machine. -/
def carryOut (before after : Machine) : IO Unit := do
  printNew (← IO.getStdout) Program.output before after
  printNew (← IO.getStderr) Program.console before after
  for (place, e) in after.files.entries do
    if before.files.get? place ≠ some e then
      let path := "/" ++ String.intercalate "/" place
      match e with
      | .directory => IO.FS.createDirAll path
      | .file bytes => writeFile path (before.files.content place) bytes

/-! ## Serving -/

/-- Answers one line. What is no message is passed over. -/
def answerLine (service : Service) (line : String) (m : Machine) : IO Machine := do
  match (Value.ofJson? line).bind Rpc.Message.ofValue? with
  | none => return m
  | some message =>
    let (reply, after) := Rpc.exchange .usual (← stamp) service Job.launcher message m
    carryOut m after
    if let some text := reply.bind fun v => (v.json Stack.usual.free).toOption then
      let out ← IO.getStdout
      out.putStrLn text
      out.flush
    return after

/-- Answers lines up to the end of the input. -/
partial def answerLines (service : Service) (input : IO.FS.Stream) (m : Machine) : IO Unit := do
  let line ← input.getLine
  if !line.isEmpty then answerLines service input (← answerLine service line m)

def run (argv : List String) : IO UInt32 := do
  let before ← machine argv
  let (course, m) := Program.start (.ofWorking before.workingPath) (← stamp) before argv
  carryOut before m
  match course with
  | .exit status => return UInt32.ofNat status
  | .fault f =>
    (← IO.getStderr).putStrLn f.message
    return UInt32.ofNat Program.failureStatus
  | .serve service =>
    let announced := Rpc.announce (← stamp) service m
    carryOut m announced
    answerLines service (← IO.getStdin) announced
    return 0

end CommandServer.Main

def main (argv : List String) : IO UInt32 := CommandServer.Main.run argv
