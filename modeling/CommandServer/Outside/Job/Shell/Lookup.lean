/-
What a shell runs under a name: a word of the language, an alias, a function, a command of its own,
or a program, which it looks for along its search path.
-/
import CommandServer.Outside.Job.Shell.Argument

namespace CommandServer.Job.Shell

open CommandServer.Text

/-! ## Commands of the shell -/

/-- Commands of the shell that come after its functions. -/
def regularCommands : List String :=
  ["alias", "bg", "cd", "chdir", "command", "echo", "false", "fg", "getopts", "hash", "jobs", "kill",
    "printf", "pwd", "read", "test", "[", "true", "type", "ulimit", "umask", "unalias", "wait"]

/-- Whether a command is part of the shell. -/
def isBuiltin (s : Shell) (name : String) : Bool :=
  Script.specialCommands.contains name || regularCommands.contains name ||
    (s.dialect == .program && name == "source")

/-! ## Programs -/

/-- The status of a program that cannot be started, and what a shell says about it. -/
def startFailure (d : Dialect) (e : StartError) : Int × String :=
  match d, e with
  | _, .denied => (126, "Permission denied")
  | _, .format => (126, "Exec format error")
  | .shell, .directory => (126, "Permission denied")
  | .program, .directory => (126, "Is a directory")
  | .shell, .nameTooLong => (127, "File name too long")
  | .program, .nameTooLong => (126, "File name too long")
  | .program, .notADirectory => (126, "Not a directory")
  | .program, .missing => (127, "No such file or directory")
  | .shell, _ => (127, "not found")

/-- All that a search for a program comes upon. -/
def attemptsFor (s : Shell) (name : String) : List (Except StartError FoundProgram) :=
  attempts s.files s.working (ofOctets s.search) (ofOctets name)

/-- The program that a command means, or the status and the message of the shell that cannot find
it. -/
def findCommand (s : Shell) (name : String) : Except (Int × String) FoundProgram :=
  let results := s.attemptsFor name
  let errors := (namesAlong s.search name).zip (errorsOf results)
  match firstFound? results, s.dialect with
  | some found, _ => .ok found
  | none, d =>
    if isPathName name then
      let (status, text) := startFailure d ((errors.head?.map Prod.snd).getD .missing)
      .error (status, name ++ ": " ++ text)
    else match d with
      | .shell =>
        let (_, text) := startFailure d (((errors.filter fun e => !e.2.isAbsence).getLast?.map
          Prod.snd).getD .missing)
        .error (127, name ++ ": " ++ text)
      | .program =>
        match errors.find? fun e => e.2 = .denied with
        | some (file, _) =>
          let file := if isPathName file then file else "./" ++ file
          .error (126, file ++ ": Permission denied")
        | none => .error (127, name ++ ": command not found")

/-- Remembers where a program has been found. -/
def track (name file : String) (s : Shell) : Shell :=
  if isPathName name || s.tracked.any (·.1 == name) then s
  else { s with tracked := s.tracked ++ [(name, file)] }

/-- The file of a program under the name of a command, if there is one. -/
def programFile? (s : Shell) (name : String) : Option String :=
  if isPathName name && s.dialect = .shell then (s.find name).toOption.map fun _ => name
  else (firstFound? (s.attemptsFor name)).map fun found => octets found.file

/-- The name of a file from the root down, as it is written. -/
def fullName (s : Shell) (name : String) : String :=
  if name.startsWith "/" then name
  else
    let name := if name.startsWith "./" then (name.drop 2).toString else name
    s.path.text ++ "/" ++ name

/-- A program that cannot take the place of the shell ends it. -/
def refuseExec (name : String) (e : StartError) (s : Shell) : Shell :=
  let (status, text) := startFailure s.dialect e
  match s.dialect with
  | .shell => (s.complain ("exec: " ++ name ++ ": " ++ text)).exit status
  | .program =>
    let file := s.fullName name
    if isPathName name then
      let s := s.complain (file ++ ": " ++ text)
      let refusal := "exec: " ++ file ++ ": cannot execute: " ++ text
      (if e = .missing then s else s.complain refusal).exit status
    else if s.files.isDirectory s.working (ofOctets name) then
      (s.complain ("exec: " ++ name ++ ": cannot execute: Is a directory")).exit 126
    else (s.complain ("exec: " ++ name ++ ": not found")).exit 127

/-! ## Descriptions -/

/-- What a name stands for. -/
inductive Meaning where
  | keyword
  | alias (text : String)
  | function
  | special
  | builtin
  | tracked (file : String)
  | program (file : String)

def meaning? (s : Shell) (name : String) : Option Meaning :=
  if Script.keywords.contains name then some .keyword
  else match s.aliases.lookup name with
    | some text => some (.alias text)
    | none =>
      if Script.specialCommands.contains name then some .special
      else if s.functions.any (·.1 == name) then some .function
      else if s.isBuiltin name then some .builtin
      else match s.tracked.lookup name with
        | some file => some (.tracked file)
        | none => (s.programFile? name).map .program

/-- A name with what it stands for in words. -/
def describe (name : String) (s : Shell) : Shell :=
  let say (text : String) : Shell := (s.print (name ++ text ++ "\n")).setStatus s.status
  match s.meaning? name with
  | none => (s.print (name ++ ": not found\n")).setStatus 127
  | some .keyword => say " is a shell keyword"
  | some (.alias text) => say (" is an alias for " ++ text)
  | some .function => say " is a shell function"
  | some .special => say " is a special shell builtin"
  | some .builtin => say " is a shell builtin"
  | some (.tracked file) => say (" is a tracked alias for " ++ file)
  | some (.program file) => (say (" is " ++ file)).track name file

/-- The shortest text that says what a name stands for. -/
def identify (a : String) (s : Shell) : Shell :=
  match s.meaning? a with
  | none => s.setStatus (if s.dialect = .shell then 127 else 1)
  | some (.alias text) => (s.print ("alias " ++ assignmentLine a text)).setStatus 0
  | some (.tracked file) => (s.print (file ++ "\n")).setStatus 0
  | some (.program file) => ((s.print (file ++ "\n")).track a file).setStatus 0
  | some _ => (s.print (a ++ "\n")).setStatus 0

/-- Describes names one after the other. -/
def describeAll (names : List String) (s : Shell) : Shell :=
  names.foldl (fun s a => s.describe a) (s.setStatus 0)

/-! ## Remembered names -/

/-- The place of a name among the programs that are remembered. -/
def trackSlot (name : String) : Nat :=
  let codes := name.toList.map Char.toNat
  (codes.foldl (· + ·) (16 * codes.headD 0)) % 0x8000 % 31

/-- Lists, forgets or looks for programs. -/
def hash (args : List String) (s : Shell) : Shell :=
  withOptions "hash" "rv" (fun options names s =>
    if options.any (·.1 == 'r') then { s with tracked := [], status := 0 }
    else if names.isEmpty then
      let sorted := s.tracked.mergeSort fun a b => trackSlot a.1 ≤ trackSlot b.1
      (s.print (String.join (sorted.map fun e => e.2 ++ "\n"))).setStatus 0
    else names.foldl (fun s a =>
      if (s.functions.any (·.1 == a)) || s.isBuiltin a then s
      else match s.findCommand a with
        | .ok found => s.track a (octets found.file)
        | .error (_, message) => (s.complain ("hash: " ++ message)).setStatus 1)
      (s.setStatus 0)) args s

/-- Gives names texts that the names stand for, or shows those texts. -/
def setAliases (args : List String) (s : Shell) : Shell :=
  let line (e : String × String) : String := assignmentLine e.1 e.2
  if args.isEmpty then
    let sorted := s.aliases.mergeSort fun a b => slot a.1 ≤ slot b.1
    (s.print (String.join (sorted.map line))).setStatus 0
  else args.foldl (fun s a =>
    let (name, text) := splitAssignment (a.drop 1).toString
    let name := (a.take 1).toString ++ name
    match text, s.aliases.lookup a with
    | some text, _ =>
      { s with aliases := if s.aliases.any (·.1 == name)
          then s.aliases.map fun e => if e.1 = name then (name, text) else e
          else s.aliases ++ [(name, text)] }
    | none, some text => s.print (line (a, text))
    | none, none => (s.warn ("alias: " ++ a ++ " not found\n")).setStatus 1) (s.setStatus 0)

def dropAliases (args : List String) (s : Shell) : Shell :=
  withOptions "unalias" "a" (fun options names s =>
    if !options.isEmpty then { s with aliases := [], status := 0 }
    else names.foldl (fun s a =>
      if s.aliases.any (·.1 == a) then { s with aliases := s.aliases.filter (·.1 != a) }
      else (s.warn ("unalias: " ++ a ++ " not found\n")).setStatus 1) (s.setStatus 0)) args s

/-! ## Scripts -/

/-- The bytes of a script that a command has the shell read, or what the shell says if it cannot.
A script without a slash in its name is looked for like a program. -/
def readSourced (s : Shell) (command name : String) : Except String (List UInt8) :=
  let read (file : String) : Except Obstacle (List UInt8) := s.files.read s.working (ofOctets file)
  match (namesAlong s.search name).findSome? fun file => (read file).toOption, s.dialect with
  | some bytes, _ => .ok bytes
  | none, .shell =>
    if !isPathName name then .error (command ++ ": " ++ name ++ ": not found")
    else match read name with
      | .error .isADirectory => .ok []
      | .error o => .error (command ++ ": " ++ openRefusal name o)
      | .ok bytes => .ok bytes
  | none, .program =>
    match read name with
    | .ok bytes => .ok bytes
    | .error .isADirectory => .error (command ++ ": " ++ name ++ ": is a directory")
    | .error o => .error (name ++ ": " ++ obstacleText o)

/-- The shell at the start of a script that it reads besides its own. -/
def beginScript (name : String) (args : List String) (s : Shell) : Shell :=
  let s := { s with scripts := s.scripts + 1, status := 0, tested := false }
  match s.dialect with
  | .shell => { s with reader := name ++ ": " }
  | .program =>
    { s with
      errorStart := name ++ ": line ", arguments := if args.isEmpty then s.arguments else args }

/-- The shell after such a script, seen from the one before. -/
def afterScript (args : List String) (before after : Shell) : Shell :=
  { after with
    scripts := before.scripts, reader := before.reader, errorStart := before.errorStart
    line := before.line, tested := before.tested
    arguments := if args.isEmpty then after.arguments else before.arguments
    jump := if after.jump = some .back then none else after.jump }

/-- A script that cannot be read ends the shell in one dialect. -/
def refuseScript (message : String) (s : Shell) : Shell :=
  let s := s.complain message
  if s.dialect = .shell then s.exit 2 else s.setStatus 1

/-- The command that reads a script, without a name of one. -/
def refuseNoScript (command : String) (s : Shell) : Shell :=
  match s.dialect with
  | .shell => s.setStatus 0
  | .program =>
    let s := s.complain (command ++ ": filename argument required")
    (s.warn (command ++ ": usage: " ++ command ++ " filename [arguments]\n")).setStatus 2

end CommandServer.Job.Shell
