/-
Programs by name: which ones there are, where they lie, and how a name is looked for along a search
path.
-/
import CommandServer.Outside.Job.Utility

namespace CommandServer.Job

open CommandServer.Text

def shellNames : List String := ["sh", "dash", "bash"]

def programNames : List String := shellNames ++ ["env", "kill"] ++ Utility.table.map Prod.fst

/-- The files that every machine has: directories, the programs, and a file that is always empty.
Some directories have a second place. -/
def standardFiles : Files :=
  let directories : List Place := [["boot"], ["dev"], ["etc"], ["home"], ["media"], ["mnt"],
    ["opt"], ["proc"], ["root"], ["run"], ["srv"], ["sys"], ["tmp"], ["usr"], ["usr", "bin"],
    ["usr", "lib"], ["usr", "lib64"], ["usr", "local"], ["usr", "sbin"], ["usr", "share"], ["var"],
    ["var", "log"], ["var", "tmp"]]
  let files := nullDevice :: programNames.map fun n => programDirectory ++ [n]
  { entries := directories.map (·, .directory) ++ files.map (·, .file [])
    links := ["bin", "lib", "lib64", "sbin"].map fun n => ([n], ⟨["usr", n], "usr/" ++ n⟩)
    modes := programNames.map fun n => (programDirectory ++ [n], 0o755) }

/-- Where programs are looked for when the environment does not say so. -/
def defaultSearch : String := "/bin:/usr/bin"

/-! ## Single names -/

/-- What keeps a file from being started as a program. -/
inductive StartError where
  | missing
  | denied
  | directory
  | notADirectory
  | nameTooLong
  | format
  deriving DecidableEq, Repr

/-- Whether an error only means that there is no such file. -/
def StartError.isAbsence (e : StartError) : Bool := e = .missing || e = .notADirectory

/-- What a file that may be started is: a program, or a script for one. -/
inductive Executable where
  | program (name : String)
  | script (place : Place)
  deriving DecidableEq, Repr

/-- What the file at a place is when it is started. -/
def executableAt? (fs : Files) (place : Place) : Option Executable :=
  let name := place.getLast?.getD ""
  if place.dropLast = programDirectory ∧ programNames.contains name then some (.program name)
  else if fs.isStartable place then some (.script place)
  else none

/-- What the file of a name is when it is started. -/
def executableNamed (fs : Files) (working : Place) (name : String) :
    Except StartError Executable :=
  match fs.find working name with
  | .ok (_, .directory) => .error .directory
  | .ok (place, .file _) =>
    match executableAt? fs place with
    | some e => .ok e
    | none => .error .denied
  | .error .notADirectory => .error .notADirectory
  | .error .nameTooLong => .error .nameTooLong
  | .error _ => .error .missing

/-! ## Search -/

/-- A name with a slash means one file, any other is looked for in one directory after the other. -/
def isPathName (name : String) : Bool := name.toList.contains '/'

/-- The files that a name may mean. -/
def namesAlong (search name : String) : List String :=
  if isPathName name then [name]
  else (search.splitOn ":").map fun d =>
    if d.isEmpty || d.endsWith "/" then d ++ name else d ++ "/" ++ name

/-- What a search for a program has found. -/
structure FoundProgram where
  file : String
  executable : Executable

/-- All that a search comes upon, up to the end of the search path. -/
def attempts (fs : Files) (working : Place) (search name : String) :
    List (Except StartError FoundProgram) :=
  (namesAlong search name).map fun file =>
    (executableNamed fs working file).map (FoundProgram.mk file)

def firstFound? (results : List (Except StartError FoundProgram)) : Option FoundProgram :=
  results.findSome? Except.toOption

def errorsOf (results : List (Except StartError FoundProgram)) : List StartError :=
  results.filterMap fun r => match r with
    | .error e => some e
    | .ok _ => none

/-- What a name means when it is to be started. Of several errors the first one that is not one of
absence counts, else the last one. -/
def findProgram (fs : Files) (working : Place) (search name : String) :
    Except StartError FoundProgram :=
  if name.isEmpty then .error .missing
  else
    let results := attempts fs working search name
    let errors := errorsOf results
    match firstFound? results with
    | some found => .ok found
    | none =>
      .error ((errors.find? fun e => !e.isAbsence).getD (errors.getLast?.getD .missing))

/-! ## Scripts -/

/-- The program that a script asks for in its first line, and an argument for it. -/
def interpreterOf? (bytes : List UInt8) : Option (List String) :=
  match charsOfBytes bytes with
  | '#' :: '!' :: r =>
    let blank (c : Char) : Bool := c == ' ' || c == '\t'
    let line := (r.takeWhile (· != '\n')).dropWhile blank
    let line := (line.reverse.dropWhile blank).reverse
    let name := line.takeWhile (!blank ·)
    let argument := (line.drop name.length).dropWhile blank
    let words := if argument.isEmpty then [name] else [name, argument]
    if name.isEmpty then none else some (words.map fun w => ofOctets (String.ofList w))
  | _ => none

/-- The program that is to be started for what has been found, and its arguments. A script comes
behind the program that it asks for, which may be a script, too. -/
def resolve (fs : Files) (working : Place) :
    Nat → FoundProgram → List String → Except StartError (String × List String)
  | 0, _, _ => .error .format
  | n + 1, found, argv =>
    match found.executable with
    | .program name => .ok (name, argv)
    | .script place =>
      match interpreterOf? (fs.content place) with
      | none => .error .format
      | some words => do
        let file := words.headD ""
        let executable ← executableNamed fs working file
        resolve fs working n ⟨file, executable⟩ (words ++ found.file :: argv.tail)

/-- How many scripts may stand behind one another. -/
def maxInterpreters : Nat := 5

/-- The program that a name means and its arguments, if it can be started. -/
def startFor (fs : Files) (working : Place) (search : String) (argv : List String) :
    Except StartError (String × List String) := do
  let found ← findProgram fs working search (argv.headD "")
  resolve fs working maxInterpreters found argv

end CommandServer.Job
