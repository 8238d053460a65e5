/-
The state of a shell: what it sees and remembers while a script runs, and how its parts change. All
texts of a shell have one character for each byte.
-/
import CommandServer.Outside.Job.Field
import CommandServer.Outside.Job.Program
import CommandServer.Outside.Job.Script.Reader
import CommandServer.Outside.Job.Signal

namespace CommandServer.Job

open CommandServer.Text

/-! ## Output -/

/-- Where bytes may go: to a channel of the shell itself, or into a pipe. -/
inductive Sink where
  | channel (c : Channel)
  | pipe (k : Nat)
  deriving DecidableEq

/-- What is left of some input: bytes, or those of a file from one of them on. -/
inductive Stream where
  | bytes (left : List UInt8)
  | file (place : Place) (offset : Nat)

/-- Where a descriptor leads. -/
inductive Target where
  | sink (s : Sink)
  | file (place : Place)
  | stream (k : Nat)
  | directory
  | nowhere
  | closed
  deriving DecidableEq

/-- Bytes that a process has written at a time. -/
structure Emission where
  time : Nat
  sink : Sink
  writer : Nat
  bytes : List UInt8

/-- A command that runs beside the shell, with its time, and where its output goes. It is forgotten
once its end has been reported. -/
structure Background where
  process : Nat
  number : Nat
  start : Nat
  finish : Nat
  status : Int
  sinks : List Sink
  reported : Bool := false

/-- A jump out of commands that are running: to the end of a loop or to its next round, loops being
counted from the inside, or to the end of a function. -/
inductive Jump where
  | leave (loops : Nat)
  | next (loops : Nat)
  | back
  deriving DecidableEq

/-! ## State -/

/-- The number of the process that the first shell is. -/
def processNumber : Nat := 4242

/-- The output stands in reverse. The working directory comes with the path on which the shell got
there. Where functions are running, the variables that the innermost one made its own come with
their values outside of it. The reader is what has the shell read further scripts, as its messages
name it, and the line that of the command that runs. A command is tested if its failure decides
what runs next. -/
structure Shell where
  files : Files
  vars : Environment
  exported : List String
  fixed : List String := []
  working : Place
  path : Path
  streams : List Stream
  targets : List (Nat × Target) :=
    [(0, .stream 0), (1, .sink (.channel .out)), (2, .sink (.channel .err))]
  name : String
  arguments : List String
  errorStart : String
  reader : String := ""
  line : Nat := 1
  dialect : Dialect
  options : List Char := []
  tested : Bool := false
  status : Int := 0
  output : List Emission := []
  micros : Nat := 0
  ended : Bool := false
  signal : Option Nat := none
  functions : List (String × Command) := []
  aliases : List (String × String) := []
  loops : Nat := 0
  calls : Nat := 0
  scripts : Nat := 0
  jump : Option Jump := none
  outer : List (String × Option String × Bool) := []
  outerOptions : Option (List Char) := none
  traps : List (Nat × String) := []
  mainTraps : List (Nat × String) := []
  pending : List Nat := []
  forMain : List Nat := []
  process : Nat := processNumber
  processes : Nat := processNumber
  killed : Option Nat := none
  jobs : List Background := []
  orphans : List Background := []
  held : List Sink := []
  isFresh : Bool := false
  isLast : Bool := false
  savedStatus : Option Int := none
  latest : Option Nat := none
  pipes : Nat := 0
  optionIndex : Nat := 1
  optionOffset : Option Nat := none
  mask : Nat := 0o022
  lastOutput : Int := 0
  isSpecial : Bool := false
  broken : Bool := false
  tracked : List (String × String) := []

namespace Shell

/-! ## Writing -/

def target (s : Shell) (descriptor : Nat) : Target := (s.targets.lookup descriptor).getD .closed

def setTarget (descriptor : Nat) (t : Target) (s : Shell) : Shell :=
  { s with targets := (descriptor, t) :: s.targets.filter (·.1 != descriptor) }

def emit (t : Target) (bytes : List UInt8) (s : Shell) : Shell :=
  match t with
  | .sink k => { s with output := ⟨s.micros, k, s.process, bytes⟩ :: s.output }
  | .file place => { s with files := s.files.append place bytes }
  | _ => s

/-- Writes to the output. What does not take it breaks the command that writes. -/
def printBytes (bytes : List UInt8) (s : Shell) : Shell :=
  let t := s.target 1
  let takes := t matches .sink _ | .file _ | .nowhere
  let s := s.emit t bytes
  if takes || bytes.isEmpty then s else { s with broken := true }

def print (text : String) (s : Shell) : Shell := s.printBytes (octetBytes text)

/-- Writes to where errors go. -/
def warn (text : String) (s : Shell) : Shell := s.emit (s.target 2) (octetBytes text)

/-- A message of the shell itself. -/
def complainAt (line : Nat) (message : String) (s : Shell) : Shell :=
  s.warn (s.errorStart ++ integerText line ++ ": " ++ message ++ "\n")

def complain (message : String) (s : Shell) : Shell := s.complainAt s.line message

/-- A message about something in a script. -/
def complainWithin (message : String) (s : Shell) : Shell := s.complain (s.reader ++ message)

/-- The bytes in a sink in the order of their times. -/
def bytesIn (k : Sink) (output : List Emission) : List UInt8 :=
  ((output.reverse.filter (·.sink = k)).mergeSort fun a b => a.time ≤ b.time).flatMap Emission.bytes

/-! ## Reading -/

/-- What is left of the input behind a descriptor. -/
def inputAt (s : Shell) (descriptor : Nat) : List UInt8 :=
  match s.target descriptor with
  | .stream k =>
    match s.streams[k]? with
    | some (.bytes left) => left
    | some (.file place offset) => (s.files.content place).drop offset
    | none => []
  | _ => []

/-- Takes bytes from the input behind a descriptor. -/
def dropInput (descriptor count : Nat) (s : Shell) : Shell :=
  match s.target descriptor with
  | .stream k =>
    { s with streams := s.streams.modify k fun i => match i with
        | .bytes left => .bytes (left.drop count)
        | .file place offset => .file place (offset + count) }
  | _ => s

/-- A new stream. -/
def addStream (i : Stream) (s : Shell) : Target × Shell :=
  (.stream s.streams.length, { s with streams := s.streams ++ [i] })

/-! ## Status -/

def setStatus (n : Int) (s : Shell) : Shell := { s with status := n }

def exit (n : Int) (s : Shell) : Shell := { s with status := n % 256, ended := true }

/-- Whether the commands that follow are passed over. -/
def isHalted (s : Shell) : Bool := s.ended || s.jump.isSome

def isSuccess (s : Shell) : Bool := s.status == 0

def has (s : Shell) (option : Char) : Bool := s.options.contains option

/-- An error that ends a script. -/
def fail (message : String) (s : Shell) : Shell := (s.complainWithin message).exit 2

/-- An error of a command of the shell; some commands end the shell then. -/
def refuse (command message : String) (s : Shell) : Shell :=
  let s := s.complain (command ++ ": " ++ message)
  if s.isSpecial then s.exit 2 else s.setStatus 2

/-- Lets a failure end a shell that is set up so. -/
def checkFailure (s : Shell) : Shell :=
  if s.has 'e' && !s.tested && !s.isSuccess then { s with ended := true } else s

/-- Stops because there is no fuel left. -/
def exhaust (s : Shell) : Shell := { s with ended := true, micros := s.micros + endless }

/-! ## Variables -/

def isFixed (s : Shell) (name : String) : Bool := s.fixed.contains name

/-- Gives a variable a value, whatever protects it. -/
def put (name value : String) (s : Shell) : Shell :=
  let s := { s with vars := s.vars.put name value }
  let s := if s.has 'a' && !s.exported.contains name then
    { s with exported := s.exported ++ [name] } else s
  match name with
  | "OPTIND" => { s with optionIndex := max 1 (value.toNat?.getD 1), optionOffset := none }
  | "PATH" => { s with tracked := [] }
  | _ => s

/-- Gives a variable a value, which ends the shell if the variable is fixed. -/
def assign (name value : String) (s : Shell) : Shell :=
  if s.isFixed name then s.fail (name ++ ": is read only") else s.put name value

def exportName (name : String) (s : Shell) : Shell :=
  if s.exported.contains name then s else { s with exported := s.exported ++ [name] }

def unset (name : String) (s : Shell) : Shell :=
  { s with vars := s.vars.filter fun k _ => k != name
           exported := s.exported.filter (· != name) }

/-- The place of a variable in the table that a shell keeps, which orders the environment of the
programs that it starts. -/
def slot (name : String) : Nat :=
  let codes := name.toList.map Char.toNat
  (codes.foldl (· + ·) (16 * codes.headD 0)) % 39

/-- The environment of the programs that the shell starts. -/
def environment (s : Shell) : Environment :=
  let known := s.exported.filterMap fun k => (s.vars.get? k).map (k, ·)
  .ofPairs ((known.mergeSort fun a b => slot a.1 ≤ slot b.1).map fun (k, v) =>
    (ofOctets k, ofOctets v))

/-- Where programs are looked for, by the list that a shell starts with if it is given none. -/
def initialSearch : String := "/usr/local/sbin:/usr/local/bin:/usr/sbin:/usr/bin:/sbin:/bin"

def search (s : Shell) : String := (s.vars.get? "PATH").getD ""

/-- The separators of fields. -/
def separators (s : Shell) : Separators :=
  match s.vars.get? "IFS" with
  | some v => v.toList
  | none => defaultSeparators

/-- What stands between arguments that are joined. -/
def joint (s : Shell) : String :=
  match s.vars.get? "IFS" with
  | some v => String.ofList (v.toList.take 1)
  | none => " "

/-! ## Programs -/

def find (s : Shell) (name : String) : Except Obstacle (Place × Entry) :=
  s.files.find s.working (ofOctets name)

def context (s : Shell) : Context :=
  let isFile := match s.target 0 with
    | .stream k => s.streams[k]?.any (· matches .file ..)
    | _ => false
  { files := s.files, environment := s.environment, working := s.working, input := s.inputAt 0
    inputIsFile := isFile, inputIsDirectory := s.target 0 matches .directory, mask := s.mask }

/-- Takes over what a program has done, but for its status. -/
def absorbOutput (r : Report) (s : Shell) : Shell :=
  let s := { s.dropInput 0 r.consumed with files := r.files, micros := s.micros + r.micros }
  r.chunks.foldl (fun s c => s.emit (s.target (if c.channel = .out then 1 else 2)) c.bytes) s

/-- Takes over what a program has done. -/
def absorb (r : Report) (s : Shell) : Shell :=
  let s := s.absorbOutput r
  if r.status < 0 then
    let n := r.status.natAbs
    let s := match signalText n with
      | some text => s.warn (text ++ "\n")
      | none => s
    s.setStatus (128 + n)
  else s.setStatus r.status

/-- A program takes the place of the shell. -/
def become (r : Report) (s : Shell) : Shell :=
  let after := (s.absorbOutput r).setStatus (max r.status 0)
  { after with
    ended := true, traps := [], signal := if r.status < 0 then some r.status.natAbs else none }

/-! ## Beginning and end -/

/-- The path of the working directory: the one that the environment gives, if it leads there. -/
def startPath (c : Context) : Path :=
  match c.environment.get? "PWD" with
  | some p =>
    match c.files.find c.working p with
    | .ok (place, _) =>
      if p.startsWith "/" && place == c.working then .ofString (octets p)
      else ⟨.slash, c.working.map octets⟩
    | .error _ => ⟨.slash, c.working.map octets⟩
  | none => ⟨.slash, c.working.map octets⟩

/-- A shell that starts in a context. Of the environment it takes what variables may be called. -/
def ofContext (c : Context) (program name : String) (arguments : List String) : Shell :=
  let verbose := program == "bash"
  let path := startPath c
  let given := (c.environment.entries.map fun (k, v) => (octets k, octets v)).filter fun e =>
    Word.isName e.1
  let own := [("IFS", " \t\n"), ("OPTIND", "1"), ("PPID", "4241"), ("PS1", "# "), ("PS2", "> "),
    ("PS4", "+ ")]
  let vars := ((OrderedMap.ofPairs [("PATH", initialSearch)]).putAll given).putAll own
  { files := c.files, vars := vars.put "PWD" path.text
    exported := given.map Prod.fst ++ (if given.any (·.1 == "PWD") then [] else ["PWD"])
    working := c.working, path, streams := [.bytes c.input], name := octets name
    arguments := arguments.map octets, dialect := if verbose then .program else .shell
    errorStart := octets name ++ (if verbose then ": line " else ": "), mask := c.mask }

/-- Whether this is the first shell, which the others have come from. -/
def isMain (s : Shell) : Bool := s.process == processNumber

/-- The shell as its children see it when they start. Traps are left to it, but for signals that
are to be ignored. -/
def child (s : Shell) : Shell :=
  { s with
    process := s.processes + 1, processes := s.processes + 1, jobs := []
    isLast := false
    traps := s.traps.filter (·.2 = ""), pending := [], forMain := []
    mainTraps := if s.isMain then s.traps else s.mainTraps }

/-- What a child of the shell did, seen from the shell. -/
def afterChild (before child : Shell) : Shell :=
  let s := { before with
    files := child.files, output := child.output, micros := child.micros
    streams := child.streams, processes := child.processes, pipes := child.pipes
    pending := before.pending ++ (if before.isMain then child.forMain else [])
    forMain := before.forMain ++ (if before.isMain then [] else child.forMain)
    orphans := child.orphans ++ child.jobs, killed := child.killed }
  match child.killed with
  | some n => if s.isMain then { s with ended := true, signal := some n, traps := [] } else s
  | none => s

/-- The status of a child that has ended. -/
def childStatus (child : Shell) : Int :=
  match child.signal with
  | some n => 128 + n
  | none => child.status

/-- The time at which nothing is left that could write into a sink. -/
def lastTime (s : Shell) (isOpen : Sink → Bool) : Nat :=
  (s.jobs ++ s.orphans).foldl (fun t job => if job.sinks.any isOpen then max t job.finish else t)
    s.micros

/-- What a shell reports when it ends. -/
def report (s : Shell) : Report :=
  let ordered := s.output.reverse.mergeSort fun a b => a.time ≤ b.time
  { status := match s.signal with
      | some n => -(n : Int)
      | none => s.status
    chunks := ordered.filterMap fun e => match e.sink with
      | .channel c => some ⟨c, e.bytes⟩
      | .pipe _ => none
    files := s.files
    micros := s.lastTime fun k => k matches .channel _ }

/-! ## Parameters -/

/-- The letters of the options in the order in which a shell shows them. -/
def optionLetters : List Char :=
  ['u', 'b', 'a', 'C', 'E', 'V', 'v', 'x', 's', 'n', 'm', 'i', 'I', 'f', 'e']

def parameter? (s : Shell) (name : String) : Option String :=
  match name with
  | "?" => some (integerText s.status)
  | "$" => some (integerText processNumber)
  | "#" => some (integerText s.arguments.length)
  | "!" => s.latest.map fun k => integerText k
  | "-" => some (String.ofList (optionLetters.filter s.has))
  | "0" => some s.name
  | name =>
    match if name.toList.all Char.isDigit then name.toNat? else none with
    | some k => s.arguments[k - 1]?
    | none => s.vars.get? name

end Shell

end CommandServer.Job
