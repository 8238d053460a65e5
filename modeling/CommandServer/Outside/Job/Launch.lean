/-
Starting the command of a request on a machine, and waiting for it within its time limit.
-/
import CommandServer.Machine
import CommandServer.Outside.Job.Shell

namespace CommandServer.Job

open CommandServer.Text

/-! ## Limits -/

/-- The bytes that one argument and all of them together may have. -/
def maxArgumentSize : Nat := 131071

def maxArgumentsSize : Nat := 2097152

/-- The longest waits, in thousandths of a second: one that can be asked for, and one that can be
told to the clock. -/
def maxWait : Nat := 2147483647

def maxClock : Nat := 9223372036854

/-- The time that starting a command takes, in millionths of a second. -/
def startMicros : Nat := 1000

/-- The depth to which programs start one another and scripts repeat themselves. -/
def fuel : Nat := 20000

/-! ## Before the start -/

def hasNul (s : String) : Bool := s.toList.contains '\x00'

/-- The fault for which a launch is refused outright. -/
def refusal? (l : Launch) : Option Fault :=
  let entries := (l.environment.map (·.entries)).getD []
  if entries.any fun e => e.1.toList.contains '=' then some .illegalVariable
  else if l.argv.any hasNul || l.directory.any Path.hasNul ||
      entries.any fun e => hasNul e.1 || hasNul e.2 then some .embeddedNul
  else none

/-- Arguments or variables that are too much for one command. -/
def isTooLong (argv : List String) (e : Environment) : Bool :=
  let sizes := argv.map String.utf8ByteSize ++
    e.entries.map fun (k, v) => k.utf8ByteSize + v.utf8ByteSize + 1
  sizes.any (maxArgumentSize < ·) || maxArgumentsSize < sizes.foldl (fun n size => n + size + 9) 0

/-- The working directory of the command. -/
def workingPlace (m : Machine) (l : Launch) : Except SystemError Place :=
  match l.directory with
  | none => .ok m.working
  | some p =>
    match m.files.find m.working p.text with
    | .ok (place, .directory) => .ok place
    | .ok (_, .file _) => .error (.notADirectory (.directory p))
    | .error o => .error (o.error (.directory p))

def startError (name : String) : StartError → SystemError
  | .missing => .noSuchFile (.name name)
  | .denied | .directory => .permissionDenied (.name name)
  | .notADirectory => .notADirectory (.name name)
  | .nameTooLong => .nameTooLong (.name name)
  | .format => .badFormat (.name name)

/-- Runs the command to its end. -/
def run (m : Machine) (l : Launch) : Except SystemError Report := do
  let name := l.argv.headD ""
  let environment := l.environment.getD m.environ
  let working ← workingPlace m l
  let search := (environment.get? "PATH").getD defaultSearch
  let (program, argv) ←
    (startFor m.files working search l.argv).mapError (startError name)
  if isTooLong l.argv environment then throw (.argumentsTooLong (.name name))
  return Shell.runProgram fuel program argv { files := m.files, environment, working }

/-! ## Waiting -/

/-- The time limit as a number, if there is a finite one near it. -/
def limit? : Seconds → Except Fault Binary64
  | .whole n =>
    match Binary64.ofInt? n with
    | some x => .ok x
    | none => .error .integerTooLarge
  | .real x => .ok x

/-- Whether a time is within a limit, or the fault that keeps the limit from being waited for. -/
def isWithin (micros : Nat) (t : Seconds) : Except Fault Bool := do
  let x ← limit? t
  if x.isNonPositive then return false
  match x with
  | .nan => throw .waitForNan
  | .infinite _ => throw .waitForInfinity
  | x =>
    let (n, d) := (x.toRatio?).getD (0, 1)
    if (maxClock * d : Int) < n * 1000 then throw .waitBeyondClock
    else if (maxWait * d : Int) < n * 1000 then throw .waitTooLong
    else return decide ((micros * d : Int) ≤ n * 1000000)

/-- The text of the bytes on a channel. -/
def textOn (c : Channel) (r : Report) : String :=
  String.ofList (unifyLineBreaks (decodeUtf8Lenient (bytesOn c r.chunks)))

def completed (r : Report) : Outcome :=
  .completed (some (textOn .out r)) (some (textOn .err r)) r.status

/-- What comes of a command that has run, within its time limit or not. -/
def outcome (timeout : Option Seconds) (r : Report) : Outcome :=
  match timeout with
  | none => completed r
  | some t =>
    match isWithin (r.micros + startMicros) t with
    | .ok true => completed r
    | .ok false => .timedOut t
    | .error f => .refused f

/-- Starts processes on a machine. -/
def launcher : Launcher Machine := fun l m =>
  match refusal? l with
  | some f => (.refused f, m)
  | none =>
    match run m l with
    | .ok r => (outcome l.timeout r, { m with files := r.files })
    | .error e => (.failed e, m)

end CommandServer.Job
