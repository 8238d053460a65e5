/-
The commands of a shell that start nothing, by their names.
-/
import CommandServer.Outside.Job.Shell.Directory
import CommandServer.Outside.Job.Shell.Lookup
import CommandServer.Outside.Job.Shell.Print
import CommandServer.Outside.Job.Shell.Process
import CommandServer.Outside.Job.Shell.Test
import CommandServer.Outside.Job.Shell.Variable

namespace CommandServer.Job.Shell

open CommandServer.Text

/-! ## Jumps -/

/-- Leaves loops or goes on with their next round. Outside of loops that does nothing. -/
def jumpInLoop (command : String) (jump : Nat → Jump) (args : List String) (s : Shell) : Shell :=
  match (number? (args.headD "1")).filter (0 < ·) with
  | none => s.refuseNumber command (args.headD "")
  | some k =>
    if s.loops = 0 then s.setStatus 0
    else { s with jump := some (jump (min k s.loops)), status := 0 }

/-- Ends a function or a script. -/
def leaveFunction (args : List String) (s : Shell) : Shell :=
  let leave (s : Shell) : Shell := { s with jump := some .back }
  if s.dialect = .program && s.calls + s.scripts = 0 then
    let refusal := "return: can only \x60return' from a function or sourced script"
    (s.complain refusal).setStatus 2
  else match args with
  | a :: _ =>
    match number? a with
    | none => s.refuseNumber "return" a
    | some k => leave (s.setStatus (if s.dialect = .program then k % 256 else k))
  | [] => leave s

/-- Ends the shell. -/
def leaveShell (args : List String) (s : Shell) : Shell :=
  match args with
  | [] => s.exit (s.savedStatus.getD s.status)
  | a :: _ => match number? a with
    | some n => s.exit n
    | none => s.refuseNumber "exit" a

/-- Ends a round of a loop, and says whether another one may follow. -/
def endRound (s : Shell) : Bool × Shell :=
  let s := { s with loops := s.loops - 1 }
  match s.jump with
  | none => (!s.ended, s)
  | some (.leave k) => (false, { s with jump := if k ≤ 1 then none else some (.leave (k - 1)) })
  | some (.next k) =>
    if k ≤ 1 then (true, { s with jump := none })
    else (false, { s with jump := some (.next (k - 1)) })
  | some .back => (false, s)

/-- The shell after a function, seen from the one before. -/
def afterFunction (before after : Shell) : Shell :=
  let after := after.giveBack after.outer
  { after with
    options := after.outerOptions.getD after.options
    arguments := before.arguments, loops := before.loops, calls := before.calls
    outer := before.outer, outerOptions := before.outerOptions
    optionIndex := before.optionIndex, optionOffset := before.optionOffset
    jump := if after.jump = some .back then none else after.jump }

/-! ## Table -/

/-- The commands that are part of the shell and start nothing. -/
def builtin? (name : String) : Option (List String → Shell → Shell) :=
  match name with
  | ":" | "true" => some fun _ => setStatus 0
  | "false" => some fun _ => setStatus 1
  | "alias" => some setAliases
  | "bg" | "fg" => some (resume name)
  | "break" => some (jumpInLoop name .leave)
  | "cd" | "chdir" => some changeDirectory
  | "continue" => some (jumpInLoop name .next)
  | "echo" => some echo
  | "exit" => some leaveShell
  | "export" => some exportAll
  | "getopts" => some getopts
  | "hash" => some hash
  | "jobs" => some fun _ => listJobs
  | "kill" => some kill
  | "local" => some makeLocal
  | "printf" => some printf
  | "pwd" => some printDirectory
  | "read" => some readLine
  | "readonly" => some fixAll
  | "return" => some leaveFunction
  | "set" => some set
  | "shift" => some shift
  | "test" | "[" => some (test name)
  | "times" => some fun _ => times
  | "trap" => some trap
  | "type" => some describeAll
  | "ulimit" => some ulimit
  | "umask" => some umask
  | "unalias" => some dropAliases
  | "unset" => some unsetAll
  | "wait" => some wait
  | _ => none

/-- Runs a command of the shell; one that could not write all of its output has failed. -/
def runBuiltin (name : String) (run : List String → Shell → Shell) (args : List String)
    (s : Shell) : Shell :=
  let s := run args { s with broken := false }
  if s.broken then
    { (s.complain (name ++ ": " ++ name ++ ": I/O error")).setStatus 1 with broken := false }
  else s

end CommandServer.Job.Shell
