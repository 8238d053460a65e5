/-
Commands of a shell that concern processes: signals and what is done when they come, commands that
run beside the shell, and the permissions of new files.
-/
import CommandServer.Outside.Job.Permission
import CommandServer.Outside.Job.Shell.Argument

namespace CommandServer.Job.Shell

open CommandServer.Text

/-! ## Traps -/

/-- The actions for signals in the order of their numbers. -/
def trapLines (s : Shell) : String :=
  let sorted := s.traps.mergeSort fun a b => a.1 ≤ b.1
  String.join (sorted.map fun (n, action) =>
    "trap -- " ++ singleQuoted action ++ " " ++ signalName n ++ "\n")

/-- The name of a signal; one dialect knows it with a syllable in front, too. -/
def trapNumber? (s : Shell) (name : String) : Option Nat :=
  if s.dialect = .program && name.startsWith "SIG" then signalNumber? (name.drop 3).toString
  else signalNumber? name

def setTraps (action : Option String) : List String → Shell → Shell
  | [], s => s.setStatus 0
  | name :: names, s =>
    match s.trapNumber? name with
    | none => (s.warn ("trap: " ++ name ++ ": bad trap\n")).setStatus 1
    | some n =>
      let others := s.traps.filter (·.1 != n)
      setTraps action names { s with
        traps := match action with
          | some a => others ++ [(n, a)]
          | none => others }

def trap (args : List String) (s : Shell) : Shell :=
  withOptions "trap" "" (fun _ operands s =>
    match operands with
    | [] => (s.print s.trapLines).setStatus 0
    | [name] => setTraps none [name] s
    | action :: names =>
      if ((number? action).bind fun _ => signalNumber? action).isSome then setTraps none operands s
      else setTraps (if action = "-" then none else some action) names s) args s

/-! ## Signals -/

/-- A signal for the first shell, which may be another one than this. -/
def signalMain (n : Nat) (s : Shell) : Shell :=
  let action := (if s.isMain then s.traps else s.mainTraps).lookup n
  match if certainSignals.contains n then none else action with
  | some "" => s
  | some _ => if s.isMain then { s with pending := s.pending ++ [n] }
    else { s with forMain := s.forMain ++ [n] }
  | none =>
    if ignoredSignals.contains n then s
    else if s.isMain then { s with ended := true, signal := some n, traps := [] }
    else { s with killed := some n }

/-- A signal for a command beside the shell, which ends with it. -/
def signalJob (n : Nat) (job : Background) (s : Shell) : Shell :=
  if ignoredSignals.contains n then s
  else
    { s with
      jobs := s.jobs.map fun j => if j.process = job.process
        then { j with finish := s.micros, status := -(n : Int) } else j
      output := s.output.filter fun e => e.writer != job.process || e.time ≤ s.micros }

/-- Sends a signal to the process of a number; the flag says whether there is one. -/
def signalProcess (n : Nat) (process : Nat) (s : Shell) : Bool × Shell :=
  if process = processNumber then (true, s.signalMain n)
  else match s.jobs.find? fun j => j.process = process && s.micros < j.finish with
    | some job => (true, s.signalJob n job)
    | none => (false, s)

/-- Sends a signal to processes one after the other. -/
def signalAll (n : Nat) : List String → Int → Shell → Shell
  | [], status, s => s.setStatus status
  | a :: rest, status, s =>
    if a.startsWith "%" && s.jobs.isEmpty then s.refuse "kill" ("No such job: " ++ a)
    else match if a.startsWith "-" ∨ a.startsWith "%" then number? (a.drop 1).toString
        else number? a with
      | none => s.refuseNumber "kill" a
      | some process =>
        match if a.startsWith "-" ∨ a.startsWith "%" then (false, s)
          else s.signalProcess n process with
        | (true, s) => signalAll n rest status s
        | (false, s) => signalAll n rest 1 (s.complain "kill: No such process\n")

/-- The name of a signal, which a status may be for. -/
def showSignal (a : String) (s : Shell) : Shell :=
  match number? a with
  | none => s.refuseNumber "kill" a
  | some k =>
    let n := if 128 < k then k - 128 else k
    if 0 < n && n < signalNames.length then (s.print (signalName n ++ "\n")).setStatus 0
    else s.refuse "kill" ("invalid signal number or exit status: " ++ a)

def killUsage : String :=
  "Usage: kill [-s sigspec | -signum | -sigspec] [pid | job]... or\nkill -l [exitstatus]"

def kill (args : List String) (s : Shell) : Shell :=
  let direct := match (args.headD "").toList with
    | '-' :: name => s.trapNumber? (String.ofList name)
    | _ => none
  match direct, args.tail with
  | some _, [] => s.refuse "kill" killUsage
  | some n, processes => signalAll n processes 0 s
  | none, _ =>
    withOptions "kill" "ls:" (fun options operands s =>
      let name := (options.filter (·.1 == 's')).getLast?.map Prod.snd
      match name.map fun a => (a, s.trapNumber? a), options.any (·.1 == 'l'), operands with
      | some (a, none), _, _ =>
        s.refuse "kill" ("invalid signal number or name: " ++ a)
      | none, true, [] =>
        (s.print ("0\n" ++ String.join (signalNames.tail.map (· ++ "\n")))).setStatus 0
      | none, true, a :: _ => s.showSignal a
      | some _, true, _ => s.refuse "kill" killUsage
      | _, false, [] => s.refuse "kill" killUsage
      | some (_, some n), false, processes => signalAll n processes 0 s
      | none, false, processes => signalAll 15 processes 0 s) args s

/-! ## Commands beside the shell -/

/-- The text of a status, or the signal that it stands for. -/
def jobState (s : Shell) (job : Background) : String :=
  if s.micros < job.finish then "Running"
  else if job.status < 0 then (signalText job.status.natAbs).getD ""
  else if job.status = 0 then "Done"
  else "Done(" ++ integerText job.status ++ ")"

/-- The commands that run beside the shell, the latest one first. Those that have ended are
forgotten when they have been shown. -/
def listJobs (s : Shell) : Shell :=
  let known := s.jobs.filter (!·.reported)
  let lines := known.zipIdx.map fun (job, k) =>
    let sign := if k + 1 = known.length then "+" else if k + 2 = known.length then "-" else " "
    let line := "[" ++ toString job.number ++ "] " ++ sign ++ " " ++ s.jobState job
    line ++ String.ofList (List.replicate (33 - line.length) ' ') ++ "\n"
  let s := s.print (String.join lines.reverse)
  setStatus 0 { s with
    jobs := s.jobs.map fun (j : Background) =>
      { j with reported := j.reported || j.finish ≤ s.micros } }

/-- Waits for the end of a command beside the shell, the status of which becomes that of the shell.
A signal that has ended it is named. -/
def waitFor (job : Background) (s : Shell) : Shell :=
  let s := { s with micros := max s.micros job.finish }
  let s := { s with
    jobs := s.jobs.map fun (j : Background) =>
      if j.process = job.process then { j with reported := true } else j }
  if job.status < 0 then
    let n := job.status.natAbs
    let s := match signalText n with
      | some text => s.warn (text ++ "\n")
      | none => s
    s.setStatus (128 + n)
  else s.setStatus job.status

def wait (args : List String) (s : Shell) : Shell :=
  withOptions "wait" "" (fun _ operands s =>
    if operands.isEmpty then
      setStatus 0 { s with
        micros := s.jobs.foldl (fun t (j : Background) => max t j.finish) s.micros }
    else operands.foldl (fun s a =>
      if s.status = 2 then s
      else if a.startsWith "%" then
        match (number? (a.drop 1).toString).bind fun k =>
          s.jobs.find? fun j => j.number = k && !j.reported with
        | some job => s.waitFor job
        | none => s.refuse "wait" ("No such job: " ++ a)
      else match number? a with
        | none => s.refuseNumber "wait" a
        | some process =>
          match s.jobs.find? (·.process = process) with
          | some job => s.waitFor job
          | none => s.setStatus 127) (s.setStatus 0)) args s

/-- Bringing a command to the front, which a shell without a terminal never does. -/
def resume (command : String) (args : List String) (s : Shell) : Shell :=
  match args with
  | [] => s.refuse command "No current job"
  | a :: _ => s.refuse command ("No such job: " ++ a)

/-! ## Permissions -/

/-- Permissions in letters. -/
def permissionText (mask : Nat) : String :=
  let group (c : Char) (shift : Nat) : String :=
    let bits := mask / shift % 8
    String.ofList (c :: '=' :: (if bits / 4 % 2 = 0 then ['r'] else []) ++
      (if bits / 2 % 2 = 0 then ['w'] else []) ++ if bits % 2 = 0 then ['x'] else [])
  String.intercalate "," [group 'u' 64, group 'g' 8, group 'o' 1]

def umask (args : List String) (s : Shell) : Shell :=
  withOptions "umask" "S" (fun options operands s =>
    match operands with
    | [] =>
      let text := if options.isEmpty then octalMode 4 s.mask else permissionText s.mask
      (s.print (text ++ "\n")).setStatus 0
    | a :: _ =>
      if a.toList.head?.any Char.isDigit then
        if a.toList.all isOctal then
          setStatus 0 { s with mask := ofDigits 8 a.toList % 0o1000 }
        else s.refuseNumber "umask" a
      else match changeMode? 0 false a (0o777 - s.mask) with
        | some mode => setStatus 0 { s with mask := 0o777 - mode % 0o1000 }
        | none => s.refuse "umask" ("Illegal mode: " ++ a)) args s

/-- The limits of the shell, of which there are none. -/
def ulimit (args : List String) (s : Shell) : Shell :=
  withOptions "ulimit" "HSatfdscmlpnvwr" (fun _ operands s =>
    (if operands.isEmpty then s.print "unlimited\n" else s).setStatus 0) args s

/-- The times that the shell and its children have taken for themselves, which is none. -/
def times (s : Shell) : Shell :=
  let line := "0m0.000000s 0m0.000000s\n"
  (s.print (line ++ line)).setStatus 0

end CommandServer.Job.Shell
