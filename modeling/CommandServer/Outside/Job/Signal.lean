/-
Signals by name and by number, and what is said when one has ended a command.
-/
namespace CommandServer.Job

/-- The names of signals by their numbers; what comes first is no signal, but the end of a shell. -/
def signalNames : List String :=
  ["EXIT", "HUP", "INT", "QUIT", "ILL", "TRAP", "ABRT", "BUS", "FPE", "KILL", "USR1", "SEGV",
    "USR2", "PIPE", "ALRM", "TERM", "16", "CHLD", "CONT", "STOP", "TSTP", "TTIN", "TTOU", "URG",
    "XCPU", "XFSZ", "VTALRM", "PROF", "WINCH", "IO", "PWR", "SYS", "32", "33", "RTMIN"] ++
    (List.range 15).map (fun k => "RTMIN+" ++ toString (k + 1)) ++
    (List.range 14).map (fun k => "RTMAX-" ++ toString (14 - k)) ++ ["RTMAX"]

/-- Signals that a process does not notice unless it asks for them. -/
def ignoredSignals : List Nat := [0, 17, 18, 23, 28]

/-- Signals that cannot be caught. -/
def certainSignals : List Nat := [9, 19]

/-- The number of a signal that is given as one or by its name in any case. -/
def signalNumber? (s : String) : Option Nat :=
  match s.toNat? with
  | some n => if n < signalNames.length then some n else none
  | none => signalNames.findIdx? (· == s.toUpper)

def signalName (n : Nat) : String := signalNames.getD n ""

/-- What a shell says when a signal has ended a command. -/
def signalText (n : Nat) : Option String :=
  [(1, "Hangup"), (3, "Quit"), (4, "Illegal instruction"), (5, "Trace/breakpoint trap"),
    (6, "Aborted"), (7, "Bus error"), (8, "Floating point exception"), (9, "Killed"),
    (10, "User defined signal 1"), (11, "Segmentation fault"), (12, "User defined signal 2"),
    (14, "Alarm clock"), (15, "Terminated"), (16, "Stack fault"), (24, "CPU time limit exceeded"),
    (25, "File size limit exceeded"), (26, "Virtual timer expired"),
    (27, "Profiling timer expired"), (29, "I/O possible"), (30, "Power failure"),
    (31, "Bad system call")].lookup n

end CommandServer.Job
