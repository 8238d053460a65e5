/-
Log records: their levels, and the lines in which a record is written to the console, to a file, and
where it goes astray.
-/
namespace CommandServer.Log

inductive Level where
  | debug
  | info
  | warning
  | error
  | critical
  deriving DecidableEq, Repr, Inhabited

namespace Level

/-- The place of the level in the order of urgency. -/
def rank : Level → Nat
  | .debug => 10
  | .info => 20
  | .warning => 30
  | .error => 40
  | .critical => 50

def name : Level → String
  | .debug => "DEBUG"
  | .info => "INFO"
  | .warning => "WARNING"
  | .error => "ERROR"
  | .critical => "CRITICAL"

/-- At least as urgent as a threshold. -/
def atLeast (l threshold : Level) : Bool := threshold.rank ≤ l.rank

end Level

/-- The root of all loggers of the program. -/
def rootLogger : String := "studio_mcp"

/-- The full name of a logger; an empty name is the root. -/
def loggerName (name : Option String) : String :=
  match name with
  | none => rootLogger
  | some n => if n.isEmpty then rootLogger else rootLogger ++ "." ++ n

structure Record where
  level : Level
  logger : String
  message : String
  deriving DecidableEq, Repr

namespace Record

/-- A debug record of the part of the program with the given name. -/
def ofDebug (part message : String) : Record := ⟨.debug, loggerName (some part), message⟩

def consoleLine (r : Record) : String :=
  "[studio-mcp] " ++ r.level.name ++ " " ++ r.message ++ "\n"

/-- A line of a log file; the stamp says when and by which process. -/
def fileLine (stamp : String) (r : Record) : String :=
  stamp ++ r.level.name ++ " " ++ r.logger ++ ": " ++ r.message ++ "\n"

/-- The line of a record that no setup takes. -/
def strayLine (r : Record) : String := r.message ++ "\n"

end Record

/-- The threshold: everything for diagnosis, else warnings and errors. -/
def threshold (debug : Bool) : Level := if debug then .debug else .warning

end CommandServer.Log
