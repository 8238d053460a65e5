/-
The loggers that have been asked for. A name stands below the names before its dots, and a record
goes up from its logger to the nearest of them that is a logger too, until it comes to the root. A
dot right before one that has been looked at is passed over, and so not every name gets there.
-/
import CommandServer.Log.Record

namespace CommandServer.Log

/-- The names of the loggers, and what each has decided about a level; a decision stays until the
next setup. -/
structure Loggers where
  names : List String := []
  decisions : List ((String × Level) × Bool) := []

namespace Loggers

/-- Whether the way up from a name, whose characters are in reverse, comes to the root. -/
def climbs (names : List String) : List Char → Bool
  | '.' :: c :: r =>
    let above := String.ofList (c :: r).reverse
    if above = rootLogger then true
    else if names.contains above then climbs names (c :: r)
    else climbs names r
  | _ :: r => climbs names r
  | [] => false

/-- Whether the records of a logger come to the root. -/
def reaches (g : Loggers) (name : String) : Bool :=
  name = rootLogger || climbs g.names name.toList.reverse

/-- The threshold for loggers that no setup reaches, and for their records. -/
def strayThreshold : Level := .warning

/-- Whether a logger takes records of a level. -/
def admits (g : Loggers) (root : Level) (name : String) (l : Level) : Bool :=
  match g.decisions.lookup (name, l) with
  | some decision => decision
  | none => l.atLeast (if g.reaches name then root else strayThreshold)

def add (g : Loggers) (name : String) : Loggers :=
  if g.names.contains name then g else { g with names := name :: g.names }

/-- Keeps what a logger decides about a level. -/
def settle (g : Loggers) (root : Level) (name : String) (l : Level) : Loggers :=
  { g with decisions := ((name, l), g.admits root name l) :: g.decisions }

/-- The loggers at a new setup. -/
def renewed (g : Loggers) : Loggers := { g with decisions := [] }

end Loggers

end CommandServer.Log
