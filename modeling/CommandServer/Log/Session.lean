/-
Logging from one setup to the next. A record goes where the setup directs it when it comes to the
root, and to a stream of last resort when it does not; a message whose values do not fit its slots
is left out.
-/
import CommandServer.Log.Format
import CommandServer.Log.Loggers
import CommandServer.Log.Routing

namespace CommandServer.Log

/-- Where records go, and the loggers they may come from. -/
structure Session where
  routing : Routing
  loggers : Loggers := {}

namespace Session

/-- The session after a setup, and the fault that kept its file from being opened, if one did. -/
def configure (g : Loggers) (m : Machine) (s : Setup) : (Session × Option Fault) × Machine :=
  let ((routing, fault), m) := Routing.configure m s
  ((⟨routing, g.renewed⟩, fault), m)

/-- Logs a message with its values under the name of a logger. A record that does not come to the
root is a stray one, of which only the message is written, and only if it is urgent enough. -/
def log (stack : Stack) (stray stamp : String) (s : Session) (m : Machine) (l : Level)
    (name message : String) (values : List Value) : Session × Machine :=
  let loggers := (s.loggers.add name).settle s.routing.threshold name l
  let m := match format stack message values with
    | none => m
    | some text =>
      let record : Record := ⟨l, name, text⟩
      if !loggers.admits s.routing.threshold name l then m
      else if loggers.reaches name then s.routing.write stamp m record
      else if l.atLeast Loggers.strayThreshold then m.print stray record.strayLine
      else m
  ({ s with loggers }, m)

end Session

end CommandServer.Log
