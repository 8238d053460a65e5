/-
The program from its command line to the moment it serves. It ends early with a status when there
is nothing to serve; a fault ends it without one.
-/
import CommandServer.Log.Routing
import CommandServer.Options.Help
import CommandServer.Settings.Load

namespace CommandServer

/-- A server at work, and where its records go. -/
structure Service where
  server : Server
  routing : Log.Routing

/-- How the program goes on after its start. -/
inductive Course where
  | exit (status : Nat)
  | fault (f : Fault)
  | serve (s : Service)

namespace Program

def output : String := "stdout"

def console : String := "stderr"

/-- The status after an error in what was asked for, and after one on the command line. -/
def failureStatus : Nat := 1

def usageStatus : Nat := 2

/-- Ends with an error message. -/
def fail (m : Machine) (message : String) : Course × Machine :=
  (.exit failureStatus, m.print console (serverName ++ ": " ++ message ++ "\n"))

def failUsage (m : Machine) (e : OptionError) : Course × Machine :=
  (.exit usageStatus, m.print console e.report)

/-- The record of the command to be served. -/
def commandRecord (t : Template) : Log.Record :=
  ⟨.debug, Log.rootLogger, "Command format: " ++ t.format⟩

/-- Sets up logging and the server. -/
def prepare (stamp : String) (m : Machine) (o : Options) (s : Settings) : Course × Machine :=
  let setup : Log.Setup := { debug := o.debug || s.debug, file := s.logFile }
  let ((routing, fault), m) := Log.Routing.configure m setup
  match fault with
  | some f => (.fault f, m)
  | none =>
    match Template.ofArguments o.command with
    | .error e => fail m e.message
    | .ok t =>
      (.serve ⟨{ tool := ⟨t, s.execution⟩, name := s.serverName }, routing⟩,
        routing.write stamp m (commandRecord t))

/-- Runs a command line up to the moment of serving. -/
def start (host : Host) (stamp : String) (m : Machine) (argv : List String) : Course × Machine :=
  match Options.parse argv with
  | .error e => failUsage m e
  | .ok .help => (.exit 0, m.print output Options.help)
  | .ok .version => (.exit 0, m.print output Options.version)
  | .ok (.run o) =>
    if o.command.isEmpty then failUsage m .noCommand
    else match Settings.load host m m.environ o.config with
      | .error (.refused e) => fail m e.message
      | .error (.fault f) => (.fault f, m)
      | .ok s => prepare stamp m o s

end Program

end CommandServer
