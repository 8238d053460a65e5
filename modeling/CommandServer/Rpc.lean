/-
The protocol in which a client talks to the server. Every request with an identifier gets one reply
with the same identifier; a notification gets none. A call that fails is a result that says so, and
only a request that is not understood is an error of the protocol.
-/
import CommandServer.Program

namespace CommandServer

namespace Rpc

/-- A request has an identifier, a notification has none. -/
structure Message where
  method : String
  id : Option Value
  params : Value

def field (name : String) : Value → Value
  | .record es => (es.lookup name).getD .null
  | _ => .null

/-- The message that a record spells. -/
def Message.ofValue? (v : Value) : Option Message :=
  match field "method" v with
  | .text method =>
    let id := match field "id" v with
      | .null => none
      | id => some id
    some ⟨method, id, field "params" v⟩
  | _ => none

/-! ## Replies -/

inductive RequestError where
  | unsupported
  | invalid
  deriving DecidableEq, Repr

def RequestError.toValue : RequestError → Value
  | .unsupported => .ofPairs [("code", .int (-32601)), ("message", .text "Method not found")]
  | .invalid => .ofPairs
    [("code", .int (-32602)), ("message", .text "Invalid request parameters"), ("data", .text "")]

/-- The reply to a request with the given identifier. -/
def reply (id : Value) (body : String × Value) : Value :=
  .ofPairs [("jsonrpc", .text "2.0"), ("id", id), body]

def resultBody (v : Value) : String × Value := ("result", v)

def errorBody (e : RequestError) : String × Value := ("error", e.toValue)

/-- What the server can do. -/
def capabilities : Value :=
  .ofPairs [("experimental", .record []), ("tools", .ofPairs [("listChanged", .bool false)])]

/-- The answer to the first request: the version is that of the client. -/
def welcome (s : Server) (version : String) : Value :=
  .ofPairs [("protocolVersion", .text version), ("capabilities", capabilities),
    ("serverInfo", .ofPairs [("name", .text s.name), ("version", .text s.version)])]

def toolList (s : Server) : Value := .ofPairs [("tools", .list [s.definition])]

/-- The content of a call, which is one text, and whether it is that of an error. -/
def callResult (result : Except CallError String) : Value :=
  let (text, failed) := match result with
    | .ok text => (text, false)
    | .error e => (e.message, true)
  .ofPairs [("content", .list [.ofPairs [("type", .text "text"), ("text", .text text)]]),
    ("isError", .bool failed)]

/-- Methods of the protocol that this server has no use for. -/
def unsupportedMethods : List String :=
  ["prompts/list", "resources/list", "resources/templates/list"]

/-! ## Answering -/

/-- The arguments of a call; none count as an empty record. -/
def arguments? : Value → Option Arguments
  | .null => some (.ofPairs [])
  | .record es => some (.ofPairs es)
  | _ => none

/-- What a request is answered with. -/
def answer {σ : Type} (stack : Stack) (s : Server) (execute : Executor σ) (m : Message)
    (world : σ) : Step σ (String × Value) :=
  let ok (v : Value) : Step σ (String × Value) := ⟨resultBody v, [], world⟩
  let refuse (e : RequestError) : Step σ (String × Value) := ⟨errorBody e, [], world⟩
  if m.method = "initialize" then
    match field "protocolVersion" m.params with
    | .text version => ok (welcome s version)
    | _ => refuse .invalid
  else if m.method = "ping" then ok (.record [])
  else if m.method = "tools/list" then ok (toolList s)
  else if m.method = "tools/call" then
    match field "name" m.params, arguments? (field "arguments" m.params) with
    | .text name, some args =>
      let step := s.call stack execute name args world
      ⟨resultBody (callResult step.answer), step.records, step.state⟩
    | _, _ => refuse .invalid
  else refuse (if unsupportedMethods.contains m.method then .unsupported else .invalid)

/-- The reply to a message, if there is one. -/
def respond {σ : Type} (stack : Stack) (s : Server) (execute : Executor σ) (m : Message)
    (world : σ) : Step σ (Option Value) :=
  match m.id with
  | none => ⟨none, [], world⟩
  | some id =>
    let step := answer stack s execute m world
    ⟨some (reply id step.answer), step.records, step.state⟩

/-! ## Sessions -/

/-- One message on a machine: the records that it leads to are written there. -/
def exchange (stack : Stack) (stamp : String) (service : Service) (launcher : Launcher Machine)
    (m : Message) (machine : Machine) : Option Value × Machine :=
  let execute := Tool.executor machine.environ launcher
  let step := respond stack service.server execute m machine
  (step.answer, service.routing.writeAll stamp step.state step.records)

/-- The machine on which the service has been announced. -/
def announce (stamp : String) (service : Service) (machine : Machine) : Machine :=
  service.routing.write stamp machine service.server.servingRecord

/-- The replies to a session, in order. -/
def converse (stack : Stack) (stamp : String) (service : Service) (launcher : Launcher Machine) :
    List Message → Machine → List Value × Machine
  | [], machine => ([], machine)
  | m :: ms, machine =>
    let (reply, machine) := exchange stack stamp service launcher m machine
    let (replies, machine) := converse stack stamp service launcher ms machine
    (reply.toList ++ replies, machine)

/-- A whole session. -/
def serve (stack : Stack) (stamp : String) (service : Service) (launcher : Launcher Machine)
    (ms : List Message) (machine : Machine) : List Value × Machine :=
  converse stack stamp service launcher ms (announce stamp service machine)

end Rpc

end CommandServer
