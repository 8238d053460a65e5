/-
The server of one tool: it lists the tool and answers calls by name. A call that does not succeed
is an error of the call, with the text that the caller sees.
-/
import CommandServer.Tool

namespace CommandServer

def serverName : String := "studio-mcp"

def serverVersion : String := "0.3.0"

structure Server where
  tool : Tool
  name : String := serverName
  version : String := serverVersion

/-- Why a call has no content to show. -/
inductive CallError where
  | unknownTool (name : String)
  | failed (text : String)
  | fault (f : Fault)
  deriving DecidableEq, Repr

def CallError.message : CallError → String
  | .unknownTool name => "Unknown tool: " ++ name
  | .failed text => text
  | .fault f => f.message

namespace Server

/-- The tool as clients see it. -/
def definition (s : Server) : Value :=
  .ofPairs [("name", .text s.tool.name), ("description", .text s.tool.description),
    ("inputSchema", s.tool.inputSchema)]

/-- The content of a reply, or the error that it stands for. -/
def content : Except Fault Reply → Except CallError String
  | .error f => .error (.fault f)
  | .ok r => if r.isError then .error (.failed r.text) else .ok r.text

/-- A call of a tool by its name. -/
def call {σ : Type} (stack : Stack) (s : Server) (execute : Executor σ) (name : String)
    (args : Arguments) (world : σ) : Step σ (Except CallError String) :=
  if name = s.tool.name then
    let step := s.tool.call stack execute args world
    ⟨content step.answer, step.records, step.state⟩
  else ⟨.error (.unknownTool name), [], world⟩

/-! ## Runs -/

inductive Operation where
  | list
  | call (name : String) (args : Arguments)

inductive Answer where
  | tools (definitions : List Value)
  | called (result : Except CallError String)

def step {σ : Type} (stack : Stack) (s : Server) (execute : Executor σ) (op : Operation)
    (world : σ) : Step σ Answer :=
  match op with
  | .list => ⟨.tools [s.definition], [], world⟩
  | .call name args =>
    let r := s.call stack execute name args world
    ⟨.called r.answer, r.records, r.state⟩

/-- The answers to a run of operations, each with the records that it logged. -/
def runAll {σ : Type} (stack : Stack) (s : Server) (execute : Executor σ) :
    List Operation → σ → List (Answer × List Log.Record) × σ
  | [], world => ([], world)
  | op :: ops, world =>
    let r := s.step stack execute op world
    let (answers, world) := s.runAll stack execute ops r.state
    ((r.answer, r.records) :: answers, world)

/-- The record that announces the tool. -/
def servingRecord (s : Server) : Log.Record :=
  .ofDebug "studio" ("Serving tool " ++ s.tool.name ++ ": " ++ s.tool.description)

end Server

end CommandServer
