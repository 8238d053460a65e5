/-
The tool behind a command template: its name, its description, its input schema, and what a call
with given arguments answers.
-/
import CommandServer.Execution
import CommandServer.Template
import CommandServer.Value.Json

namespace CommandServer

open CommandServer.Template

structure Tool where
  template : Template
  execution : ExecutionSettings

/-- The answer to a call. -/
structure Reply where
  text : String
  isError : Bool
  deriving DecidableEq, Repr

/-- Runs requests, one after the other, in a world that they may change. -/
abbrev Executor (σ : Type) := ExecutionRequest → σ → Step σ (Except Fault ExecutionResult)

namespace Tool

def name (t : Tool) : String := t.template.toolName

def description (t : Tool) : String := t.template.description

def inputSchema (t : Tool) : Value := t.template.schema.toValue

/-- The request that a call makes. -/
def request (stack : Stack) (t : Tool) (args : Arguments) :
    Except RenderFailure ExecutionRequest :=
  (t.template.render stack args).map fun argv => ⟨argv, t.execution⟩

def Reply.ofResult (r : ExecutionResult) : Reply := ⟨r.output, !r.success⟩

def Reply.ofRenderError (e : RenderError) : Reply := ⟨"Validation error: " ++ e.message, true⟩

def debug (message : String) : Log.Record := .ofDebug "tool" message

def resultRecord (r : ExecutionResult) : Log.Record :=
  debug ("Tool result - success: " ++ truthText r.success ++ ", output length: " ++
    Text.integerText r.output.length)

/-- A call: bad arguments are answered at once, good ones by running the command. First of all the
arguments are written for the log, whether or not it is kept. -/
def call {σ : Type} (stack : Stack) (t : Tool) (execute : Executor σ) (args : Arguments)
    (world : σ) : Step σ (Except Fault Reply) :=
  match args.toValue.json stack.free with
  | .error f => ⟨.error f, [], world⟩
  | .ok text =>
    let called := debug ("Tool called with args: " ++ text)
    match t.request stack args with
    | .error (.refused e) =>
      ⟨.ok (Reply.ofRenderError e), [called, debug ("Validation error: " ++ e.message)], world⟩
    | .error (.fault f) => ⟨.error f, [called], world⟩
    | .ok request =>
      let built := debug ("Built command: " ++ String.intercalate " " request.argv)
      let step := execute request world
      match step.answer with
      | .error f => ⟨.error f, called :: built :: step.records, step.state⟩
      | .ok r => ⟨.ok (Reply.ofResult r), called :: built :: step.records ++ [resultRecord r],
          step.state⟩

/-- The executor that starts processes through a launcher. -/
def executor {σ : Type} (environ : Environment) (launcher : Launcher σ) : Executor σ :=
  Execution.run environ launcher

end Tool

end CommandServer
