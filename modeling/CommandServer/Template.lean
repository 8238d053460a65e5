/-
Command templates: the command itself, which is never templated, the tokens of its words, and what
follows from them: the name and description of the tool, its input schema, and its argument vector
for given arguments.
-/
import CommandServer.Template.Render

namespace CommandServer

open CommandServer.Template
open CommandServer.Text

inductive TemplateError where
  | noCommand
  | blankCommand
  deriving DecidableEq, Repr

def TemplateError.message : TemplateError → String
  | .noCommand => "cannot create blueprint: no command provided"
  | .blankCommand => "cannot create blueprint: empty command provided"

structure Template where
  command : String
  words : List (List Token)
  deriving DecidableEq, Repr

namespace Template

/-- The template of a command line. -/
def ofArguments : List String → Except TemplateError Template
  | [] => .error .noCommand
  | command :: words =>
    if allBlank command.toList then .error .blankCommand
    else .ok ⟨command, words.map tokenize⟩

def schema (t : Template) : Schema := .ofWords t.words

/-- The characters of a tool name; all others become underscores. -/
def toolNameChar (c : Char) : Char := if isNameChar c then c else '_'

def toolName (t : Template) : String := t.command.map toolNameChar

/-- An empty part, or one with a blank in it, stands in double quotes. -/
def quoteDisplay (part : String) : String :=
  if part.isEmpty || part.toList.contains ' ' then "\"" ++ part ++ "\"" else part

def displayWord (tokens : List Token) : String :=
  String.join (tokens.map Token.display)

/-- The command line as people see it. -/
def format (t : Template) : String :=
  String.intercalate " " ((t.command :: t.words.map displayWord).map quoteDisplay)

def description (t : Template) : String :=
  "Run the shell command `" ++ t.format ++ "`"

/-- Why there is no argument vector: the arguments are refused, or a value cannot be written. -/
inductive RenderFailure where
  | refused (e : RenderError)
  | fault (f : Fault)
  deriving DecidableEq, Repr

/-- The argument vector for given arguments. -/
def render (stack : Stack) (t : Template) (args : Arguments) :
    Except RenderFailure (List String) := do
  (validate t.schema args).mapError .refused
  let contributions ← (t.words.mapM (renderWord stack args)).mapError .fault
  return t.command :: contributions.flatten

end Template

end CommandServer
