/-
The texts that explain the command line.
-/
import CommandServer.Options
import CommandServer.Server

namespace CommandServer

namespace Options

def usage : String :=
  "usage: studio-mcp [--debug] <command> --example \"\x7b\x7breq # required arg\x7d\x7d\" " ++
    "\"[args... # array of args]\"\n"

/-- What the program is, and what its options mean. -/
def optionLines : List String :=
  ["",
    "Run a single command as an MCP server over stdio.",
    "",
    "positional arguments:",
    "  command          The command to run followed by its (templated) arguments.",
    "",
    "options:",
    "  -h, --help       show this help message and exit",
    "  --debug          Print debug logs to stderr to diagnose MCP server issues.",
    "  --config CONFIG  Path to a .studio-mcp.yml file or the directory containing",
    "                   it.",
    "  --version        show program's version number and exit",
    ""]

/-- What the words of a command may hold. -/
def templateLines : List String :=
  ["The command starts at the first non-flag argument. Every later argument is a",
    "shell word that may contain templates:",
    "",
    "  \"\x7b\x7breq # required arg\x7d\x7d\"     a required string named 'req'",
    "  \"[opt # optional string]\"    an optional string named 'opt'",
    "  \"[args... # array of args]\"  an array of strings expanded into separate words",
    "  \"[-f]\" / \"[--force]\"         a boolean flag passed through when true",
    "  \"https://en.wikipedia.org/wiki/\x7b\x7bpage\x7d\x7d\"  a partially templated word",
    "",
    "Example:",
    "  studio-mcp say -v siri \"\x7b\x7bspeech # a concise phrase to " ++
      "say outloud to the user\x7d\x7d\""]

def linesText (lines : List String) : String := String.join (lines.map (· ++ "\n"))

def help : String := usage ++ linesText (optionLines ++ templateLines)

def version : String := serverName ++ " " ++ serverVersion ++ "\n"

end Options

/-- How an error of the command line is reported. -/
def OptionError.report (e : OptionError) : String :=
  Options.usage ++ serverName ++ ": error: " ++ e.message ++ "\n"

end CommandServer
