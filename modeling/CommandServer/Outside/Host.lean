/-
What the program leaves to others, where it is run by itself. Documents are read in the language
that they are written in, and paths are resolved by their texts alone, as on a machine without
links. The modules below this one are no part of the program: the launcher carries out the commands
of a machine that is only a tree of files, the reader stands for a library. They are there to run
the program. What is stated of the program holds with any reader, any resolver and any launcher.
-/
import CommandServer.Outside.Yaml.Document
import CommandServer.Settings.Load

namespace CommandServer

/-- The levels of mappings that settings have: the document, its parts, and the variables. -/
def Yaml.settingsLevels : Nat := 3

/-- Resolves paths by their texts. -/
def Path.resolver (working : Path) : Resolver := fun p =>
  if p.hasNul then .error .embeddedNul else .ok (p.resolve working)

/-- The host for a working directory. -/
def Host.ofWorking (working : Path) : Host where
  read := Yaml.read Yaml.settingsLevels
  resolve := Path.resolver working

end CommandServer
