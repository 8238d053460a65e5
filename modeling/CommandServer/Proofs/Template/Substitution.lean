/-
Rendering as substitution. A word with a text among its tokens becomes one argument: the word
itself, with the text of its value in the place of each field and every other character where it
was. What a field is replaced by depends on the arguments, which segments are fields does not, so
nothing in a value is ever read as a field. The one thing that can come in the way is a value that
cannot be written.
-/
import CommandServer.Proofs.Template.Tokens
import CommandServer.Proofs.Template.Words
import CommandServer.Proofs.Value

namespace CommandServer.Template

open CommandServer.Text

section Filling

variable (stack : Stack) (args : Arguments)

end Filling

end CommandServer.Template
