/-
Commands of a shell that print their arguments.
-/
import CommandServer.Outside.Job.Shell.Argument

namespace CommandServer.Job.Shell

open CommandServer.Text

/-- Words printed with or without a line feed. One dialect reads escapes in all words, the other
one as its options say. -/
def echo (words : List String) (s : Shell) : Shell :=
  let words := words.map ofOctets
  let options := words.takeWhile Utility.isEchoOption
  let bytes := match s.dialect with
    | .program =>
      Utility.echoText (Utility.echoEscapes options)
        (!(options.any fun o => o.toList.contains 'n')) (words.drop options.length)
    | .shell =>
      let newline := words.head? ≠ some "-n"
      let text := String.intercalate " " (if newline then words else words.tail)
      let (bytes, stopped) := unescape .shell (text.length + 1) text.toList
      if newline && !stopped then bytes ++ [0x0A] else bytes
  (s.printBytes bytes).setStatus 0

def printf (args : List String) (s : Shell) : Shell :=
  withOptions "printf" "" (fun _ operands s =>
    match operands.map ofOctets with
    | [] =>
      s.refuse "printf" "usage: printf format [arg ...]"
    | format :: args =>
      let p := Job.printf s.dialect format args
      let s := p.complaints.foldl (fun s m => s.complain ("printf: " ++ octets m))
        (s.printBytes p.out)
      s.setStatus p.status) args s

end CommandServer.Job.Shell
