/-
Programs that print what they are given.
-/
import CommandServer.Outside.Job.Condition
import CommandServer.Outside.Job.Utility.Option

namespace CommandServer.Job

open CommandServer.Text

namespace Utility

/-! ## Printing -/

def isEchoOption (s : String) : Bool :=
  match s.toList with
  | '-' :: letters => !letters.isEmpty && letters.all fun c => c == 'n' || c == 'e' || c == 'E'
  | _ => false

/-- Whether escapes count, by the options in front of the words. -/
def echoEscapes (options : List String) : Bool :=
  ((options.flatMap String.toList).filter fun c => c == 'e' || c == 'E').getLast? == some 'e'

/-- Words with blanks between them. -/
def echoText (escapes newline : Bool) (words : List String) : List UInt8 :=
  let text := String.intercalate " " words
  let (bytes, stopped) :=
    if escapes then unescape .program (text.length + 1) text.toList else (encodeUtf8 text, false)
  if newline && !stopped then bytes ++ [0x0A] else bytes

def echo : Behaviour := fun argv c =>
  let options := argv.tail.takeWhile isEchoOption
  let words := argv.tail.drop options.length
  let newline := !(options.any fun o => o.toList.contains 'n')
  .ofBytes c (echoText (echoEscapes options) newline words)

def printedReport (c : Context) (program : String) (p : Printed) : Report :=
  .ofChunks c p.status
    (⟨.out, p.out⟩ :: p.complaints.map fun s => ⟨.err, encodeUtf8 (program ++ ": " ++ s ++ "\n")⟩)

def printf : Behaviour := fun argv c =>
  let args := if argv.tail.head? = some "--" then argv.tail.tail else argv.tail
  match args with
  | [] => misuse c "printf" "missing operand"
  | format :: args => printedReport c "printf" (Job.printf .program format args)

def pwd : Behaviour := fun _ c => .ofText c ("/" ++ String.intercalate "/" c.working ++ "\n")

def environmentLines (e : Environment) : String :=
  String.join (e.entries.map fun (k, v) => k ++ "=" ++ v ++ "\n")

def printenv : Behaviour := fun argv c =>
  if argv.tail.isEmpty then .ofText c (environmentLines c.environment)
  else
    let values := argv.tail.map c.environment.get?
    .ofChunks c (if values.all Option.isSome then 0 else 1)
      [⟨.out, encodeUtf8 (String.join ((values.filterMap id).map (· ++ "\n")))⟩]

end Utility

end CommandServer.Job
