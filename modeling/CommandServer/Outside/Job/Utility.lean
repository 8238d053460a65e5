/-
The programs that every machine has: they print, copy, count and wait.
-/
import CommandServer.Outside.Job.Utility.Calculation
import CommandServer.Outside.Job.Utility.Character
import CommandServer.Outside.Job.Utility.Comparison
import CommandServer.Outside.Job.Utility.Line
import CommandServer.Outside.Job.Utility.Listing
import CommandServer.Outside.Job.Utility.Search
import CommandServer.Outside.Job.Utility.Sequence
import CommandServer.Outside.Job.Utility.System
import CommandServer.Outside.Job.Utility.Transfer

namespace CommandServer.Job

open CommandServer.Text

namespace Utility

/-! ## Names and time -/

/-- What a name has in front of its last part; a single dot if that is nothing. -/
def frontPart (name : String) : String :=
  let kept := if name.isEmpty then name else Path.trimSlashes name
  let front := kept.toList.reverse.dropWhile (· != '/')
  if front.isEmpty then "." else Path.trimSlashes (String.ofList front.reverse)

def basename : Behaviour := withFlags "basename" "az" fun letters names c =>
  match names with
  | [] => misuse c "basename" "missing operand"
  | [name] => .ofText c (lastPart name ++ "\n")
  | name :: suffix :: rest =>
    if letters.contains 'a' then
      .ofText c (String.join (names.map fun name => lastPart name ++ "\n"))
    else match rest with
      | extra :: _ => misuse c "basename" ("extra operand " ++ quotedWord extra)
      | [] =>
        let last := lastPart name
        let kept := if last.endsWith suffix && last != suffix
          then (last.dropEnd suffix.length).toString else last
        .ofText c (kept ++ "\n")

def dirname : Behaviour := withFlags "dirname" "z" fun _ names c =>
  if names.isEmpty then misuse c "dirname" "missing operand"
  else .ofText c (String.join (names.map fun name => frontPart name ++ "\n"))

/-- The millionths of a second that a time span amounts to. -/
def micros? (s : String) : Option Nat :=
  let cs := s.toList
  let (body, unit) := match cs.getLast? with
    | some 's' => (cs.dropLast, 1)
    | some 'm' => (cs.dropLast, 60)
    | some 'h' => (cs.dropLast, 3600)
    | some 'd' => (cs.dropLast, 86400)
    | _ => (cs, 1)
  match Binary64.read? body with
  | some (.infinite false) => some (powTen 18)
  | some x =>
    x.toRatio?.bind fun (n, d) => if n < 0 then none else some (n.toNat * unit * 1000000 / d)
  | none => none

def sleep : Behaviour := fun argv c =>
  match argv.tail with
  | [] => misuse c "sleep" "missing operand"
  | spans =>
    match spans.find? fun s => (micros? s).isNone with
    | some s => misuse c "sleep" ("invalid time interval " ++ quotedWord s)
    | none => { Report.ofChunks c 0 [] with micros := (spans.filterMap micros?).foldl (· + ·) 0 }

/-! ## Table -/

def succeed (status : Int) : Behaviour := fun _ c => .ofChunks c status []

def table : List (String × Behaviour) :=
  [("true", succeed 0), ("false", succeed 1), ("echo", echo), ("printf", printf), ("pwd", pwd),
    ("printenv", printenv), ("cat", cat), ("ls", ls), ("mkdir", mkdir), ("touch", touch),
    ("rm", rm), ("rmdir", rmdir), ("cp", cp), ("mv", mv), ("ln", ln), ("chmod", chmod),
    ("tee", tee), ("mktemp", mktemp), ("stat", stat), ("realpath", realpath),
    ("readlink", readlink), ("head", head), ("tail", tail), ("wc", wc), ("basename", basename),
    ("dirname", dirname), ("sleep", sleep), ("expr", expr), ("uname", uname),
    ("arch", teller "arch" "x86_64"),
    ("whoami", teller "whoami" "root"), ("groups", teller "groups" "root"), ("id", Utility.id),
    ("tty", tty), ("which", which), ("seq", seq), ("yes", yes), ("sort", sort),
    ("uniq", uniq), ("comm", comm), ("tac", tac), ("tr", tr), ("rev", rev), ("fold", fold),
    ("expand", expand), ("cut", cut), ("paste", paste), ("nl", nl), ("cmp", cmp), ("diff", diff),
    ("od", od), ("base64", base64), ("grep", search []), ("egrep", search [('E', "")]),
    ("fgrep", search [('F', "")]),
    ("test", fun argv c => Condition.run c "test" argv.tail),
    ("[", fun argv c => Condition.runBracketed c "[" argv.tail)]

end Utility

end CommandServer.Job
