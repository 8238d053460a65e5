/-
Programs that say where and for whom they run, and where other programs are.
-/
import CommandServer.Outside.Job.Utility.File

namespace CommandServer.Job

open CommandServer.Text

namespace Utility

/-! ## The machine -/

/-- The names of a system: each with its letter, in the order in which they are shown. -/
def systemNames : List (Char × String) :=
  [('s', "Linux"), ('n', "localhost"), ('r', "6.1.0"), ('v', "#1 SMP"), ('m', "x86_64"),
    ('o', "GNU/Linux")]

def uname : Behaviour := withArguments "uname" "asnrvmpio" [("all", 'a'), ("kernel-name", 's'),
    ("nodename", 'n'), ("kernel-release", 'r'), ("machine", 'm'), ("operating-system", 'o')]
  fun options operands c =>
    match operands with
    | extra :: _ => misuse c "uname" ("extra operand " ++ quotedWord extra)
    | [] =>
      let shown := systemNames.filter fun (letter, _) =>
        hasOption options 'a' || hasOption options letter || (options.isEmpty && letter = 's')
      .ofText c (String.intercalate " " (shown.map Prod.snd) ++ "\n")

/-- A program that tells one thing and takes no operands. -/
def teller (program text : String) : Behaviour := withFlags program "" fun _ operands c =>
  match operands with
  | extra :: _ => misuse c program ("extra operand " ++ quotedWord extra)
  | [] => .ofText c (text ++ "\n")

/-! ## The user -/

/-- Tells whether the input is a terminal, which it never is. -/
def tty : Behaviour := withFlags "tty" "s" fun letters _ c =>
  .ofChunks c 1 (if letters.contains 's' then [] else [⟨.out, encodeUtf8 "not a tty\n"⟩])

def id : Behaviour := withArguments "id" "agGnruz" [("user", 'u'), ("group", 'g'), ("groups", 'G'),
    ("name", 'n'), ("real", 'r')] fun options operands c =>
  let single := ['u', 'g', 'G'].filter (hasOption options)
  match operands.filter (· != "root"), single with
  | name :: _, _ => .complaint c 1 "id" (quotedWord name ++ ": no such user")
  | [], [] =>
    if hasOption options 'n' || hasOption options 'r' then
      .complaint c 1 "id" "cannot print only names or real IDs in default format"
    else .ofText c "uid=0(root) gid=0(root) groups=0(root)\n"
  | [], [_] => .ofText c (if hasOption options 'n' then "root\n" else "0\n")
  | [], _ => .complaint c 1 "id" "cannot print \"only\" of more than one choice"

/-! ## Programs -/

/-- The files that a name means along the search path. -/
def programFiles (c : Context) (name : String) : List String :=
  let candidates := if name.toList.contains '/' then [name]
    else (((c.environment.get? "PATH").getD "").splitOn ":").map fun d =>
      (if d.isEmpty then "." else d) ++ "/" ++ name
  candidates.filter fun file => match c.files.find c.working file with
    | .ok (place, _) => c.files.isStartable place
    | .error _ => false

def which : Behaviour := fun argv c =>
  match OptionNames.read ⟨['a', 's'], []⟩ true argv.tail with
  | .error message =>
    let letter := (message.toList.reverse.drop 1).headD ' '
    .ofChunks c 2 [⟨.err, encodeUtf8 ("Illegal option -" ++ String.ofList [letter] ++ "\n")⟩,
      ⟨.out, encodeUtf8 "Usage: /usr/bin/which [-as] args\n"⟩]
  | .ok (options, names) =>
    let found := names.map fun name =>
      let files := programFiles c name
      if hasOption options 'a' then files else files.take 1
    let status := if names.isEmpty || found.any List.isEmpty then 1 else 0
    let shown := if hasOption options 's' then [] else found.flatten
    .ofChunks c status [⟨.out, encodeUtf8 (String.join (shown.map (· ++ "\n")))⟩]

end Utility

end CommandServer.Job
