/-
What stands in words for something else: the homes of users behind a tilde, and the arguments of a
shell.
-/
import CommandServer.Outside.Job.Shell.Arithmetic

namespace CommandServer.Job.Shell

open CommandServer.Text

/-! ## Homes -/

/-- The home directory of a user, or of the one who runs the shell. -/
def home? (s : Shell) (user : String) : Option String :=
  match user with
  | "" => s.vars.get? "HOME"
  | "root" => some "/root"
  | _ => none

/-- Whether an unquoted character may stand in the name behind a tilde. -/
def isUserPart (inAssignment : Bool) (p : WordPart) : Bool :=
  match p with
  | .literal text false => text != "/" && !(inAssignment && text == ":")
  | _ => false

/-- Whether the name behind a tilde may end in front of the rest of a word. -/
def endsUser (rest : Word) : Bool :=
  match rest with
  | [] => true
  | .literal _ false :: _ => true
  | _ => false

/-- Home directories in place of the tildes at the start of a word, and behind the colons of an
assignment. -/
def expandTildesFrom (s : Shell) (inAssignment : Bool) : Nat → Bool → Word → Word
  | 0, _, w => w
  | _ + 1, _, [] => []
  | n + 1, atStart, part :: rest =>
    match atStart, part with
    | true, .literal "~" false =>
      let (user, behind) := rest.span (isUserPart inAssignment)
      match if endsUser behind then (Word.plain? user).bind s.home? else none with
      | some home => .literal home true :: expandTildesFrom s inAssignment n false behind
      | none => part :: expandTildesFrom s inAssignment n false rest
    | _, .literal ":" false => part :: expandTildesFrom s inAssignment n inAssignment rest
    | _, part => part :: expandTildesFrom s inAssignment n false rest

def expandTildes (s : Shell) (inAssignment : Bool) (w : Word) : Word :=
  s.expandTildesFrom inAssignment (w.length + 1) true w

/-! ## Parameters -/

/-- All arguments as one text. -/
def joinedArguments (s : Shell) : String := String.intercalate s.joint s.arguments

/-- Whether a parameter stands for all arguments. -/
def isList (name : String) : Bool := name == "@" || name == "*"

/-- The value of a parameter; all arguments together count as none if there is not one. -/
def value? (s : Shell) (name : String) : Option String :=
  if isList name then (if s.arguments.isEmpty then none else some s.joinedArguments)
  else s.parameter? name

/-- The pieces of the value of a parameter. Arguments stay apart, but for those in quotation marks
that are asked for as one. -/
def valueItems (s : Shell) (name : String) (quoted : Bool) : List FieldItem :=
  if isList name && !(name == "*" && quoted) then
    ((s.arguments.map (FieldItem.ofText quoted (!quoted))).intersperse [.gap quoted]).flatten
  else FieldItem.ofText quoted (!quoted) ((s.value? name).getD "")

/-- The literal parts at the start of a word as pieces, and what follows them. -/
def literalItems (splits : Bool) : Word → List FieldItem × Word
  | .literal "" true :: w =>
    let (items, rest) := literalItems splits w
    (.mark :: items, rest)
  | .literal text quoted :: w =>
    let (items, rest) := literalItems splits w
    (FieldItem.ofText quoted (splits && !quoted) text ++ items, rest)
  | w => ([], w)

/-- A word without the mark of quotation marks that hold nothing but arguments, of which there are
none. -/
def withoutIdleMark (s : Shell) (w : Word) : Word :=
  match w with
  | .literal "" true :: .parameter "@" use word true :: rest =>
    if s.arguments.isEmpty then .parameter "@" use word true :: rest else w
  | w => w

/-- The commands whose arguments may be assignments, which stay in one piece. -/
def takesAssignments (fields : List String) : Bool :=
  match fields.dropWhile (· == "command") with
  | name :: _ => ["alias", "export", "local", "readonly"].contains name
  | [] => false

/-- Text without the line feeds at its end. -/
def withoutLastBreaks (s : String) : String :=
  String.ofList ((s.toList.reverse.dropWhile (· == '\n')).reverse)

/-- The sinks that descriptors lead to. -/
def sinks (s : Shell) : List Sink :=
  s.targets.filterMap fun t => match t.2 with
    | .sink k => some k
    | _ => none

end CommandServer.Job.Shell
