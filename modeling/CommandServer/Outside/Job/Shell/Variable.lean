/-
Commands of a shell that concern its variables, its arguments and its settings.
-/
import CommandServer.Outside.Job.Shell.Argument

namespace CommandServer.Job.Shell

open CommandServer.Text

/-! ## Variables -/

/-- The variables with values in the order of their names, each in a line. -/
def variableLines (s : Shell) : String :=
  let sorted := s.vars.entries.mergeSort fun a b => a.1 ≤ b.1
  String.join (sorted.map fun (k, v) => assignmentLine k v)

/-- Marked names in order, with their values, behind the command that has marked them. -/
def markedLines (command : String) (names : List String) (s : Shell) : String :=
  String.join ((names.mergeSort (· ≤ ·)).map fun k =>
    command ++ " " ++ match s.vars.get? k with
      | some v => assignmentLine k v
      | none => k ++ "\n")

/-- Marks names, which may be given values first. -/
def markAll (command : String) (marked : Shell → List String) (mark : String → Shell → Shell)
    (args : List String) (s : Shell) : Shell :=
  withOptions command "p" (fun options names s =>
    if !options.isEmpty || names.isEmpty then
      (s.print (s.markedLines command (marked s))).setStatus 0
    else names.foldl (fun s a =>
      if s.ended then s
      else match splitAssignment a with
        | (name, some value) =>
          let s := s.assignFor command name value
          if s.ended then s else mark name s
        | (name, none) =>
          if Word.isName name then mark name s
          else s.refuse command (name ++ ": bad variable name")) (s.setStatus 0)) args s

def exportAll : List String → Shell → Shell := markAll "export" exported exportName

def fixName (name : String) (s : Shell) : Shell :=
  if s.isFixed name then s else { s with fixed := s.fixed ++ [name] }

def fixAll : List String → Shell → Shell := markAll "readonly" fixed fixName

/-- Removes variables, or functions. -/
def unsetAll (args : List String) (s : Shell) : Shell :=
  withOptions "unset" "vf" (fun options names s =>
    names.foldl (fun s name =>
      if s.ended then s
      else if options.getLast?.any (·.1 == 'f') then
        { s with functions := s.functions.filter (·.1 != name) }
      else if !Word.isName name then s.refuse "unset" (name ++ ": bad variable name")
      else if s.isFixed name then s.refuse "unset" (name ++ ": is read only")
      else s.unset name) (s.setStatus 0)) args s

/-- Gives a function variables of its own, which begin with the values outside of it. -/
def makeLocal (args : List String) (s : Shell) : Shell :=
  if s.calls = 0 then match s.dialect with
    | .shell => s.refuse "local" "not in a function"
    | .program => (s.complain "local: can only be used in a function").setStatus 1
  else
    args.foldl (fun (s : Shell) a =>
      let (name, value) := splitAssignment a
      if s.ended then s
      else if a = "-" then { s with outerOptions := s.outerOptions.or (some s.options) }
      else
        let s := if s.outer.any (·.1 == name) then s
          else { s with outer := (name, s.vars.get? name, s.exported.contains name) :: s.outer }
        match value with
        | some v => s.assignFor "local" name v
        | none =>
          if Word.isName name then s else s.refuse "local" (name ++ ": bad variable name"))
      (s.setStatus 0)

/-- Gives back their values to variables that were saved. -/
def giveBack (saved : List (String × Option String × Bool)) (s : Shell) : Shell :=
  saved.foldl (fun (s : Shell) (name, value, wasExported) =>
    let s := match value with
      | some v => { s with vars := s.vars.put name v }
      | none => { s with vars := s.vars.filter fun k _ => k != name }
    let others := s.exported.filter (· != name)
    let s := { s with exported := if wasExported then
      (if s.exported.contains name then s.exported else s.exported ++ [name]) else others }
    if name = "PATH" then { s with tracked := [] } else s) s

/-! ## Arguments -/

def shift (args : List String) (s : Shell) : Shell :=
  match number? (args.headD "1") with
  | none => s.refuseNumber "shift" (args.headD "")
  | some k =>
    if s.arguments.length < k then s.refuse "shift" "can't shift that many"
    else
      { s with
        arguments := s.arguments.drop k, optionIndex := 1, optionOffset := none, status := 0 }

/-! ## Settings -/

/-- The settings by name in the order in which they are listed, with the letters that some have. -/
def settings : List (String × Option Char) :=
  [("errexit", some 'e'), ("noglob", some 'f'), ("ignoreeof", some 'I'),
    ("interactive", some 'i'), ("monitor", some 'm'), ("noexec", some 'n'), ("stdin", some 's'),
    ("xtrace", some 'x'), ("verbose", some 'v'), ("vi", some 'V'), ("emacs", some 'E'),
    ("noclobber", some 'C'), ("allexport", some 'a'), ("notify", some 'b'), ("nounset", some 'u'),
    ("privileged", some 'p'), ("nolog", none), ("debug", none)]

def setOption (value : Bool) (c : Char) (s : Shell) : Shell :=
  let others := s.options.filter (· != c)
  { s with options := if value then c :: others else others }

/-- The settings in lines. -/
def settingLines (value : Bool) (s : Shell) : String :=
  let isOn (c : Option Char) : Bool := c.any s.has
  if value then
    "Current option settings\n" ++ String.join (settings.map fun (name, c) =>
      name ++ String.ofList (List.replicate (16 - name.length) ' ') ++
        (if isOn c then "on\n" else "off\n"))
  else String.join (settings.map fun (name, c) =>
    (if isOn c then "set -o " else "set +o ") ++ name ++ "\n")

/-- Reads settings in front of other arguments, which are returned; `none` if nothing that ends the
settings stands there. When a shell starts, the letter for a script may be among the settings. -/
def readSettings (atStart : Bool) : List String → Shell → Except String (List String × Bool × Shell)
  | [], s => .ok ([], false, s)
  | a :: rest, s =>
    match a.toList with
    | ['-', '-'] => .ok (rest, true, s)
    | ['-'] => .ok (rest, false, if atStart then s else (s.setOption false 'x').setOption false 'v')
    | sign :: letters =>
      if sign ≠ '-' ∧ sign ≠ '+' then .ok (a :: rest, false, s)
      else do
        let value := sign = '-'
        let s ← letters.foldlM (fun (s : Shell) c =>
          if c = 'o' ∨ (atStart ∧ (c = 'c' ∨ c = 'l')) then .ok (s.setOption true c)
          else if settings.any fun e => e.2 = some c then .ok (s.setOption value c)
          else .error ("Illegal option -" ++ String.ofList [c])) s
        if !s.has 'o' then readSettings atStart rest s
        else
          let s := s.setOption false 'o'
          match rest with
          | [] => .ok ([], false, s.print (s.settingLines value))
          | name :: rest =>
            match settings.lookup name with
            | some c => readSettings atStart rest ((c.map fun c => s.setOption value c).getD s)
            | none => .error ("Illegal option -o " ++ name)
    | [] => .ok (a :: rest, false, s)

/-- Turns off the control of commands beside the shell, which needs a terminal. -/
def withoutTerminal (complain : String → Shell → Shell) (s : Shell) : Shell :=
  if s.has 'm' then
    (complain "can't access tty; job control turned off" s).setOption false 'm'
  else s

/-- The settings of the shell, and its arguments. -/
def set (args : List String) (s : Shell) : Shell :=
  if args.isEmpty then (s.print s.variableLines).setStatus 0
  else match readSettings false args s with
    | .error message => s.refuse "set" message
    | .ok (rest, closed, s) =>
      let s := (s.withoutTerminal fun message s => s.complain ("set: " ++ message)).setStatus 0
      if rest.isEmpty && !closed then s
      else { s with arguments := rest, optionIndex := 1, optionOffset := none }

/-! ## Reading -/

/-- The characters of a line, each with whether a backslash keeps it, and whether there was an end of
the line; `count` bytes have been taken. -/
def takeLine (raw : Bool) : List Char → Nat → List (Char × Bool) → List (Char × Bool) × Bool × Nat
  | [], count, line => (line.reverse, false, count)
  | '\n' :: _, count, line => (line.reverse, true, count + 1)
  | '\x00' :: r, count, line => takeLine raw r (count + 1) line
  | '\\' :: c :: r, count, line =>
    if raw then takeLine raw (c :: r) (count + 1) (('\\', false) :: line)
    else if c = '\n' then takeLine raw r (count + 2) line
    else takeLine raw r (count + 2) ((c, true) :: line)
  | ['\\'], count, line => ((if raw then ('\\', false) :: line else line).reverse, false, count + 1)
  | c :: r, count, line => takeLine raw r (count + 1) ((c, false) :: line)

/-- Divides a line among a number of names. The last one takes all that is left, but for blanks at
its end, and one separator if nothing else follows. -/
def divideLine (separators : Separators) : Nat → List (Char × Bool) → List String
  | 0, _ => []
  | names + 1, line =>
    let isSeparator (x : Char × Bool) : Bool := !x.2 && separators.contains x.1
    let isBlank (x : Char × Bool) : Bool := isSeparator x && defaultSeparators.contains x.1
    let trim (l : List (Char × Bool)) : List (Char × Bool) :=
      (l.reverse.dropWhile isBlank).reverse
    let text (l : List (Char × Bool)) : String := String.ofList (l.map Prod.fst)
    let line := line.dropWhile isBlank
    let word := line.takeWhile (!isSeparator ·)
    let after := (line.drop word.length).dropWhile isBlank
    let rest := match after with
      | x :: r => if isSeparator x then r.dropWhile isBlank else after
      | [] => []
    if names = 0 then
      if rest.isEmpty then [text word] else [text (trim line)]
    else text word :: divideLine separators names rest

/-- Reads a line of the input into variables. -/
def readLine (args : List String) (s : Shell) : Shell :=
  withOptions "read" "p:r" (fun options names s =>
    if names.isEmpty then s.refuse "read" "arg count"
    else
      let raw := options.any (·.1 == 'r')
      let (line, complete, count) := takeLine raw (charsOfBytes (s.inputAt 0)) 0 []
      let values := divideLine s.separators names.length line
      let s := (s.dropInput 0 count).setStatus (if complete then 0 else 1)
      (names.zip (values ++ names.map fun _ => "")).foldl (fun (s : Shell) (name, value) =>
        if s.status = 2 then s else s.assignFor "read" name value) s) args s

/-! ## Options of a script -/

/-- Where the reading of options stands: how many arguments are behind, and how far the letters of
the last one have been read. -/
structure OptionReading where
  index : Nat
  offset : Option Nat

/-- The next option among arguments: its letter, its argument, a complaint, and where the reading
stands then; no letter means that there is none. -/
def nextOption (known : List Char) (args : List String) (r : OptionReading) :
    Option Char × Option String × Option String × OptionReading :=
  let silent := known.head? = some ':'
  let inside := match r.offset with
    | some k => if r.index ≤ 1 then [] else ((args.getD (r.index - 2) "").toList.drop k)
    | none => []
  let start : Option (List Char × Nat) :=
    if !inside.isEmpty then some (inside, r.index)
    else match (args[r.index - 1]?).map String.toList with
      | some ['-', '-'] => some ([], r.index + 1)
      | some ('-' :: c :: letters) => some (c :: letters, r.index + 1)
      | _ => none
  match start with
  | none => (none, none, none, ⟨r.index, none⟩)
  | some ([], index) => (none, none, none, ⟨index, none⟩)
  | some (c :: letters, index) =>
    let width := (args.getD (index - 2) "").length
    let more : OptionReading := ⟨index, some (width - letters.length)⟩
    let name := String.ofList [c]
    match if c = ':' then [] else known.dropWhile (· != c) with
    | [] =>
      if silent then (some '?', some name, none, more)
      else (some '?', none, some ("Illegal option -" ++ name), more)
    | _ :: ':' :: _ =>
      if !letters.isEmpty then (some c, some (String.ofList letters), none, ⟨index, none⟩)
      else match args[index - 1]? with
        | some a => (some c, some a, none, ⟨index + 1, none⟩)
        | none =>
          if silent then (some ':', some name, none, more)
          else (some '?', none, some ("No arg for -" ++ name ++ " option"), more)
    | _ => (some c, some "", none, more)

def getopts (args : List String) (s : Shell) : Shell :=
  match args with
  | known :: name :: given =>
    let args := if given.isEmpty then s.arguments else given
    let reading : OptionReading := if args.length + 1 < s.optionIndex then ⟨1, none⟩
      else ⟨s.optionIndex, s.optionOffset⟩
    let (letter, argument, complaint, after) := nextOption known.toList args reading
    let s := match complaint with
      | some message => s.warn (message ++ "\n")
      | none => s
    let s := match argument, complaint with
      | some a, _ => s.put "OPTARG" a
      | none, some _ => s.unset "OPTARG"
      | none, none => s
    let s := s.put "OPTIND" (toString after.index)
    let s := s.assignFor "getopts" name (String.ofList [letter.getD '?'])
    let s := { s with optionIndex := after.index, optionOffset := after.offset }
    if s.status = 2 then s else s.setStatus (if letter.isSome then 0 else 1)
  | _ => s.refuse "getopts" "Usage: getopts optstring var [arg...]"

end CommandServer.Job.Shell
