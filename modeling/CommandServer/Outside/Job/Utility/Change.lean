/-
Programs that make and remove files and directories, and change who may use them.
-/
import CommandServer.Outside.Job.Permission
import CommandServer.Outside.Job.Utility.File

namespace CommandServer.Job

open CommandServer.Text

namespace Utility

/-! ## Steps -/

/-- The files after a step, what is told of it, and what kept it from being done to the end. -/
structure Change where
  files : Files
  told : String := ""
  problem : Option String := none

/-- Changes the files under each name in turn; a name that cannot be changed gets a message. -/
def changeEach {α : Type} (program : String) (change : Files → α → Except String Change)
    (names : List α) (c : Context) : Report :=
  names.foldl (fun r name =>
    match change r.files name with
    | .ok after =>
      let told : List Chunk := if after.told.isEmpty then [] else [⟨.out, encodeUtf8 after.told⟩]
      { r with
        files := after.files
        status := if after.problem.isSome then 1 else r.status
        chunks := r.chunks ++ told ++ after.problem.toList.map (messageOf program) }
    | .error message =>
      { r with status := 1, chunks := r.chunks ++ [messageOf program message] })
    (.ofChunks c 0 [])

/-- The text of a step if it is to be told. -/
def toldIf (verbose : Bool) (text : String) : String := if verbose then text ++ "\n" else ""

/-! ## Directories -/

/-- Makes a directory and those that are missing on the way to it. The starts of its name come in
the order of the way. What has been made is told. -/
def makeAlong (c : Context) (told : String → String) (refusal : String → Obstacle → String) :
    List String → Change → Change
  | [], x => x
  | start :: rest, x =>
    match x.files.ensureDirectory c.working start c.mask with
    | .ok files =>
      let isNew := !x.files.isDirectory c.working start
      makeAlong c told refusal rest
        { x with files, told := if isNew then x.told ++ told start else x.told }
    | .error .occupied =>
      { x with problem := some (refusal start (if rest.isEmpty then .occupied else .notADirectory)) }
    | .error o => { x with problem := some (refusal start o) }

/-- The starts of a name that end where one of its parts ends, and the name as it is. -/
def startsOf (name : String) : List String :=
  let cs := name.toList
  let ends := (List.range cs.length).filter fun k =>
    cs[k]? != some '/' && cs[k + 1]? == some '/' && (cs.drop (k + 1)).any (· != '/')
  ends.map (fun k => String.ofList (cs.take (k + 1))) ++ [name]

/-- The tree with the permissions that are asked for at the place of a name. -/
def withMode (c : Context) (mode : Option String) (name : String) (fs : Files) : Files :=
  match mode, fs.locate c.working name with
  | some text, .ok place =>
    match modeFor? c.mask true text 0o777 with
    | some mode => fs.setMode place mode
    | none => fs
  | _, _ => fs

def mkdir : Behaviour := withArguments "mkdir" "m:pvZ" [("parents", 'p'), ("verbose", 'v'),
    ("mode", 'm')] fun options names c =>
  let mode := optionValue? options 'm'
  let told (name : String) : String :=
    toldIf (hasOption options 'v') ("mkdir: created directory " ++ alwaysQuoted name)
  let refusal (name : String) (o : Obstacle) : String :=
    "cannot create directory " ++ quotedWord name ++ ": " ++ obstacleText o
  if names.isEmpty then misuse c "mkdir" "missing operand"
  else match mode.filter fun text => (modeFor? c.mask true text 0o777).isNone with
    | some text => .complaint c 1 "mkdir" ("invalid mode " ++ quotedWord text)
    | none =>
      changeEach "mkdir" (fun files name =>
        if hasOption options 'p' then
          let x := makeAlong c told refusal (startsOf name) { files }
          let isNew := !files.isDirectory c.working name
          .ok (if isNew then { x with files := withMode c mode name x.files } else x)
        else match files.makeDirectory c.working name c.mask with
          | .ok files => .ok { files := withMode c mode name files, told := told name }
          | .error o => .error (refusal name o)) names c

/-- Whether the last part of a name is a dot or two. -/
def endsInDots (name : String) : Bool :=
  let last := (Path.trimSlashes name).splitOn "/" |>.getLast?
  last == some "." || last == some ".."

/-- Removes one directory that is empty. -/
def removeDirectory (c : Context) (files : Files) (name : String) : Except String Files :=
  match files.find c.working name with
  | .error o => .error (obstacleText o)
  | .ok (_, .file _) => .error (obstacleText .notADirectory)
  | .ok (place, .directory) =>
    if (Path.trimSlashes name).splitOn "/" |>.getLast? |> (· == some ".") then
      .error "Invalid argument"
    else if (files.children place).isEmpty then .ok (files.remove place)
    else .error "Directory not empty"

/-- Removes directories one after the other, from the inside out, up to one that cannot be. -/
def removeAlong (c : Context) (told : String → String) (outer : Bool) :
    List String → Change → Change
  | [], x => x
  | name :: rest, x =>
    match removeDirectory c x.files name with
    | .ok files => removeAlong c told true rest { x with files, told := x.told ++ told name }
    | .error reason =>
      let what := if outer then "directory " else ""
      { x with problem := some ("failed to remove " ++ what ++ quotedWord name ++ ": " ++ reason) }

def rmdir : Behaviour := withArguments "rmdir" "pv" [("parents", 'p'), ("verbose", 'v'),
    ("ignore-fail-on-non-empty", 'i')] fun options names c =>
  let told (name : String) : String :=
    toldIf (hasOption options 'v') ("rmdir: removing directory, " ++ quotedWord name)
  if names.isEmpty then misuse c "rmdir" "missing operand"
  else changeEach "rmdir" (fun files name =>
    let along := if hasOption options 'p' then (startsOf name).reverse else [name]
    let isBusy := hasOption options 'i' &&
      match removeDirectory c files name with
      | .error reason => reason == "Directory not empty"
      | .ok _ => false
    .ok (if isBusy then { files } else removeAlong c told false along { files })) names c

/-! ## Files -/

/-- Makes files that are missing. Where a file cannot be opened for being a directory, and is none,
it is its time that cannot be set. -/
def touch : Behaviour := withArguments "touch" "acd:fhmr:t:" [("no-create", 'c'), ("date", 'd'),
    ("reference", 'r')] fun options names c =>
  if names.isEmpty then misuse c "touch" "missing file operand"
  else changeEach "touch" (fun files name =>
    match files.find c.working name, files.locateFile c.working name with
    | .ok _, _ => .ok { files }
    | .error _, .ok place =>
      .ok { files := if hasOption options 'c' then files
              else files.create c.mask place (.file []) }
    | .error o, .error .isADirectory =>
      .error ("setting times of " ++ alwaysQuoted name ++ ": " ++ obstacleText o)
    | _, .error o => .error ("cannot touch " ++ alwaysQuoted name ++ ": " ++ obstacleText o))
    names c

/-- What is told when a tree is removed, what is in it first. -/
def toldRemovals (fs : Files) : Nat → String → Place → String
  | 0, _, _ => ""
  | n + 1, name, place =>
    match fs.get? place with
    | some .directory =>
      String.join ((fs.children place).map fun child =>
        toldRemovals fs n (name ++ "/" ++ child) (place ++ [child])) ++
        "removed directory " ++ alwaysQuoted name ++ "\n"
    | _ => "removed " ++ alwaysQuoted name ++ "\n"

def rm : Behaviour := withArguments "rm" "dfiIrRv" [("force", 'f'), ("recursive", 'r'),
    ("dir", 'd'), ("verbose", 'v')] fun options names c =>
  let tree := hasOption options 'r' || hasOption options 'R'
  let forced := hasOption options 'f'
  let refusal (name : String) (o : Obstacle) : Except String Change :=
    .error ("cannot remove " ++ alwaysQuoted name ++ ": " ++ obstacleText o)
  if names.isEmpty && !forced then misuse c "rm" "missing operand"
  else changeEach "rm" (fun files name =>
    let removed (place : Place) : Except String Change :=
      .ok { files := files.remove place
            told := if hasOption options 'v' then toldRemovals files 64 name place else "" }
    match files.link? c.working name, files.locateItself c.working name with
    | some _, .ok place => removed place
    | _, _ =>
      match files.find c.working name with
      | .error o =>
        if forced && (o = .missing || o = .notADirectory) then .ok { files } else refusal name o
      | .ok (place, .directory) =>
        if !tree then
          if !hasOption options 'd' then refusal name .isADirectory
          else if (files.children place).isEmpty then removed place
          else .error ("cannot remove " ++ alwaysQuoted name ++ ": Directory not empty")
        else if endsInDots name then
          .error ("refusing to remove '.' or '..' directory: skipping " ++ alwaysQuoted name)
        else removed place
      | .ok (place, .file _) => removed place) names c

/-! ## Permissions -/

/-- A mode may look like options. -/
def looksLikeMode (a : String) : Bool :=
  match a.toList with
  | '-' :: c :: _ => "rwxXstugoa,+=01234567".toList.contains c
  | _ => false

/-- The names of all that is below a name, and the name itself in front of them. -/
def namesBelow (fs : Files) : Nat → String → Place → List (String × Place)
  | 0, _, _ => []
  | n + 1, name, place =>
    (name, place) :: (fs.children place).flatMap fun child =>
      namesBelow fs n (name ++ "/" ++ child) (place ++ [child])

def modeShown (mode : Nat) : String := octalMode 4 mode ++ " (" ++ modeLetters mode ++ ")"

/-- Changes the permissions at one place. -/
def changeModeAt (c : Context) (options : List (Char × String)) (text : String) (x : Change)
    (name : String) (place : Place) : Change :=
  let old := x.files.mode place
  match modeFor? c.mask (x.files.get? place = some .directory) text old with
  | none => x
  | some mode =>
    let told := if mode != old then
        toldIf (hasOption options 'v' || hasOption options 'c')
          ("mode of " ++ alwaysQuoted name ++ " changed from " ++ modeShown old ++ " to " ++
            modeShown mode)
      else toldIf (hasOption options 'v')
        ("mode of " ++ alwaysQuoted name ++ " retained as " ++ modeShown mode)
    { x with files := x.files.setMode place mode, told := x.told ++ told }

def chmod : Behaviour := fun argv c =>
  let args := argv.tail
  let early := (args.takeWhile (· != "--")).find? looksLikeMode
  let rest := match early with
    | some a => args.erase a
    | none => args
  let names : OptionNames := ⟨"Rcfv".toList, [("recursive", 'R'), ("verbose", 'v'),
    ("changes", 'c'), ("quiet", 'f'), ("silent", 'f')]⟩
  match names.read false rest with
  | .error message => misuse c "chmod" message
  | .ok (options, operands) =>
    match early.toList ++ operands with
    | [] => misuse c "chmod" "missing operand"
    | [text] => misuse c "chmod" ("missing operand after " ++ quotedWord text)
    | text :: files =>
      if (modeFor? c.mask false text 0).isNone then
        misuse c "chmod" ("invalid mode: " ++ quotedWord text)
      else
        let r := changeEach "chmod" (fun files name =>
          match files.find c.working name with
          | .error o => .error ("cannot access " ++ alwaysQuoted name ++ ": " ++ obstacleText o)
          | .ok (place, _) =>
            let all := if hasOption options 'R' then namesBelow files 64 name place
              else [(name, place)]
            .ok (all.foldl (fun x (name, place) => changeModeAt c options text x name place)
              { files })) files c
        if hasOption options 'f' then { r with chunks := r.chunks.filter (·.channel = .out) } else r

/-! ## Input into files -/

/-- Copies the input to the output and into files. -/
def tee : Behaviour := withArguments "tee" "aip" [("append", 'a'), ("ignore-interrupts", 'i')]
  fun options names c =>
    let into (r : Report) (name : String) : Report :=
      match name with
      | "/dev/stdout" => { r with chunks := r.chunks ++ [⟨.out, c.input⟩] }
      | "/dev/stderr" => { r with chunks := r.chunks ++ [⟨.err, c.input⟩] }
      | name =>
        match r.files.locateFile c.working name with
        | .ok place =>
          let old := if hasOption options 'a' then r.files.content place else []
          if place = nullDevice then r
          else { r with files := r.files.create c.mask place (.file (old ++ c.input)) }
        | .error o =>
          { r with
            status := 1
            chunks := r.chunks ++ [messageOf "tee" (quotedName name ++ ": " ++ obstacleText o)] }
    afterReading c [] (names.foldl into (.ofBytes c c.input))

/-! ## Names that are free -/

/-- A template with numbers in place of the signs at its end. -/
def fillTemplate (template : String) (k : Nat) : String :=
  let cs := template.toList
  let count := (cs.reverse.takeWhile (· == 'X')).length
  let digits := decimalDigits k
  String.ofList (cs.take (cs.length - count) ++ List.replicate (count - digits.length) '0' ++ digits)

def mktemp : Behaviour := withArguments "mktemp" "dp:qtu" [("directory", 'd'), ("dry-run", 'u'),
    ("tmpdir", 'p'), ("quiet", 'q')] fun options names c =>
  let template := names.headD "tmp.XXXXXXXXXX"
  let inTemporary := names.isEmpty || hasOption options 't' || hasOption options 'p'
  let directory := ((optionValue? options 'p').or (c.environment.get? "TMPDIR")).getD "/tmp"
  let full := if inTemporary then directory ++ "/" ++ template else template
  let free := (List.range 1000).find? fun k => c.files.find c.working (fillTemplate full k) matches
    .error _
  let name := fillTemplate full (free.getD 0)
  if !template.endsWith "XXX" then
    .complaint c 1 "mktemp" ("too few X's in template " ++ quotedWord template)
  else if hasOption options 'u' then .ofText c (name ++ "\n")
  else
    let kind := if hasOption options 'd' then "directory" else "file"
    let made := if hasOption options 'd' then c.files.makeDirectory c.working name 0o077
      else (c.files.locateFile c.working name).map fun place =>
        c.files.create 0o077 place (.file [])
    match made with
    | .ok files => { Report.ofText c (name ++ "\n") with files }
    | .error o =>
      .complaint c 1 "mktemp" ("failed to create " ++ kind ++ " via template " ++ quotedWord full ++
        ": " ++ obstacleText o)

end Utility

end CommandServer.Job
