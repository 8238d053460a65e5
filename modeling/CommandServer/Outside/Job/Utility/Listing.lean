/-
Programs that tell what files there are, what is known about them and where they lie.
-/
import CommandServer.Outside.Job.Permission
import CommandServer.Outside.Job.Utility.File

namespace CommandServer.Job

open CommandServer.Text

namespace Utility

/-! ## Facts -/

/-- The size of a directory, and the unit in which files take up space. -/
def directorySize : Nat := 4096

def entrySize : Entry → Nat
  | .directory => directorySize
  | .file bytes => bytes.length

/-- The letter for the kind of a file, and its permissions. -/
def kindLetters (c : Context) (place : Place) (e : Entry) : String :=
  (if e = .directory then "d" else if place = nullDevice then "c" else "-") ++
    modeLetters (c.files.mode place)

/-- How many names a file has: a directory one for itself, and one for each directory in it. -/
def linkCount (c : Context) (place : Place) (e : Entry) : Nat :=
  if e = .directory then
    2 + ((c.files.children place).filter fun name =>
      c.files.get? (place ++ [name]) = some .directory).length
  else 1

/-! ## Listing -/

/-- One line of a listing. -/
structure ListedName where
  name : String
  place : Place
  entry : Entry
  link : Option Link := none

namespace ListedName

/-- A name with the sign for its kind behind it. -/
def shown (c : Context) (letters : List Char) (x : ListedName) : String :=
  let name := if letters.contains 'Q' then "\"" ++ x.name ++ "\"" else x.name
  if letters.contains 'F' && x.link.isSome then name ++ "@"
  else if (letters.contains 'F' || letters.contains 'p') && x.entry = .directory then name ++ "/"
  else if letters.contains 'F' && c.files.isStartable x.place then name ++ "*"
  else name

/-- The facts about a file in columns, the sizes in one of a width. -/
def line (c : Context) (letters : List Char) (width : Nat) (x : ListedName) : String :=
  let kind := if x.link.isSome then "lrwxrwxrwx" else kindLetters c x.place x.entry
  let size := match x.link with
    | some l => l.text.utf8ByteSize
    | none => entrySize x.entry
  let count := if x.link.isSome then 1 else linkCount c x.place x.entry
  let target := match x.link with
    | some l => " -> " ++ l.text
    | none => ""
  kind ++ " " ++ toString count ++ " root root " ++ padded width size ++ " Jan  1 00:00 " ++
    x.shown c letters ++ target

end ListedName

/-- The texts of names: one in a line, or all in one line, or with what is known about them. -/
def listingText (c : Context) (letters : List Char) (names : List ListedName) : String :=
  let shown := names.map (·.shown c letters)
  match letters.find? "1lgomCx".toList.contains with
  | some 'l' | some 'g' | some 'o' =>
    let width := (names.map fun x => (decimalDigits (entrySize x.entry)).length).foldl max 0
    String.join (names.map fun x => x.line c letters width ++ "\n")
  | some 'm' => if shown.isEmpty then "" else String.intercalate ", " shown ++ "\n"
  | some '1' | none => String.join (shown.map (· ++ "\n"))
  | _ => if shown.isEmpty then "" else String.intercalate "  " shown ++ "\n"

/-- Names in the order that options ask for. -/
def inListingOrder (letters : List Char) (names : List ListedName) : List ListedName :=
  let sorted := names.mergeSort fun a b =>
    if letters.contains 'S' && entrySize a.entry != entrySize b.entry then
      entrySize b.entry < entrySize a.entry
    else a.name ≤ b.name
  if letters.contains 'r' then sorted.reverse else sorted

/-- What is in a directory. -/
def listedIn (c : Context) (letters : List Char) (place : Place) : List ListedName :=
  let hidden := letters.any "aA".toList.contains
  let names := (c.files.children place).filter fun s => hidden || !s.startsWith "."
  let own : List ListedName := if letters.contains 'a'
    then [⟨".", place, .directory, none⟩, ⟨"..", place.dropLast, .directory, none⟩] else []
  let entryOf (name : String) : ListedName :=
    let here := place ++ [name]
    let link := c.files.links.lookup here
    let target := c.files.follow here
    ⟨name, target, (c.files.get? target).getD (.file []), link⟩
  inListingOrder letters (own ++ names.map entryOf)

/-- The space that files take up, in thousands of bytes. -/
def spaceOf (names : List ListedName) : Nat :=
  (names.map fun x =>
    if x.link.isSome then 0 else (entrySize x.entry + directorySize - 1) / directorySize * 4).foldl
    (· + ·) 0

/-- The listing of a directory, with those of the directories in it if that is asked for. -/
def listDirectory (c : Context) (letters : List Char) (titled : Bool) :
    Nat → String → Place → List String
  | 0, _, _ => []
  | n + 1, name, place =>
    let names := listedIn c letters place
    let total := if letters.contains 'l' then "total " ++ toString (spaceOf names) ++ "\n" else ""
    let block := (if titled then quotedForShell name ++ ":\n" else "") ++ total ++
      listingText c letters names
    let below := if !letters.contains 'R' then [] else
      (names.filter fun x => x.entry = .directory && x.link.isNone && x.name != "." &&
        x.name != "..").flatMap fun x =>
          listDirectory c letters true n (if name.endsWith "/" then name ++ x.name
            else name ++ "/" ++ x.name) (place ++ [x.name])
    block :: below

/-- The files among names first, then each directory, under its name if there are several. -/
def ls : Behaviour :=
  let long := [("all", 'a'), ("almost-all", 'A'), ("directory", 'd'), ("recursive", 'R'),
    ("reverse", 'r'), ("classify", 'F'), ("color", 'U'), ("human-readable", 'h'), ("size", 's')]
  fun argv c =>
  let arguments := argv.map fun a => if a.startsWith "--color=" then "--color" else a
  let run := withArguments "ls" "1aAbBcCdfFgGhHiklLmnNopqQrRsStuUvxXZ" long fun options operands c =>
    let letters := options.map Prod.fst
    let named := (if operands.isEmpty then ["."] else operands).map fun name =>
      (name, c.files.find c.working name)
    let found := named.filterMap fun (name, result) => match result with
      | .ok (place, entry) =>
        some (⟨name, place, entry, if letters.contains 'd' || letters.contains 'l'
          then c.files.link? c.working name else none⟩ : ListedName)
      | .error _ => none
    let found := inListingOrder letters found
    let isListed (x : ListedName) : Bool :=
      x.entry = .directory && !letters.contains 'd' && x.link.isNone
    let files := found.filter (!isListed ·)
    let directories := found.filter isListed
    let complaints := named.filterMap fun (name, result) => match result with
      | .error o =>
        some (messageOf "ls" ("cannot access " ++ alwaysQuoted name ++ ": " ++ obstacleText o))
      | .ok _ => none
    let titled := named.length != 1 || letters.contains 'R'
    let blocks := (if files.isEmpty then [] else [listingText c letters files]) ++
      directories.flatMap fun x => listDirectory c letters titled 64 x.name x.place
    .ofChunks c (if complaints.isEmpty then 0 else 2)
      (⟨.out, encodeUtf8 (String.intercalate "\n" blocks)⟩ :: complaints)
  run arguments c

/-! ## Facts as text -/

/-- What a letter in a format stands for. -/
def factText (c : Context) (name : String) (place : Place) (e : Entry) (letter : Char) : String :=
  match letter with
  | 'n' => name
  | 's' => toString (entrySize e)
  | 'a' => octalMode 1 (c.files.mode place)
  | 'A' => kindLetters c place e
  | 'F' => match e with
    | .directory => "directory"
    | .file [] => if place = nullDevice then "character special file" else "regular empty file"
    | .file _ => "regular file"
  | 'U' | 'G' => "root"
  | 'u' | 'g' => "0"
  | 'h' => toString (linkCount c place e)
  | 'B' => "512"
  | 'b' => toString ((entrySize e + directorySize - 1) / directorySize * 8)
  | '%' => "%"
  | _ => "?"

/-- A format with facts put in for its letters. -/
def formatFacts (fact : Char → String) (escapes : Bool) : List Char → List Char
  | '%' :: c :: r => (fact c).toList ++ formatFacts fact escapes r
  | '\\' :: 'n' :: r =>
    (if escapes then ['\n'] else ['\\', 'n']) ++ formatFacts fact escapes r
  | '\\' :: 't' :: r =>
    (if escapes then ['\t'] else ['\\', 't']) ++ formatFacts fact escapes r
  | c :: r => c :: formatFacts fact escapes r
  | [] => []

def stat : Behaviour := withArguments "stat" "c:fLtp:" [("format", 'c'), ("printf", 'p')]
  fun options names c =>
    let format := (optionValue? options 'p').or (optionValue? options 'c')
    let escapes := hasOption options 'p'
    match names, format with
    | [], _ => misuse c "stat" "missing operand"
    | names, format =>
      let chunks : List Chunk := names.map fun name => match c.files.find c.working name with
        | .ok (place, e) =>
          let text := formatFacts (factText c name place e) escapes (format.getD "%n").toList
          ⟨.out, encodeUtf8 (String.ofList text ++ if escapes then "" else "\n")⟩
        | .error o =>
          messageOf "stat" ("cannot statx " ++ alwaysQuoted name ++ ": " ++ obstacleText o)
      .ofChunks c (if chunks.any (·.channel = .err) then 1 else 0) chunks

/-! ## Places -/

def placeText (place : Place) : String := "/" ++ String.intercalate "/" place

/-- The place that a name means, of which the last part may be missing. -/
def realpath : Behaviour := withArguments "realpath" "eLmPqsz" [("canonicalize-existing", 'e'),
    ("canonicalize-missing", 'm'), ("quiet", 'q')] fun options names c =>
  if names.isEmpty then misuse c "realpath" "missing operand"
  else
    let chunks : List Chunk := names.map fun name =>
      let found := if hasOption options 'e' then (c.files.find c.working name).map Prod.fst
        else c.files.locate c.working name
      match found with
      | .ok place => ⟨.out, encodeUtf8 (placeText place ++ "\n")⟩
      | .error o => messageOf "realpath" (quotedName name ++ ": " ++ obstacleText o)
    .ofChunks c (if chunks.any (·.channel = .err) then 1 else 0) chunks

/-- What a link says, or the place that a name means; nothing is said where there is none. -/
def readlink : Behaviour := withArguments "readlink" "efmnqsvz" [("canonicalize", 'f')]
  fun options names c =>
    if names.isEmpty then misuse c "readlink" "missing operand"
    else
      let results := names.map fun name =>
        if hasOption options 'e' then
          (c.files.find c.working name).toOption.map fun x => placeText x.1
        else if hasOption options 'f' || hasOption options 'm' then
          (c.files.locate c.working name).toOption.map placeText
        else (c.files.link? c.working name).map Link.text
      let close := if hasOption options 'n' then "" else "\n"
      .ofChunks c (if results.all Option.isSome then 0 else 1)
        [⟨.out, encodeUtf8 (String.join ((results.filterMap id).map (· ++ close)))⟩]

end Utility

end CommandServer.Job
