/-
Programs that compare files: by their bytes, and by their lines.
-/
import CommandServer.Outside.Job.Utility.Column
import CommandServer.Outside.Text.Difference

namespace CommandServer.Job

open CommandServer.Text

namespace Utility

/-! ## Bytes -/

/-- The first byte in which two byte strings differ: its number, that of its line, and both bytes. -/
def firstDifference? : Nat → Nat → List UInt8 → List UInt8 → Option (Nat × Nat × UInt8 × UInt8)
  | k, line, a :: as, b :: bs =>
    if a != b then some (k, line, a, b)
    else firstDifference? (k + 1) (if a = 0x0A then line + 1 else line) as bs
  | _, _, _, _ => none

/-- All bytes in which two byte strings differ, with their numbers. -/
def allDifferences : Nat → List UInt8 → List UInt8 → List (Nat × UInt8 × UInt8)
  | k, a :: as, b :: bs =>
    if a != b then (k, a, b) :: allDifferences (k + 1) as bs else allDifferences (k + 1) as bs
  | _, _, _ => []

/-- The octal number of a byte in three columns. -/
def octalColumn (b : UInt8) : String :=
  let digits := Nat.toDigits 8 b.toNat
  String.ofList (List.replicate (3 - digits.length) ' ' ++ digits)

def comparisonHint (program : String) : String :=
  "\n" ++ program ++ ": Try '" ++ program ++ " --help' for more information."

/-- What is said about a file that ends before another one. -/
def endMessage (name : String) (bytes : List UInt8) (listing : Bool) : String :=
  let lines := bytes.countP (· == 0x0A)
  let place := if listing then ""
    else if bytes.getLast? = some 0x0A then ", line " ++ toString lines
    else ", in line " ++ toString (lines + 1)
  if bytes.isEmpty then "EOF on " ++ name ++ " which is empty"
  else "EOF on " ++ name ++ " after byte " ++ toString bytes.length ++ place

/-- The report on two byte strings. -/
def compareBytes (options : List (Char × String)) (a b : String) (x y : List UInt8) (c : Context) :
    Report :=
  let limit := (optionValue? options 'n').bind String.toNat?
  let (x, y) := match limit with
    | some k => (x.take k, y.take k)
    | none => (x, y)
  let quiet := hasOption options 's'
  let shorter : List Chunk :=
    if x.length = y.length || quiet then []
    else
      let (name, bytes) := if x.length < y.length then (a, x) else (b, y)
      [messageOf "cmp" (endMessage name bytes (hasOption options 'l'))]
  if x = y then .ofChunks c 0 []
  else if hasOption options 'l' then
    let width := (decimalDigits (min x.length y.length)).length
    let lines := (allDifferences 1 x y).map fun (k, p, q) =>
      padded width k ++ " " ++ octalColumn p ++ " " ++ octalColumn q ++ "\n"
    .ofChunks c 1 (⟨.out, encodeUtf8 (String.join lines)⟩ :: shorter)
  else match firstDifference? 1 1 x y with
    | some (k, line, p, q) =>
      let (unit, bytes) := if hasOption options 'b'
        then (" differ: byte ", " is " ++ octalColumn p ++ " " ++ shownByte p ++ " " ++
          octalColumn q ++ " " ++ shownByte q)
        else (" differ: char ", "")
      let text := a ++ " " ++ b ++ unit ++ toString k ++ ", line " ++ toString line ++ bytes ++ "\n"
      .ofChunks c 1 (if quiet then [] else [⟨.out, encodeUtf8 text⟩])
    | none => .ofChunks c 1 shorter
where
  /-- A byte as a character; one that is none is shown with signs in front of it. -/
  shownByte (b : UInt8) : String :=
    let low := b.toNat % 128
    let start := if 128 ≤ b.toNat then "M-" else ""
    start ++ (if low < 32 then String.ofList ['^', Char.ofNat (low + 64)]
      else if low = 127 then "^?" else String.ofList [Char.ofNat low])

def cmp : Behaviour := fun argv c =>
  let names : OptionNames := ⟨"bi:ln:s".toList, [("print-bytes", 'b'), ("verbose", 'l'),
    ("bytes", 'n'), ("silent", 's'), ("quiet", 's')]⟩
  let refuse (message : String) : Report :=
    .complaint c 2 "cmp" (message ++ comparisonHint "cmp")
  match names.read false argv.tail with
  | .error message => refuse message
  | .ok (options, operands) =>
    if hasOption options 'l' && hasOption options 's' then
      refuse "options -l and -s are incompatible"
    else match operands with
      | [] => refuse "missing operand after 'cmp'"
      | a :: rest =>
        let b := rest.headD "-"
        match readNamed c a, readNamed c b with
        | .ok x, .ok y => afterReading c [a, b] (compareBytes options a b x y c)
        | .error o, _ => failed options a o c
        | _, .error o => failed options b o c
where
  failed (options : List (Char × String)) (name : String) (o : Obstacle) (c : Context) : Report :=
    .ofChunks c 2 (if hasOption options 's' && o = .missing then []
      else [messageOf "cmp" (name ++ ": " ++ obstacleText o)])

/-! ## Lines -/

/-- What counts of a line when it is compared with another one. -/
def comparedLine (options : List (Char × String)) (line : List UInt8) : List UInt8 :=
  let isBlank (b : UInt8) : Bool := b == 0x20 || (0x09 ≤ b && b ≤ 0x0D)
  let cs := if hasOption options 'w' then line.filter fun b => b == 0x0A || !isBlank b
    else if hasOption options 'b' then
      let words := (fieldsBy none (bareLine line)).map fun f => f.filter (!isBlank ·)
      let front := if (line.head?.any isBlank) then [0x20] else []
      front ++ ((words.filter fun w => !w.isEmpty).intersperse [0x20]).flatten
    else line
  if hasOption options 'i' then bytesOfChars ((charsOfBytes cs).map Char.toLower) else cs

/-- The numbers of lines from one on, as a range. -/
def lineRange (start count : Nat) : String :=
  if count ≤ 1 then toString (start + count)
  else toString (start + 1) ++ "," ++ toString (start + count)

/-- Lines behind a sign. One without a line feed gets a note. -/
def signedLines (sign : String) (lines : List (List UInt8)) : List UInt8 :=
  lines.flatMap fun l =>
    encodeUtf8 sign ++ l ++ if l.getLast? = some 0x0A then []
      else encodeUtf8 "\n\\ No newline at end of file\n"

/-- A hunk as a change of lines by their numbers. -/
def showHunk (h : Hunk (List UInt8)) : List UInt8 :=
  let letter := if h.removed.isEmpty then "a" else if h.inserted.isEmpty then "d" else "c"
  encodeUtf8 (lineRange h.start h.removed.length ++ letter ++
      lineRange h.otherStart h.inserted.length ++ "\n") ++
    signedLines "< " h.removed ++
    (if h.removed.isEmpty || h.inserted.isEmpty then [] else encodeUtf8 "---\n") ++
    signedLines "> " h.inserted

/-- Hunks that stand so near to one another that the lines around them touch. -/
def nearHunks (around : Nat) : List (Hunk (List UInt8)) → List (List (Hunk (List UInt8)))
  | [] => []
  | h :: rest =>
    match nearHunks around rest with
    | (next :: more) :: groups =>
      if next.start ≤ h.start + h.removed.length + 2 * around then (h :: next :: more) :: groups
      else [h] :: (next :: more) :: groups
    | groups => [h] :: groups

/-- A range of lines in the heading of hunks. -/
def headingRange (start count : Nat) : String :=
  if count = 1 then toString (start + 1)
  else toString (if count = 0 then start else start + 1) ++ "," ++ toString count

/-- Hunks with the lines around them. -/
def showTogether (around : Nat) (lines : List (List UInt8)) (hunks : List (Hunk (List UInt8))) :
    List UInt8 :=
  match hunks.head?, hunks.getLast? with
  | some first, some last =>
    let before := min around first.start
    let start := first.start - before
    let finish := min lines.length (last.start + last.removed.length + around)
    let otherStart := first.otherStart - before
    let grown := last.otherStart + last.inserted.length +
      (finish - (last.start + last.removed.length))
    let body := (hunks.foldl (fun (k, out) h =>
      (h.start + h.removed.length,
        out ++ signedLines " " ((lines.take h.start).drop k) ++ signedLines "-" h.removed ++
          signedLines "+" h.inserted)) (start, ([] : List UInt8)))
    encodeUtf8 ("@@ -" ++ headingRange start (finish - start) ++ " +" ++
        headingRange otherStart (grown - otherStart) ++ " @@\n") ++
      body.2 ++ signedLines " " ((lines.take finish).drop body.1)
  | _, _ => []

/-- The report on two files: what is shown, and whether they differ. -/
def compareLines (options : List (Char × String)) (a b : String) (x y : List UInt8) :
    List UInt8 × Bool :=
  let labels := (options.filter (·.1 == 'L')).map Prod.snd
  let time := "\t1970-01-01 00:00:00.000000000 +0000"
  let differs := encodeUtf8 ("Files " ++ a ++ " and " ++ b ++ " differ\n")
  let alike (p q : List UInt8) : Bool := comparedLine options p == comparedLine options q
  let (as, bs) := (linesOf [] x, linesOf [] y)
  let hunks := Edit.hunks 0 0 none (Edit.between alike as bs)
  let hunks := if !hasOption options 'B' then hunks
    else hunks.filter fun h => (h.removed ++ h.inserted).any (· != [0x0A])
  if x = y || hunks.isEmpty then
    (if hasOption options 's' then
      encodeUtf8 ("Files " ++ a ++ " and " ++ b ++ " are identical\n") else [], false)
  else if hasOption options 'q' then (differs, true)
  else if !hasOption options 'a' && (x ++ y).contains 0 then
    (encodeUtf8 ("Binary files " ++ a ++ " and " ++ b ++ " differ\n"), true)
  else if hasOption options 'u' || hasOption options 'U' then
    let around := ((optionValue? options 'U').bind String.toNat?).getD 3
    let title (sign name : String) (k : Nat) : String :=
      sign ++ " " ++ labels.getD k (name ++ time) ++ "\n"
    (encodeUtf8 (title "---" a 0 ++ title "+++" b 1) ++
      (nearHunks around hunks).flatMap (showTogether around as), true)
  else (hunks.flatMap showHunk, true)

/-- Options as they are written, which are told when trees are compared. -/
def writtenOptions (args : List String) : String :=
  String.join ((args.filter fun a => a.startsWith "-" && a != "-").map (" " ++ ·))

/-- Adds up reports: what is shown and the worst status. -/
def joinReports (c : Context) (rs : List Report) : Report :=
  .ofChunks c (rs.foldl (fun n r => max n r.status) 0) (rs.flatMap Report.chunks)

/-- The report on two places, which may be directories; `below` says whether they are in others. -/
def comparePlaces (options : List (Char × String)) (written : String) (c : Context) :
    Nat → Bool → String × Place → String × Place → Report
  | 0, _, _, _ => .ofChunks c 0 []
  | n + 1, below, (a, p), (b, q) =>
    let line (text : String) (status : Int) : Report :=
      .ofChunks c status [⟨.out, encodeUtf8 (text ++ "\n")⟩]
    match c.files.get? p, c.files.get? q with
    | some .directory, some .directory =>
      if below && !hasOption options 'r' then
        line ("Common subdirectories: " ++ a ++ " and " ++ b) 0
      else
        let names := ((c.files.children p ++ c.files.children q).eraseDups).mergeSort (· ≤ ·)
        joinReports c (names.map fun name =>
          let here := (nameBelow a name, p ++ [name])
          let there := (nameBelow b name, q ++ [name])
          let isEmpty := hasOption options 'N'
          match c.files.get? here.2, c.files.get? there.2 with
          | some _, none =>
            if isEmpty then comparePlaces options written c n true here there
            else line ("Only in " ++ a ++ ": " ++ name) 1
          | none, some _ =>
            if isEmpty then comparePlaces options written c n true here there
            else line ("Only in " ++ b ++ ": " ++ name) 1
          | _, _ => comparePlaces options written c n true here there)
    | some .directory, some (.file _) =>
      line ("File " ++ a ++ " is a directory while file " ++ b ++ " is a regular file") 1
    | some (.file _), some .directory =>
      line ("File " ++ a ++ " is a regular file while file " ++ b ++ " is a directory") 1
    | _, _ =>
      let (out, differs) := compareLines options a b (c.files.content p) (c.files.content q)
      let isQuiet := hasOption options 'q' || hasOption options 's'
      let title := if below && !isQuiet && differs
        then encodeUtf8 ("diff" ++ written ++ " " ++ a ++ " " ++ b ++ "\n") else []
      .ofChunks c (if differs then 1 else 0) [⟨.out, title ++ out⟩]
where
  nameBelow (directory name : String) : String :=
    if directory.endsWith "/" then directory ++ name else directory ++ "/" ++ name

def diff : Behaviour := fun argv c =>
  let names : OptionNames := ⟨"abBC:cdeEiI:L:nNpqrstTuU:wW:x:yZ".toList, [("brief", 'q'),
    ("recursive", 'r'), ("report-identical-files", 's'), ("label", 'L'), ("ignore-case", 'i'),
    ("unified", 'u'), ("ignore-all-space", 'w'), ("ignore-space-change", 'b'), ("text", 'a'),
    ("ignore-blank-lines", 'B'), ("new-file", 'N'), ("strip-trailing-cr", 'Z')]⟩
  let refuse (message : String) : Report :=
    .complaint c 2 "diff" (message ++ comparisonHint "diff")
  match names.read false argv.tail with
  | .error message => refuse message
  | .ok (options, operands) =>
    match operands with
    | [] => refuse "missing operand after 'diff'"
    | [a] => refuse ("missing operand after " ++ quotedWord a)
    | [a, b] =>
      let isDirectory (name : String) : Bool :=
        !inputNames.contains name && c.files.isDirectory c.working name
      let (a', b') := if isDirectory a && !isDirectory b then (inside a b, b)
        else if isDirectory b && !isDirectory a then (a, inside b a) else (a, b)
      if isDirectory a && isDirectory b then
        match c.files.find c.working a, c.files.find c.working b with
        | .ok (p, _), .ok (q, _) =>
          comparePlaces options (writtenOptions argv.tail) c 64 false (a, p) (b, q)
        | _, _ => .ofChunks c 2 []
      else
        let read (name : String) : Except Obstacle (List UInt8) :=
          match readNamed c name with
          | .error .missing => if hasOption options 'N' then .ok [] else .error .missing
          | result => result
        match read a', read b' with
        | .ok x, .ok y =>
          let (out, differs) := compareLines options a' b' x y
          afterReading c [a', b'] (.ofChunks c (if differs then 1 else 0) [⟨.out, out⟩])
        | x, y =>
          let complaint (name : String) : Except Obstacle (List UInt8) → List Chunk
            | .error o => [messageOf "diff" (name ++ ": " ++ obstacleText o)]
            | .ok _ => []
          .ofChunks c 2 (complaint a' x ++ complaint b' y)
    | _ => refuse ("extra operand " ++ quotedWord (operands.getD 2 ""))
where
  /-- The file in a directory with the last part of a name. -/
  inside (directory name : String) : String :=
    let last := (name.splitOn "/").getLast?.getD ""
    if directory.endsWith "/" then directory ++ last else directory ++ "/" ++ last

end Utility

end CommandServer.Job
