/-
Programs that show an end of files, and count what is in them.
-/
import CommandServer.Outside.Job.Utility.File

namespace CommandServer.Job

open CommandServer.Text

namespace Utility

/-! ## Ends of files -/

/-- The part of a file that is asked for: a count of lines or bytes, with its sign. -/
structure Extract where
  sign : Option Char := none
  count : Nat := 10
  ofBytes : Bool := false
  headed : Option Bool := none
  names : List String := []

/-- A count, with what it counts. -/
def Extract.setCount (ofBytes : Bool) (text : String) (e : Extract) : Except String Extract :=
  let (sign, digits) := match text.toList with
    | '-' :: r => (some '-', r)
    | '+' :: r => (some '+', r)
    | r => (none, r)
  match (String.ofList digits).toNat? with
  | some count => .ok { e with sign, count, ofBytes }
  | none =>
    .error ("invalid number of " ++ (if ofBytes then "bytes" else "lines") ++ ": " ++
      alwaysQuoted text)

/-- Reads the arguments of a program that shows an end of files. -/
def readExtract : List String → Extract → Except String Extract
  | [], e => .ok e
  | "--" :: names, e => .ok { e with names := e.names ++ names }
  | "-q" :: rest, e => readExtract rest { e with headed := some false }
  | "-v" :: rest, e => readExtract rest { e with headed := some true }
  | "-n" :: k :: rest, e => do readExtract rest (← e.setCount false k)
  | "-c" :: k :: rest, e => do readExtract rest (← e.setCount true k)
  | a :: rest, e =>
    match a.toList with
    | '-' :: 'n' :: k => do readExtract rest (← e.setCount false (String.ofList k))
    | '-' :: 'c' :: k => do readExtract rest (← e.setCount true (String.ofList k))
    | '-' :: c :: k =>
      if c.isDigit then do readExtract rest (← e.setCount false (String.ofList (c :: k)))
      else if c = '-' then .error ("unrecognized option '" ++ a ++ "'" )
      else .error ("invalid option -- '" ++ String.ofList [c] ++ "'")
    | _ => readExtract rest { e with names := e.names ++ [a] }

/-- The extracts of files one after the other, each under its name if there are several. `taken` is
how much of the input they take. -/
def showExtracts (program : String) (e : Extract) (pick : List UInt8 → List UInt8)
    (taken : Context → Nat) (c : Context) : Report :=
  let names := orInput e.names
  let headed := e.headed.getD (names.length > 1)
  let (chunks, _) := names.foldl (fun (chunks, shown) name =>
    let title := if name = "-" then "standard input" else name
    let header : List Chunk :=
      if headed then [⟨.out, encodeUtf8 ((if shown then "\n" else "") ++ "==> " ++ title ++
        " <==\n")⟩] else []
    match readNamed c name with
    | .ok bytes => (chunks ++ header ++ [⟨.out, pick bytes⟩], true)
    | .error .isADirectory =>
      (chunks ++ header ++
        [messageOf program ("error reading " ++ alwaysQuoted name ++ ": Is a directory")], true)
    | .error o =>
      (chunks ++ [messageOf program ("cannot open " ++ alwaysQuoted name ++
        " for reading: " ++ obstacleText o)], shown)) (([] : List Chunk), false)
  let r : Report := .ofChunks c (if chunks.any (·.channel = .err) then 1 else 0) chunks
  if names.any inputNames.contains then { r with consumed := taken c } else r

/-- Whether a message about options comes without a hint. -/
def isCountMessage (message : String) : Bool := message.startsWith "invalid number"

/-- The bytes that are read from a pipe at once. -/
def blockSize : Nat := 8192

/-- How much of its input a program takes that needs some bytes at its start. It can go back in a
file. -/
def takenFor (c : Context) (needed : Nat) : Nat :=
  if c.inputIsFile then needed
  else min c.input.length ((needed + blockSize - 1) / blockSize * blockSize)

/-- A program that shows an end of files, which `pick` finds in a list of lines or bytes. One that
shows their start leaves what it does not need of the input. -/
def endOf (program : String) (ofStart : Bool)
    (pick : Option Char → Nat → {α : Type} → List α → List α) : Behaviour := fun argv c =>
  match readExtract argv.tail {} with
  | .error message =>
    if isCountMessage message then .complaint c 1 program message else misuse c program message
  | .ok e =>
    let pickBytes (bytes : List UInt8) : List UInt8 :=
      if e.ofBytes then pick e.sign e.count bytes
      else (pick e.sign e.count (linesOf [] bytes)).flatten
    let taken (c : Context) : Nat :=
      if ofStart && e.sign.isNone then takenFor c (pickBytes c.input).length else c.input.length
    showExtracts program e pickBytes taken c

/-- The first items, or all but the last ones if the count is negative. -/
def headOf (sign : Option Char) (k : Nat) {α : Type} (items : List α) : List α :=
  if sign = some '-' then items.take (items.length - k) else items.take k

/-- The last items, or all from a numbered one on if the count has a plus sign. -/
def tailOf (sign : Option Char) (k : Nat) {α : Type} (items : List α) : List α :=
  if sign = some '+' then items.drop (k - 1) else items.drop (items.length - k)

def head : Behaviour := endOf "head" true headOf

def tail : Behaviour := endOf "tail" false tailOf

/-! ## Counts -/

/-- Counts words: runs of bytes that are no blanks. -/
def wordCount (cs : List Char) (inside : Bool) : Nat :=
  match cs with
  | [] => 0
  | c :: r =>
    let blank := isBlank c && c.toNat < 0x80
    (if !blank && !inside then 1 else 0) + wordCount r (!blank)

/-- What a letter has counted in a byte string. -/
def countOf (bytes : List UInt8) (letter : Char) : Nat :=
  match letter with
  | 'l' => bytes.countP (· == 0x0A)
  | 'w' => wordCount (charsOfBytes bytes) false
  | 'L' => ((linesOf [] bytes).map fun l => (l.filter (· != 0x0A)).length).foldl max 0
  | _ => bytes.length

/-- The width of counts: that of the number of bytes in all files, and a fixed one where what is
read is no file. A single count has none. -/
def countWidth (c : Context) (names : List String) (single : Bool) : Nat :=
  if names.length ≤ 1 && single then 1
  else
    let isFile (name : String) : Bool := match readNamed c name with
      | .error .isADirectory => false
      | _ => name != "-"
    let total := ((orInput names).map fun name =>
      ((readNamed c name).toOption.getD []).length).foldl (· + ·) 0
    let digits := (decimalDigits total).length
    if (orInput names).all isFile then digits else max digits 7

/-- Counts lines, words and bytes. A directory counts as an empty file that cannot be read. -/
def wc : Behaviour := withFlags "wc" "clLmw" fun letters names c =>
  let letters := if letters.isEmpty then ['l', 'w', 'c']
    else ['l', 'w', 'm', 'c', 'L'].filter letters.contains
  let width := countWidth c names (letters.length = 1)
  let row (counts : List Nat) (title : String) : Chunk :=
    ⟨.out, encodeUtf8 (String.intercalate " " (counts.map (padded width)) ++ title ++ "\n")⟩
  let (chunks, totals) := (orInput names).foldl (fun (chunks, totals) name =>
    let complaint (o : Obstacle) : Chunk :=
      messageOf "wc" (quotedName name ++ ": " ++ obstacleText o)
    let title := if names.isEmpty then "" else " " ++ quotedName name
    if name.isEmpty then (chunks ++ [messageOf "wc" "invalid zero-length file name"], totals)
    else match readNamed c name with
    | .ok bytes =>
      let counts := letters.map (countOf bytes)
      (chunks ++ [row counts title], List.zipWith (· + ·) totals counts)
    | .error .isADirectory =>
      (chunks ++ [complaint .isADirectory, row (letters.map fun _ => 0) title], totals)
    | .error o => (chunks ++ [complaint o], totals))
    (([] : List Chunk), letters.map fun _ => 0)
  let all := if names.length > 1 then chunks ++ [row totals " total"] else chunks
  afterReading c names
    (.ofChunks c (if chunks.any (·.channel = .err) then 1 else 0) all)

end Utility

end CommandServer.Job
