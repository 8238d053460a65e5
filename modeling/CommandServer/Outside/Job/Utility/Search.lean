/-
The program that searches files for lines that match regular expressions.
-/
import CommandServer.Outside.Job.Utility.File
import CommandServer.Outside.Text.RegularExpression.Reader

namespace CommandServer.Job

open CommandServer.Text

namespace Utility

/-! ## Settings -/

/-- What lines are searched for, and what is shown of them. -/
structure Search where
  expressions : List RegularExpression
  inverted : Bool
  titled : Bool
  options : List (Char × String)
  before : Nat
  after : Nat
  limit : Option Nat

namespace Search

def has (s : Search) (c : Char) : Bool := hasOption s.options c

/-- Whether a line is selected. -/
def selects (s : Search) (line : List Char) : Bool :=
  s.expressions.any (·.isIn line) != s.inverted

/-- The parts of a line that match. -/
def parts (s : Search) (line : List Char) : List (List Char) :=
  match s.expressions with
  | [] => []
  | first :: others =>
    let all := others.foldl RegularExpression.either first
    (all.segments line).filterMap fun p => match p with
      | .matched m => if m.whole.isEmpty then none else some m.whole
      | .plain _ => none

/-! ## Results -/

/-- What is put in front of a line: the name of the file and the number, each before a sign. -/
def lineStart (s : Search) (title : String) (number : Nat) (sign : String) : List UInt8 :=
  encodeUtf8 ((if s.titled then title ++ sign else "") ++
    if s.has 'n' then toString number ++ sign else "")

/-- The lines to show: those that are selected and those around them, with their numbers. -/
def shown (s : Search) (selected : List (Nat × List Char)) (lines : List (Nat × List Char)) :
    List (Nat × List Char × Bool) :=
  lines.filterMap fun (k, line) =>
    if selected.any (·.1 == k) then some (k, line, true)
    else if selected.any fun x => k ≤ x.1 + s.after && x.1 ≤ k + s.before then some (k, line, false)
    else none

/-- Lines with dashes between those that do not follow one another. -/
def withGaps (s : Search) (title : String) : Option Nat → List (Nat × List Char × Bool) → List UInt8
  | _, [] => []
  | last, (k, line, isSelected) :: rest =>
    let gap := if (s.before != 0 || s.after != 0) && last.any (· + 1 < k)
      then encodeUtf8 "--\n" else []
    let start := s.lineStart title k (if isSelected then ":" else "-")
    let body := if !s.has 'o' then bytesOfChars line ++ [0x0A] else []
    let matched := if s.has 'o' && isSelected && !s.inverted
      then (s.parts line).flatMap fun part => start ++ bytesOfChars part ++ [0x0A] else []
    gap ++ (if s.has 'o' then matched else start ++ body) ++ withGaps s title (some k) rest

/-- What is shown of a file, and whether anything in it is selected. -/
def file (s : Search) (title : String) (bytes : List UInt8) : List UInt8 × Bool :=
  let lines := ((linesOf [] bytes).map fun l =>
    charsOfBytes (if l.getLast? = some 0x0A then l.dropLast else l)).zipIdx.map fun (l, k) =>
      (k + 1, l)
  let all := lines.filter fun l => s.selects l.2
  let selected := match s.limit with
    | some k => all.take k
    | none => all
  let found := !selected.isEmpty
  let out :=
    if s.has 'q' then []
    else if s.has 'l' then if found then encodeUtf8 (title ++ "\n") else []
    else if s.has 'L' then if found then [] else encodeUtf8 (title ++ "\n")
    else if s.has 'c' then
      encodeUtf8 ((if s.titled then title ++ ":" else "") ++ toString selected.length ++ "\n")
    else if found && bytes.contains 0 && !s.has 'a' then
      encodeUtf8 ("grep: " ++ title ++ ": binary file matches\n")
    else s.withGaps title none (s.shown selected lines)
  (out, found)

end Search

/-! ## Program -/

def searchUsage : String := "Usage: grep [OPTION]... PATTERNS [FILE]..."

def searchHint : String := searchUsage ++ "\nTry 'grep --help' for more information."

/-- The expressions of which one must match; each line of the pattern is one. -/
def readExpressions (options : List (Char × String)) (pattern : String) :
    Except RegularFault (List RegularExpression) :=
  (pattern.splitOn "\n").mapM fun text => do
    let ignoresCase := hasOption options 'i' || hasOption options 'y'
    let r ← if hasOption options 'F' then
        pure (RegularExpression.literal (octets text).toList ignoresCase)
      else RegularExpression.read ⟨hasOption options 'E', ignoresCase⟩ (octets text)
    return if hasOption options 'x' then r.wholeLine
      else if hasOption options 'w' then r.wholeWord else r

/-- The files below a place in order, each under a name that starts as given. -/
def filesBelow (fs : Files) : Nat → String → Place → List (String × List UInt8)
  | 0, _, _ => []
  | n + 1, name, place =>
    match fs.get? place with
    | some (.file bytes) => [(name, bytes)]
    | some .directory =>
      ((fs.children place).mergeSort (· ≤ ·)).flatMap fun child =>
        filesBelow fs n (if name.isEmpty then child
          else if name.endsWith "/" then name ++ child else name ++ "/" ++ child) (place ++ [child])
    | none => []

/-- Searches files one after the other. -/
def searchFiles (s : Search) (names : List String) (recursive : Bool) (c : Context) : Report :=
  let title (name : String) : String := if name = "-" then "(standard input)" else name
  let found := names.flatMap fun name =>
    match if recursive && !inputNames.contains name
        then c.files.find c.working (if name.isEmpty then "." else name)
      else .error .missing with
    | .ok (place, .directory) =>
      (filesBelow c.files 64 name place).map fun (name, bytes) =>
        (name, Except.ok bytes)
    | _ => [(name, readNamed c name)]
  let (chunks, any, failed) := found.foldl (fun (chunks, any, failed) (name, result) =>
    match result with
    | .ok bytes =>
      let (out, hit) := s.file (title name) bytes
      (chunks ++ [⟨.out, out⟩], any || hit, failed)
    | .error o =>
      let message := name ++ ": " ++ obstacleText o
      (chunks ++ (if s.has 's' then [] else [messageOf "grep" message]), any, true))
    (([] : List Chunk), false, false)
  let status := if any && (s.has 'q' || !failed) then 0 else if failed then 2 else 1
  afterReading c names (.ofChunks c status chunks)

def searchNames : List (String × Char) :=
  [("extended-regexp", 'E'), ("fixed-strings", 'F'), ("basic-regexp", 'G'), ("regexp", 'e'),
    ("file", 'f'), ("ignore-case", 'i'), ("invert-match", 'v'), ("count", 'c'),
    ("line-number", 'n'), ("files-with-matches", 'l'), ("files-without-match", 'L'),
    ("only-matching", 'o'), ("quiet", 'q'), ("silent", 'q'), ("no-messages", 's'),
    ("word-regexp", 'w'), ("line-regexp", 'x'), ("with-filename", 'H'), ("no-filename", 'h'),
    ("max-count", 'm'), ("recursive", 'r'), ("text", 'a'), ("after-context", 'A'),
    ("before-context", 'B'), ("context", 'C')]

def search (preset : List (Char × String)) : Behaviour := fun argv c =>
  let refuse (message : String) : Report := .complaint c 2 "grep" message
  match OptionNames.read ⟨"A:B:C:EFGHLace:f:hilm:noqrRsvwxy".toList, searchNames⟩ false argv.tail with
  | .error message => refuse (message ++ "\n" ++ searchHint)
  | .ok (options, operands) =>
    let options := preset ++ options
    let given := (options.filter (·.1 == 'e')).map Prod.snd
    let fromFile := (optionValue? options 'f').map fun name =>
      (readNamed c name).map fun bytes =>
        let text := String.ofList (decodeUtf8Lenient bytes)
        if text.endsWith "\n" then (text.dropEnd 1).toString else text
    let patterns := given ++ (fromFile.bind Except.toOption).toList
    let (pattern, names) := if given.isEmpty && fromFile.isNone
      then (operands.head?, operands.tail) else (some (String.intercalate "\n" patterns), operands)
    match pattern, fromFile with
    | _, some (.error o) => refuse ((optionValue? options 'f').getD "" ++ ": " ++ obstacleText o)
    | none, _ => .ofChunks c 2 [⟨.err, encodeUtf8 (searchHint ++ "\n")⟩]
    | some pattern, _ =>
      let number (letter : Char) : Option Nat := (optionValue? options letter).bind String.toNat?
      let recursive := hasOption options 'r' || hasOption options 'R'
      match readExpressions options pattern with
      | .error f => refuse f.message
      | .ok expressions =>
        let around := (number 'C').getD 0
        let names' := if !names.isEmpty then names else if recursive then [""] else ["-"]
        let s : Search :=
          { expressions, options, inverted := hasOption options 'v'
            titled := !hasOption options 'h' &&
              (hasOption options 'H' || 1 < names.length || recursive)
            before := (number 'B').getD around, after := (number 'A').getD around
            limit := number 'm' }
        searchFiles s names' recursive c

end Utility

end CommandServer.Job
