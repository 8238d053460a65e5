/-
Reading files, and the program that shows them.
-/
import CommandServer.Outside.Job.Utility.Print

namespace CommandServer.Job

open CommandServer.Text

namespace Utility

/-! ## Reading -/

/-- The names under which programs read their input. -/
def inputNames : List String := ["-", "/dev/stdin", "/dev/fd/0"]

/-- The bytes of a named file, or of the input. -/
def readNamed (c : Context) (name : String) : Except Obstacle (List UInt8) :=
  if !inputNames.contains name then c.files.read c.working name
  else if c.inputIsDirectory then .error .isADirectory
  else .ok c.input

/-- The names that a program reads: the input if there are none. -/
def orInput (names : List String) : List String := if names.isEmpty then ["-"] else names

/-- The report of a program that has read files to their ends. -/
def afterReading (c : Context) (names : List String) (r : Report) : Report :=
  if (orInput names).any inputNames.contains then { r with consumed := c.input.length } else r

/-- The lines of a byte string, each with its line feed. -/
def linesOf (line : List UInt8) : List UInt8 → List (List UInt8)
  | [] => if line.isEmpty then [] else [line.reverse]
  | b :: r => if b = 0x0A then (b :: line).reverse :: linesOf [] r else linesOf (b :: line) r

/-- A message under the name of a program. -/
def messageOf (program message : String) : Chunk :=
  ⟨.err, encodeUtf8 (program ++ ": " ++ message ++ "\n")⟩

/-- A number with spaces in front of it, up to a width. -/
def padded (width k : Nat) : String :=
  let digits := decimalDigits k
  String.ofList (List.replicate (width - digits.length) ' ' ++ digits)

/-- Numbers in front of lines, or of those that hold anything but a line feed. -/
def numberLines (skipEmpty : Bool) : Nat → List (List UInt8) → List (List UInt8)
  | _, [] => []
  | k, line :: rest =>
    if skipEmpty && line == [0x0A] then line :: numberLines skipEmpty k rest
    else (encodeUtf8 (padded 6 k ++ "\t") ++ line) ::
      numberLines skipEmpty (k + 1) rest

def markEnd (line : List UInt8) : List UInt8 :=
  if line.getLast? = some 0x0A then line.dropLast ++ [0x24, 0x0A] else line

def cat : Behaviour := withFlags "cat" "AbeEnstTuv" fun letters names c =>
  let results := (orInput names).map fun name => (name, readNamed c name)
  let lines := linesOf [] (results.flatMap fun r => (r.2.toOption).getD [])
  let marked := if letters.any "AEe".toList.contains then lines.map markEnd else lines
  let numbered := if letters.any "bn".toList.contains
    then numberLines (letters.contains 'b') 1 marked else marked
  let complaints := results.filterMap fun (name, result) => match result with
    | .ok _ => none
    | .error o => some (messageOf "cat" (quotedName name ++ ": " ++ obstacleText o))
  afterReading c names
    (.ofChunks c (if complaints.isEmpty then 0 else 1) (⟨.out, numbered.flatten⟩ :: complaints))

end Utility

end CommandServer.Job
