/-
Processes. A process sees files, an environment, a working directory and the bytes on its input. It
leaves a status, the bytes that it wrote to its two output channels in the order of writing, the
files, and the time that it took.
-/
import CommandServer.Execution
import CommandServer.Files

namespace CommandServer.Job

open CommandServer.Text

/-- The directory that holds the programs. -/
def programDirectory : Place := ["usr", "bin"]

/-- The file that is always empty and takes any output. -/
def nullDevice : Place := ["dev", "null"]

inductive Channel where
  | out
  | err
  deriving DecidableEq, Repr

structure Chunk where
  channel : Channel
  bytes : List UInt8
  deriving DecidableEq, Repr

/-- The bytes on one channel. -/
def bytesOn (c : Channel) (chunks : List Chunk) : List UInt8 :=
  (chunks.filter (·.channel = c)).flatMap Chunk.bytes

/-- The input may be a file, in which one can go back, or a directory, which cannot be read. The mask
takes permissions away from new files. -/
structure Context where
  files : Files
  environment : Environment
  working : Place
  input : List UInt8 := []
  inputIsFile : Bool := false
  inputIsDirectory : Bool := false
  mask : Nat := 0o022

/-- A negative status is the number of the signal that ended the process. -/
structure Report where
  status : Int
  chunks : List Chunk
  files : Files
  micros : Nat := 0
  consumed : Nat := 0

/-- The time after which a run counts as one that does not end. -/
def endless : Nat := powTen 18

/-- What a program does with its arguments, the first of which is its own name. -/
abbrev Behaviour := List String → Context → Report

namespace Report

def ofChunks (c : Context) (status : Int) (chunks : List Chunk) : Report :=
  { status, chunks, files := c.files }

def ofBytes (c : Context) (bytes : List UInt8) : Report := ofChunks c 0 [⟨.out, bytes⟩]

/-- Success with a text. -/
def ofText (c : Context) (s : String) : Report := ofBytes c (encodeUtf8 s)

/-- A failure that a program reports under its name. -/
def complaint (c : Context) (status : Int) (program message : String) : Report :=
  ofChunks c status [⟨.err, encodeUtf8 (program ++ ": " ++ message ++ "\n")⟩]

end Report

/-! ## Obstacles -/

/-- What programs say about an obstacle. -/
def obstacleText (o : Obstacle) : String :=
  match o with
  | .missing => "No such file or directory"
  | .occupied => "File exists"
  | .notADirectory => "Not a directory"
  | .isADirectory => "Is a directory"
  | .nameTooLong => "File name too long"

end CommandServer.Job
