/-
File paths. A path is a root and its parts; empty parts and single dots carry no meaning and are
dropped when a path is read, double dots stay until the path is resolved.
-/
namespace CommandServer

/-- Exactly two slashes at the start are a root of their own; any other count is one slash. -/
inductive PathRoot where
  | relative
  | slash
  | twoSlashes
  deriving DecidableEq, Repr

structure Path where
  root : PathRoot
  parts : List String
  deriving DecidableEq, Repr

namespace Path

/-! ## Reading and writing -/

/-- The pieces of a text between slashes, with the piece read so far. -/
def splitSlashes (piece : List Char) : List Char → List (List Char)
  | [] => [piece.reverse]
  | '/' :: r => piece.reverse :: splitSlashes [] r
  | c :: r => splitSlashes (c :: piece) r

def rootOf : List Char → PathRoot
  | '/' :: '/' :: '/' :: _ => .slash
  | '/' :: '/' :: _ => .twoSlashes
  | '/' :: _ => .slash
  | _ => .relative

def isPart (piece : List Char) : Bool := !piece.isEmpty && piece != ['.']

def ofString (s : String) : Path :=
  ⟨rootOf s.toList, ((splitSlashes [] s.toList).filter isPart).map String.ofList⟩

def rootText : PathRoot → String
  | .relative => ""
  | .slash => "/"
  | .twoSlashes => "//"

/-- The text of a path; the empty path is the directory it is relative to. -/
def text (p : Path) : String :=
  if p.root = .relative ∧ p.parts = [] then "."
  else rootText p.root ++ String.intercalate "/" p.parts

/-! ## Operations -/

def isAbsolute (p : Path) : Bool := p.root != .relative

/-- The second path seen from the first one. -/
def join (p q : Path) : Path :=
  if q.isAbsolute then q else ⟨p.root, p.parts ++ q.parts⟩

def parent (p : Path) : Path := ⟨p.root, p.parts.dropLast⟩

/-- The last part. -/
def name (p : Path) : String := p.parts.getLast?.getD ""

/-- One more part of a resolved path; a double dot takes the last part away. -/
def descend (parts : List String) (part : String) : List String :=
  if part = ".." then parts.dropLast else parts ++ [part]

/-- The absolute path without double dots, seen from a working directory. -/
def resolve (p working : Path) : Path :=
  ⟨.slash, (working.join p).parts.foldl descend []⟩

/-- The text of a path without slashes at its end; the root alone keeps its own. -/
def trimSlashes (s : String) : String :=
  let kept := (s.toList.reverse.dropWhile (· == '/')).reverse
  if kept.isEmpty then "/" else String.ofList kept

/-- A character that no file name may hold. -/
def hasNul (p : Path) : Bool := p.parts.any fun part => part.toList.contains '\x00'

end Path

end CommandServer
