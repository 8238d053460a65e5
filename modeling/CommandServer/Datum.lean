/-
What a document holds, once its text has been read: scalars of their types, and mappings from
scalars. How a text is read is no part of the program, which is given a reader.
-/
import CommandServer.Datum.Calendar
import CommandServer.Value.Text

namespace CommandServer

open CommandServer.Text

/-! ## Scalars -/

inductive Scalar where
  | null
  | bool (b : Bool)
  | int (n : Int)
  | float (x : Binary64)
  | text (s : String)
  | bytes (bs : List UInt8)
  | date (d : Date)
  | moment (m : Moment)
  deriving DecidableEq, Repr, Inhabited

/-- The scalar as a text, which an integer of too many digits does not have. -/
def Scalar.written : Scalar → Except Fault String
  | .null => .ok "None"
  | .bool b => .ok (truthText b)
  | .int n => writeInteger n
  | .float x => .ok x.text
  | .text s => .ok s
  | .bytes bs => .ok (quotedBytes bs)
  | .date d => .ok d.text
  | .moment m => .ok m.text

/-! ## Data -/

/-- A collection other than a mapping from scalars has no use for its reader but that it is one. -/
inductive Datum where
  | scalar (s : Scalar)
  | mapping (entries : List (Scalar × Datum))
  | collection
  deriving Inhabited

/-- Why a text is not read: it is malformed, or reading it meets a fault that is no matter of its
form. -/
inductive ReadFailure where
  | malformed
  | fault (f : Fault)
  deriving DecidableEq, Repr

/-- Reads the text of a document. -/
abbrev DocumentReader := List Char → Except ReadFailure Datum

namespace Datum

/-! ## Mappings -/

/-- The entries of a mapping; anything else has none. -/
def entries : Datum → List (Scalar × Datum)
  | .mapping es => es
  | _ => []

/-- What stands under a text, where nothing counts as null. -/
def under (d : Datum) (name : String) : Datum :=
  ((d.entries.find? fun e => e.1 == .text name).map Prod.snd).getD (.scalar .null)

/-! ## Data from elsewhere -/

mutual

/-- An argument value as a datum. -/
def ofValue : Value → Datum
  | .null => .scalar .null
  | .bool b => .scalar (.bool b)
  | .int n => .scalar (.int n)
  | .float x => .scalar (.float x)
  | .text s => .scalar (.text s)
  | .bytes bs => .scalar (.bytes bs)
  | .list _ => .collection
  | .tuple _ => .collection
  | .record es => .mapping (ofEntries es)

def ofEntries : List (String × Value) → List (Scalar × Datum)
  | [] => []
  | (k, v) :: es => (.text k, ofValue v) :: ofEntries es

end

end Datum

end CommandServer
