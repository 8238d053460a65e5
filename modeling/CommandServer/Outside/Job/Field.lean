/-
Fields of shell words. The characters of a word come quoted or not, and those that replace an
unquoted part may separate fields: blanks among the separators count once however many there are,
any other separator ends a field of its own.
-/
import CommandServer.Outside.Job.Pattern

namespace CommandServer.Job

/-- A piece of an expanded word: a character, the mark that a quotation leaves even if it is empty,
or the gap between two arguments. -/
inductive FieldItem where
  | char (c : Char) (quoted splits : Bool)
  | mark
  | gap (quoted : Bool)

/-- The separators of fields. Without any, nothing but gaps separates. -/
abbrev Separators := List Char

def defaultSeparators : Separators := [' ', '\t', '\n']

namespace FieldItem

def ofText (quoted splits : Bool) (s : String) : List FieldItem :=
  s.toList.map fun c => .char c quoted splits

/-- The text of a word that stays in one piece, with a separator in its gaps. -/
def joined (separator : String) (items : List FieldItem) : FieldText :=
  items.flatMap fun i => match i with
    | .char c quoted _ => [(c, quoted)]
    | .mark => []
    | .gap quoted => FieldText.ofString quoted separator

end FieldItem

/-- Where a division into fields stands: the fields in reverse, the open one in reverse with whether
there is anything of it, and what has been seen since the last separator ended a field: blanks only,
or more. -/
structure Division where
  fields : List FieldText := []
  current : FieldText := []
  isOpen : Bool := false
  afterBlank : Option Bool := none

namespace Division

def close (d : Division) : Division :=
  { d with fields := d.current.reverse :: d.fields, current := [], isOpen := false }

def add (c : Char) (quoted : Bool) (d : Division) : Division :=
  { d with current := (c, quoted) :: d.current, isOpen := true, afterBlank := none }

/-- A separator, which may be a blank. -/
def separate (blank : Bool) (d : Division) : Division :=
  match d.afterBlank with
  | some true => if blank then d else { d with afterBlank := some false }
  | some false => if blank then d else d.close
  | none =>
    if !d.isOpen && blank then d else { d.close with afterBlank := some blank }

def step (separators : Separators) (d : Division) (i : FieldItem) : Division :=
  match i with
  | .char c quoted splits =>
    if splits && separators.contains c then d.separate (defaultSeparators.contains c)
    else d.add c quoted
  | .mark => { d with isOpen := true, afterBlank := none }
  | .gap true => { d.close with isOpen := true, afterBlank := none }
  | .gap false => d.separate true

end Division

/-- The fields that pieces make up. -/
def fieldsOf (separators : Separators) (items : List FieldItem) : List FieldText :=
  let d := items.foldl (Division.step separators) {}
  (if d.isOpen then d.close else d).fields.reverse

end CommandServer.Job
