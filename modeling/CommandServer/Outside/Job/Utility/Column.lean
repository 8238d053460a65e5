/-
Programs that take columns out of lines, put columns side by side, and number lines.
-/
import CommandServer.Outside.Job.Utility.Order
import CommandServer.Outside.Text.RegularExpression.Reader

namespace CommandServer.Job

open CommandServer.Text

namespace Utility

/-! ## Ranges -/

/-- Positions from one to another, counted from one; without a last one it goes on to the end. -/
structure PositionRange where
  first : Nat
  last : Option Nat

namespace PositionRange

def contains (r : PositionRange) (k : Nat) : Bool := r.first ≤ k && r.last.all (k ≤ ·)

/-- The later one of two ends. -/
def laterEnd : Option Nat → Option Nat → Option Nat
  | some a, some b => some (max a b)
  | _, _ => none

/-- Ranges in order without those that overlap. -/
def merge : List PositionRange → List PositionRange
  | [] => []
  | r :: rest =>
    match merge rest with
    | next :: more =>
      if r.last.all (next.first ≤ ·) then ⟨r.first, laterEnd r.last next.last⟩ :: more
      else r :: next :: more
    | [] => [r]

/-- The ranges between others, from a position on. -/
def complement (start : Nat) : List PositionRange → List PositionRange
  | [] => [⟨start, none⟩]
  | r :: rest =>
    let gap := if start < r.first then [⟨start, some (r.first - 1)⟩] else []
    match r.last with
    | some last => gap ++ complement (last + 1) rest
    | none => gap

/-- What is said about positions, which may be those of fields. -/
structure Wording where
  start : String
  range : String
  value : String
  size : String

def fieldWording : Wording :=
  ⟨"fields are numbered from 1", "invalid field range", "invalid field value ", "field number "⟩

def byteWording : Wording :=
  ⟨"byte/character positions are numbered from 1", "invalid byte or character range",
    "invalid byte/character position ", "byte/character offset "⟩

/-- What has been read of a range: the number in front of a dash, whether there was a dash, and the
number behind it. -/
structure Part where
  first : Option Nat := none
  dashed : Bool := false
  last : Option Nat := none

/-- The range that has been read. -/
def ofPart (w : Wording) (p : Part) : Except String PositionRange :=
  if !p.dashed then
    match p.first with
    | some k => if k = 0 then .error w.start else .ok ⟨k, some k⟩
    | none => .error w.start
  else match p.first, p.last with
    | none, none => .error "invalid range with no endpoint: -"
    | first, none => .ok ⟨first.getD 1, none⟩
    | first, some last =>
      if last < first.getD 1 then .error "invalid decreasing range"
      else .ok ⟨first.getD 1, some last⟩

/-- The greatest position that can be asked for. -/
def limit : Nat := powTwo 64 - 2

/-- Reads ranges between commas and blanks. -/
def readFrom (w : Wording) : Nat → Part → List Char → Except String (List PositionRange)
  | 0, _, _ => .ok []
  | _ + 1, p, [] => do return [← ofPart w p]
  | n + 1, p, c :: rest =>
    if c = '-' then
      if p.dashed then .error w.range
      else if p.first = some 0 then .error w.start
      else readFrom w n { p with dashed := true } rest
    else if c = ',' ∨ c = ' ' ∨ c = '\t' then do
      return (← ofPart w p) :: (← readFrom w n {} rest)
    else if c.isDigit then
      let digits := (c :: rest).takeWhile Char.isDigit
      let k := ofDigits 10 digits
      let rest := rest.drop (digits.length - 1)
      if limit < k then
        .error (w.size ++ quotedWord (String.ofList digits) ++ " is too large")
      else readFrom w n (if p.dashed then { p with last := some k } else { p with first := some k })
        rest
    else .error (w.value ++ quotedWord (String.ofList (c :: rest)))

def read (w : Wording) (text : String) : Except String (List PositionRange) := do
  let ranges ← readFrom w (text.length + 1) {} text.toList
  return merge (ranges.mergeSort fun a b => a.first ≤ b.first)

end PositionRange

/-! ## Cutting -/

/-- How columns are taken out of lines. -/
structure Cutting where
  ranges : List PositionRange
  separator : Option UInt8
  joint : Option (List UInt8)
  onlySeparated : Bool

namespace Cutting

/-- The bytes at positions, with something between ranges if that is asked for. -/
def bytes (t : Cutting) (line : List UInt8) : List UInt8 :=
  let parts := t.ranges.map fun r =>
    let last := (r.last.getD line.length)
    (line.take last).drop (r.first - 1)
  ((parts.filter fun p => !p.isEmpty).intersperse (t.joint.getD [])).flatten

/-- The fields at positions. A line without a separator stays as it is, or is left out. -/
def fields (t : Cutting) (separator : UInt8) (line : List UInt8) : Option (List UInt8) :=
  if !line.contains separator then if t.onlySeparated then none else some line
  else
    let kept := (fieldsBy (some separator) line).zipIdx.filter fun (_, k) =>
      t.ranges.any (·.contains (k + 1))
    some ((kept.map Prod.fst).intersperse (t.joint.getD [separator])).flatten

def lines (t : Cutting) (lines : List (List UInt8)) : List (List UInt8) :=
  match t.separator with
  | some separator => lines.filterMap (t.fields separator)
  | none => lines.map t.bytes

end Cutting

/-- What options ask for to be cut out. -/
def readCutting (options : List (Char × String)) : Except String Cutting := do
  let lists := options.filter fun o => o.1 == 'b' || o.1 == 'c' || o.1 == 'f'
  let separator ← match (optionValue? options 'd').map encodeUtf8 with
    | none => pure 0x09
    | some [] => pure 0
    | some [b] => pure b
    | some _ => throw "the delimiter must be a single character"
  match lists with
  | [] => throw "you must specify a list of bytes, characters, or fields"
  | [(kind, text)] => do
    if kind != 'f' && hasOption options 'd' then
      throw "an input delimiter may be specified only when operating on fields"
    if kind != 'f' && hasOption options 's' then
      throw "suppressing non-delimited lines makes sense\n\tonly when operating on fields"
    let wording := if kind = 'f' then PositionRange.fieldWording else PositionRange.byteWording
    let ranges ← PositionRange.read wording text
    let ranges := if hasOption options 'x' then PositionRange.complement 1 ranges else ranges
    return ⟨ranges, if kind = 'f' then some separator else none,
      (optionValue? options 'o').map fun text => if text.isEmpty then [0] else encodeUtf8 text,
      hasOption options 's'⟩
  | _ => throw "only one list may be specified"

/-- The files that a program shows one after the other, and what cannot be read of them. -/
def showEach (program : String) (change : List UInt8 → List UInt8) (names : List String)
    (c : Context) : Report :=
  let chunks : List Chunk := (orInput names).map fun name => match readNamed c name with
    | .ok bytes => ⟨.out, change bytes⟩
    | .error o => messageOf program (quotedName name ++ ": " ++ obstacleText o)
  afterReading c names (.ofChunks c (if chunks.any (·.channel = .err) then 1 else 0) chunks)

def cut : Behaviour := fun argv c =>
  let names : OptionNames :=
    ⟨"b:c:d:f:nso:xz".toList, [("bytes", 'b'), ("characters", 'c'), ("fields", 'f'),
      ("delimiter", 'd'), ("only-delimited", 's'), ("output-delimiter", 'o'), ("complement", 'x'),
      ("zero-terminated", 'z')]⟩
  match names.read false argv.tail with
  | .error message => misuse c "cut" message
  | .ok (options, operands) =>
    match readCutting options with
    | .error message => misuse c "cut" message
    | .ok t => showEach "cut" (fun bytes => joinLines (t.lines (bareLines bytes))) operands c

/-! ## Pasting -/

/-- The separators of columns that a text stands for; one of them may be nothing. -/
def readJoints : List Char → Option (List (List Char))
  | [] => some []
  | ['\\'] => none
  | '\\' :: '0' :: rest => (readJoints rest).map ([] :: ·)
  | '\\' :: c :: rest =>
    let byte := match escapedControls.lookup c with
      | some n => Char.ofNat n
      | none => c
    (readJoints rest).map ([byte] :: ·)
  | c :: rest => (readJoints rest).map ([c] :: ·)

/-- Fields with separators between them, which come again and again. -/
def joinWith (joints : List (List UInt8)) (fields : List (List UInt8)) : List UInt8 :=
  match fields with
  | [] => []
  | first :: rest =>
    first ++ (rest.zipIdx.flatMap fun (f, k) => joints.getD (k % max 1 joints.length) [] ++ f)

/-- The lines that each name stands for. Those of the input go to all its names in turn. -/
def columnsOf (c : Context) (names : List String) : List (Except Obstacle (List (List UInt8))) :=
  let shared := (names.filter inputNames.contains).length
  names.zipIdx.map fun (name, k) =>
    (readNamed c name).map fun bytes =>
      let lines := bareLines bytes
      if !inputNames.contains name then lines
      else
        let turn := ((names.take k).filter inputNames.contains).length
        (lines.zipIdx.filter fun (_, i) => i % shared == turn).map Prod.fst

def paste : Behaviour :=
  withArguments "paste" "d:sz" [("delimiters", 'd'), ("serial", 's')] fun options names c =>
    let names := orInput names
    let given := (optionValue? options 'd').getD "\t"
    match readJoints (octets given).toList with
    | none =>
      .complaint c 1 "paste" ("delimiter list ends with an unescaped backslash: " ++ given)
    | some joints =>
      let joints := (if joints.isEmpty then [[]] else joints).map bytesOfChars
      let columns := names.zip (columnsOf c names)
      let refusal (name : String) (o : Obstacle) : Chunk :=
        messageOf "paste" (quotedName name ++ ": " ++ obstacleText o)
      let missing := columns.filterMap fun (name, column) => match column with
        | .error .isADirectory | .ok _ => none
        | .error o => some (refusal name o)
      let failed := if columns.any fun x => x.2 matches .error _ then 1 else 0
      if hasOption options 's' then
        let chunks : List Chunk := columns.flatMap fun (name, column) => match column with
          | .ok lines => [⟨.out, joinLines [joinWith joints lines]⟩]
          | .error .isADirectory => [⟨.out, [0x0A]⟩, refusal name .isADirectory]
          | .error o => [refusal name o]
        afterReading c names (.ofChunks c failed chunks)
      else match missing with
        | first :: _ => .ofChunks c 1 [first]
        | [] =>
          let lists := columns.map fun x => x.2.toOption.getD []
          let count := lists.foldl (fun n l => max n l.length) 0
          let rows := (List.range count).map fun k =>
            joinWith joints (lists.map fun l => l.getD k [])
          let errors := columns.filterMap fun (name, column) => match column with
            | .ok _ => none
            | .error o => some (refusal name o)
          afterReading c names (.ofChunks c failed (⟨.out, joinLines rows⟩ :: errors))

/-! ## Numbering -/

/-- How numbers stand in front of lines. -/
structure Numbering where
  isNumbered : List UInt8 → Bool
  start : Int
  step : Int
  width : Nat
  joint : List UInt8
  align : String

/-- A number in the columns that it has. -/
def Numbering.text (t : Numbering) (n : Int) : List UInt8 :=
  let digits := integerText n
  let fill (c : Char) : String := String.ofList (List.replicate (t.width - digits.length) c)
  encodeUtf8 (if t.align = "ln" then digits ++ fill ' '
    else if t.align = "rn" then fill ' ' ++ digits
    else if n < 0 then "-" ++ fill '0' ++ integerText (-n) else fill '0' ++ digits)

def Numbering.lines (t : Numbering) : Int → List (List UInt8) → List (List UInt8)
  | _, [] => []
  | n, line :: rest =>
    if t.isNumbered line then (t.text n ++ t.joint ++ line) :: t.lines (n + t.step) rest
    else (List.replicate (t.width + t.joint.length) 0x20 ++ line) :: t.lines n rest

/-- The lines that a letter asks to be numbered. -/
def numberedLines (style : String) : Except (Bool × String) (List UInt8 → Bool) :=
  match style.toList with
  | ['a'] => .ok fun _ => true
  | ['t'] => .ok fun line => !line.isEmpty
  | ['n'] => .ok fun _ => false
  | 'p' :: pattern =>
    match RegularExpression.read {} (octets (String.ofList pattern)) with
    | .ok r => .ok fun line => r.isIn (charsOfBytes line)
    | .error f => .error (false, f.message)
  | _ => .error (true, "invalid body numbering style: " ++ quotedWord style)

def readNumbering (options : List (Char × String)) : Except (Bool × String) Numbering := do
  let isNumbered ← numberedLines ((optionValue? options 'b').getD "t")
  let number (letter : Char) (what : String) (usual : Int) : Except (Bool × String) Int :=
    match optionValue? options letter with
    | none => .ok usual
    | some text =>
      match text.toInt? with
      | some n => .ok n
      | none => .error (false, "invalid " ++ what ++ ": " ++ quotedWord text)
  let start ← number 'v' "starting line number" 1
  let step ← number 'i' "line number increment" 1
  let width ← number 'w' "line number field width" 6
  if width < 1 then
    throw (false, "invalid line number field width: " ++
      quotedWord ((optionValue? options 'w').getD "") ++ ": Numerical result out of range")
  let align := (optionValue? options 'n').getD "rn"
  if ! ["ln", "rn", "rz"].contains align then
    throw (true, "invalid line numbering format: " ++ quotedWord align)
  return ⟨isNumbered, start, step, width.toNat,
    encodeUtf8 ((optionValue? options 's').getD "\t"), align⟩

def nl : Behaviour := withArguments "nl" "b:d:f:h:i:l:n:ps:v:w:" [("body-numbering", 'b'),
    ("number-separator", 's'), ("number-width", 'w'), ("starting-line-number", 'v'),
    ("line-increment", 'i'), ("number-format", 'n')] fun options names c =>
  match readNumbering options with
  | .error (true, message) => misuse c "nl" message
  | .error (false, message) => .complaint c 1 "nl" message
  | .ok t =>
    let results := (orInput names).map fun name => (name, readNamed c name)
    let errors : List Chunk := results.filterMap fun (name, result) => match result with
      | .ok _ => none
      | .error o => some (messageOf "nl" (quotedName name ++ ": " ++ obstacleText o))
    let lines := results.flatMap fun r => bareLines (r.2.toOption.getD [])
    afterReading c names (.ofChunks c (if errors.isEmpty then 0 else 1)
      (errors ++ [⟨.out, joinLines (t.lines t.start lines)⟩]))

end Utility

end CommandServer.Job
