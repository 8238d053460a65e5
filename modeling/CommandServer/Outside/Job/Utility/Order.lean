/-
Programs that put lines in order, or work on lines that are in order.
-/
import CommandServer.Outside.Job.Utility.File

namespace CommandServer.Job

open CommandServer.Text

namespace Utility

/-! ## Lines -/

/-- A line without its line feed. -/
def bareLine (line : List UInt8) : List UInt8 :=
  if line.getLast? = some 0x0A then line.dropLast else line

/-- The lines of a byte string without their line feeds. -/
def bareLines (bytes : List UInt8) : List (List UInt8) := (linesOf [] bytes).map bareLine

/-- Lines with line feeds behind them. -/
def joinLines (lines : List (List UInt8)) : List UInt8 := lines.flatMap (· ++ [0x0A])

/-! ## Keys -/

/-- A part of a line by which lines are put in order: from a character of a field to another one. A
last character of zero means the whole field. -/
structure SortKey where
  field : Nat
  char : Nat
  last : Option (Nat × Nat)
  letters : List Char

/-- A field with a character in it, and what follows. -/
def readPlace? (cs : List Char) : Option (Nat × Option Nat × List Char) :=
  let field := cs.takeWhile Char.isDigit
  let rest := cs.drop field.length
  if field.isEmpty then none
  else match rest with
    | '.' :: r =>
      let char := r.takeWhile Char.isDigit
      some (ofDigits 10 field, some (ofDigits 10 char), r.drop char.length)
    | r => some (ofDigits 10 field, none, r)

/-- The key that a text stands for. -/
def SortKey.read (text : String) : Except String SortKey :=
  let invalid (what : String) : Except String SortKey :=
    .error (what ++ ": invalid field specification " ++ quotedWord text)
  match readPlace? text.toList with
  | none => .error ("invalid number at field start: invalid count at start of " ++ quotedWord text)
  | some (field, char, rest) =>
    let letters := rest.takeWhile fun c => c != ','
    if field = 0 then invalid "field number is zero"
    else if char = some 0 then invalid "character offset is zero"
    else match letters.find? fun c => !"bdfgiMhnRrV".toList.contains c with
      | some _ => invalid "stray character in field spec"
      | none =>
        match rest.drop letters.length with
        | [] => .ok ⟨field, char.getD 1, none, letters⟩
        | _ :: r =>
          match readPlace? r with
          | none =>
            .error ("invalid number after ',': invalid count at start of " ++
              quotedWord (String.ofList r))
          | some (field', char', more) =>
            if field' = 0 then invalid "field number is zero"
            else if more.any fun c => !"bdfgiMhnRrV".toList.contains c then
              invalid "stray character in field spec"
            else .ok ⟨field, char.getD 1, some (field', char'.getD 0), letters ++ more⟩

/-- The fields of a line. Without a separator of their own they begin with the blanks in front of
them. -/
def fieldsBy (separator : Option UInt8) (line : List UInt8) : List (List UInt8) :=
  match separator with
  | some b => splitAt b [] line
  | none => splitBlank (line.length + 1) line
where
  splitAt (b : UInt8) (field : List UInt8) : List UInt8 → List (List UInt8)
    | [] => [field.reverse]
    | c :: r => if c = b then field.reverse :: splitAt b [] r else splitAt b (c :: field) r
  splitBlank : Nat → List UInt8 → List (List UInt8)
    | 0, _ => []
    | _ + 1, [] => []
    | n + 1, line =>
      let blank (b : UInt8) : Bool := b == 0x20 || b == 0x09
      let front := line.takeWhile blank
      let word := (line.drop front.length).takeWhile (!blank ·)
      (front ++ word) :: splitBlank n (line.drop (front.length + word.length))

/-- The part of a line that a key means. -/
def SortKey.part (k : SortKey) (separator : Option UInt8) (letters : List Char)
    (line : List UInt8) : List UInt8 :=
  let fields := fieldsBy separator line
  let gap := if separator.isSome then 1 else 0
  let offsetOf (field : Nat) : Nat :=
    (fields.take (field - 1)).foldl (fun n f => n + f.length + gap) 0
  let skipBlanks (n : Nat) : Nat :=
    if letters.contains 'b' then
      n + ((line.drop n).takeWhile fun b => b == 0x20 || b == 0x09).length
    else n
  let start := skipBlanks (offsetOf k.field) + (k.char - 1)
  let finish := match k.last with
    | none => line.length
    | some (field, 0) => offsetOf field + (fields.getD (field - 1) []).length
    | some (field, char) => skipBlanks (offsetOf field) + char
  (line.take (min finish line.length)).drop start

/-! ## Comparison -/

/-- The order of byte strings by their first difference, the shorter one first without one. -/
def isNotAfter : List UInt8 → List UInt8 → Bool
  | [], _ => true
  | _ :: _, [] => false
  | a :: as, b :: bs => a < b || (a == b && isNotAfter as bs)

/-- The number at the start of a text as a fraction, and what follows. -/
def leadingNumber (line : List UInt8) : Int × Nat × List Char :=
  let cs := (charsOfBytes line).dropWhile fun c => c == ' ' || c == '\t'
  let (negative, cs) := match cs with
    | '-' :: r => (true, r)
    | r => (false, r)
  let whole := cs.takeWhile Char.isDigit
  let (decimals, rest) := match cs.dropWhile Char.isDigit with
    | '.' :: r => (r.takeWhile Char.isDigit, r.dropWhile Char.isDigit)
    | r => ([], r)
  let n : Int := ofDigits 10 (whole ++ decimals)
  (if negative then -n else n, powTen decimals.length, rest)

/-- The order of the numbers at the start of texts. -/
def hasLesserNumber (a b : List UInt8) : Bool :=
  let ((n, d, _), (m, e, _)) := (leadingNumber a, leadingNumber b)
  n * e ≤ m * d

/-- The order of numbers by the letter for their unit, then by size. -/
def hasLesserSize (a b : List UInt8) : Bool :=
  let rank (x : List UInt8) : Int :=
    let (n, _, rest) := leadingNumber x
    let unit : Nat := match rest.head? with
      | some c => (("KMGTPEZY".toList.findIdx? (· == c.toUpper)).map Nat.succ).getD 0
      | none => 0
    if n < 0 then -(unit : Int) else if n = 0 then 0 else unit
  rank a < rank b || (rank a == rank b && hasLesserNumber a b)

/-- The order of texts in which numbers stand. -/
def hasLesserVersion : Nat → List UInt8 → List UInt8 → Bool
  | 0, _, _ => true
  | n + 1, a, b =>
    let isDigit (b : UInt8) : Bool := 0x30 ≤ b && b ≤ 0x39
    let (p, q) := (a.takeWhile (!isDigit ·), b.takeWhile (!isDigit ·))
    if p != q then isNotAfter p q
    else
      let (a, b) := (a.drop p.length, b.drop q.length)
      let (k, m) := (a.takeWhile isDigit, b.takeWhile isDigit)
      let value (x : List UInt8) : Nat := ofDigits 10 (charsOfBytes x)
      if a.isEmpty then true
      else if b.isEmpty then false
      else if value k ≠ value m then value k < value m
      else hasLesserVersion n (a.drop k.length) (b.drop m.length)

/-- Whether a text may stand before another one by the rule that letters ask for. -/
def mayPrecede (letters : List Char) (a b : List UInt8) : Bool :=
  let kept (x : List UInt8) : List UInt8 :=
    let x := if letters.contains 'b' then x.dropWhile fun b => b == 0x20 || b == 0x09 else x
    let x := if letters.contains 'd' then
      x.filter fun b =>
        let c := Char.ofNat b.toNat
        c.isAlphanum || c == ' ' || c == '\t' else x
    let x := if letters.contains 'i' then x.filter isPrintableByte else x
    if letters.contains 'f' then bytesOfChars ((charsOfBytes x).map Char.toUpper) else x
  if letters.contains 'h' then hasLesserSize a b
  else if letters.contains 'n' || letters.contains 'g' then hasLesserNumber a b
  else if letters.contains 'V' then hasLesserVersion (a.length + 1) a b
  else isNotAfter (kept a) (kept b)

/-- How lines are put in order. -/
structure SortOrder where
  keys : List SortKey
  separator : Option UInt8
  letters : List Char

namespace SortOrder

/-- The letters that count for a key: its own, or those for all. -/
def lettersOf (o : SortOrder) (k : SortKey) : List Char :=
  if k.letters.isEmpty then o.letters else k.letters

/-- Whether a line may stand before another one by the keys alone, and whether it must. -/
def byKeys (o : SortOrder) : List SortKey → List UInt8 → List UInt8 → Bool × Bool
  | [], _, _ => (true, false)
  | k :: keys, a, b =>
    let letters := o.lettersOf k
    let (p, q) := (k.part o.separator letters a, k.part o.separator letters b)
    let (p, q) := if letters.contains 'r' then (q, p) else (p, q)
    match mayPrecede letters p q, mayPrecede letters q p with
    | true, true => byKeys o keys a b
    | before, _ => (before, before)

/-- Whether lines are as good as one another. -/
def alike (o : SortOrder) (a b : List UInt8) : Bool :=
  let keys := if o.keys.isEmpty then [⟨1, 1, none, []⟩] else o.keys
  o.byKeys keys a b == (true, false)

/-- Whether a line may stand before another one. Lines that are alike stand in the order of their
bytes, unless they are to stay as they came. -/
def allows (o : SortOrder) (a b : List UInt8) : Bool :=
  let keys := if o.keys.isEmpty then [⟨1, 1, none, []⟩] else o.keys
  let (may, must) := o.byKeys keys a b
  if must || !may then may
  else if o.letters.contains 's' || o.letters.contains 'u' then true
  else if o.letters.contains 'r' then isNotAfter b a
  else isNotAfter a b

end SortOrder

/-! ## Sorting -/

/-- Lines without those that are as good as the one before. -/
def withoutRepeats (alike : List UInt8 → List UInt8 → Bool) :
    List (List UInt8) → List (List UInt8)
  | a :: b :: rest =>
    let kept := withoutRepeats alike (b :: rest)
    if alike a b then a :: kept.tail else a :: kept
  | lines => lines

def SortOrder.sort (o : SortOrder) (lines : List (List UInt8)) : List (List UInt8) :=
  let sorted := lines.mergeSort o.allows
  if o.letters.contains 'u' then withoutRepeats o.alike sorted else sorted

/-- The first line that stands behind one that it should not, with its number. -/
def SortOrder.disorder? (o : SortOrder) : Nat → List (List UInt8) → Option (Nat × List UInt8)
  | k, a :: b :: rest =>
    let fine := o.allows a b && !(o.letters.contains 'u' && o.alike a b)
    if fine then disorder? o (k + 1) (b :: rest) else some (k + 1, b)
  | _, _ => none

/-- The separator of fields that is asked for. -/
def readSeparator (text : Option String) : Except String (Option UInt8) :=
  match text.map encodeUtf8 with
  | none => .ok none
  | some [] => .error "empty tab"
  | some [b] => .ok (some b)
  | some bs =>
    if bs = [0x5C, 0x30] then .ok (some 0)
    else .error ("multi-character tab " ++ quotedWord (text.getD ""))

def readOrder (options : List (Char × String)) : Except String SortOrder := do
  let separator ← readSeparator (optionValue? options 't')
  let keys ← ((options.filter (·.1 == 'k')).map Prod.snd).mapM SortKey.read
  return ⟨keys, separator, options.map Prod.fst⟩

/-- Sorts the lines of all files, or says whether they are in order. -/
def sortFiles (o : SortOrder) (options : List (Char × String)) (names : List String) (c : Context) :
    Report :=
  let results := (orInput names).map fun name => (name, readNamed c name)
  let errors := results.filterMap fun (name, result) => match result with
    | .ok _ => none
    | .error o => some (name, o)
  match errors.find? fun e => e.2 ≠ .isADirectory, errors.head? with
  | some (name, o), _ =>
    .complaint c 2 "sort" ("cannot read: " ++ quotedName name ++ ": " ++ obstacleText o)
  | none, some (name, o) =>
    .complaint c 2 "sort" ("read failed: " ++ quotedName name ++ ": " ++ obstacleText o)
  | none, none =>
    let lines := results.flatMap fun r => bareLines (r.2.toOption.getD [])
    let checks := hasOption options 'c' || hasOption options 'C'
    match checks, (if checks then o.disorder? 1 lines else none), optionValue? options 'o' with
    | true, none, _ => .ofChunks c 0 []
    | true, some (k, line), _ =>
      let name := (orInput names).headD "-"
      .ofChunks c 1 (if hasOption options 'C' then [] else
        [⟨.err, encodeUtf8 ("sort: " ++ name ++ ":" ++ toString k ++ ": disorder: ") ++ line ++
          [0x0A]⟩])
    | false, _, none => .ofBytes c (joinLines (o.sort lines))
    | false, _, some file =>
      match c.files.locateFile c.working file with
      | .ok place =>
        { Report.ofChunks c 0 [] with
          files := c.files.create c.mask place (.file (joinLines (o.sort lines))) }
      | .error o =>
        .complaint c 2 "sort" ("open failed: " ++ quotedName file ++ ": " ++ obstacleText o)

def sort : Behaviour := fun argv c =>
  let names : OptionNames :=
    ⟨"bcCdfghik:MmnRro:st:uVz".toList, [("reverse", 'r'), ("unique", 'u'), ("numeric-sort", 'n'),
      ("key", 'k'), ("field-separator", 't'), ("output", 'o'), ("stable", 's'), ("check", 'c'),
      ("ignore-case", 'f'), ("human-numeric-sort", 'h'), ("version-sort", 'V'),
      ("ignore-leading-blanks", 'b'), ("dictionary-order", 'd'), ("general-numeric-sort", 'g')]⟩
  match names.read false argv.tail with
  | .error message => .complaint c 2 "sort" (message ++ helpHint "sort")
  | .ok (options, operands) =>
    match readOrder options with
    | .error message => .complaint c 2 "sort" message
    | .ok o => afterReading c operands (sortFiles o options operands c)

/-! ## Repeated lines -/

/-- What counts of a line when it is compared with another one. -/
def comparedPart (options : List (Char × String)) (line : List UInt8) : List UInt8 :=
  let number (letter : Char) : Nat := ((optionValue? options letter).bind String.toNat?).getD 0
  let rest := (fieldsBy none line).drop (number 'f')
  let part := rest.flatten.drop (number 's')
  let part := if hasOption options 'w' then part.take (number 'w') else part
  if hasOption options 'i' then bytesOfChars ((charsOfBytes part).map Char.toLower) else part

/-- Lines that follow one another and are alike, together. -/
def groupAlike (alike : List UInt8 → List UInt8 → Bool) : List (List UInt8) →
    List (List (List UInt8))
  | [] => []
  | line :: rest =>
    match groupAlike alike rest with
    | (next :: more) :: groups =>
      if alike line next then (line :: next :: more) :: groups
      else [line] :: (next :: more) :: groups
    | groups => [line] :: groups

/-- What is shown of lines that are alike. -/
def showRepeats (options : List (Char × String)) (lines : List (List UInt8)) : List UInt8 :=
  let first := lines.headD []
  let repeated := 1 < lines.length
  if hasOption options 'd' && !repeated || hasOption options 'u' && repeated then []
  else if hasOption options 'D' then if repeated then joinLines lines else []
  else
    let count := if hasOption options 'c' then encodeUtf8 (padded 7 lines.length ++ " ") else []
    joinLines [count ++ first]

def uniq : Behaviour :=
  let long := [("count", 'c'), ("repeated", 'd'), ("unique", 'u'), ("ignore-case", 'i'),
    ("skip-fields", 'f'), ("skip-chars", 's'), ("check-chars", 'w')]
  withArguments "uniq" "cdDf:is:uw:z" long fun options names c =>
    let name := names.headD "-"
    match names, readNamed c name with
    | _ :: _ :: extra :: _, _ => misuse c "uniq" ("extra operand " ++ quotedWord extra)
    | _, .error o =>
      .complaint c 1 "uniq" ((if o = .isADirectory then "error reading " ++ quotedWord name
        else quotedName name) ++ ": " ++ obstacleText o)
    | _, .ok bytes =>
      let alike (a b : List UInt8) : Bool := comparedPart options a == comparedPart options b
      let out := (groupAlike alike (bareLines bytes)).flatMap (showRepeats options)
      match names[1]?.map (c.files.locateFile c.working) with
      | some (.ok place) => 
        { Report.ofChunks c 0 [] with files := c.files.create c.mask place (.file out) }
      | some (.error o) =>
        .complaint c 1 "uniq" (quotedName (names.getD 1 "") ++ ": " ++ obstacleText o)
      | none => afterReading c [name] (.ofBytes c out)

/-! ## Common lines -/

/-- The lines of two files in order, each behind as many tabs as its column asks for. -/
def mergeCommon (shown : Nat → Option Nat) : Nat → List (List UInt8) → List (List UInt8) →
    List (List UInt8)
  | 0, _, _ => []
  | n + 1, as, bs =>
    let line (column : Nat) (l : List UInt8) : List (List UInt8) :=
      match shown column with
      | some tabs => [List.replicate tabs 0x09 ++ l]
      | none => []
    match as, bs with
    | [], [] => []
    | a :: as, [] => line 1 a ++ mergeCommon shown n as []
    | [], b :: bs => line 2 b ++ mergeCommon shown n [] bs
    | a :: as, b :: bs =>
      if a = b then line 3 a ++ mergeCommon shown n as bs
      else if isNotAfter a b then line 1 a ++ mergeCommon shown n as (b :: bs)
      else line 2 b ++ mergeCommon shown n (a :: as) bs

def comm : Behaviour := withFlags "comm" "123" fun letters names c =>
  match names with
  | [] => misuse c "comm" "missing operand"
  | [a] => misuse c "comm" ("missing operand after " ++ quotedWord a)
  | [a, b] =>
    match readNamed c a, readNamed c b with
    | .ok x, .ok y =>
      let hidden (k : Nat) : Bool := letters.contains (asciiDigit k)
      let shown (k : Nat) : Option Nat :=
        if hidden k then none
        else some (((List.range k).filter fun i => 0 < i && !hidden i).length)
      afterReading c names
        (.ofBytes c (joinLines (mergeCommon shown (x.length + y.length + 2) (bareLines x)
          (bareLines y))))
    | .error o, _ => .complaint c 1 "comm" (quotedName a ++ ": " ++ obstacleText o)
    | _, .error o => .complaint c 1 "comm" (quotedName b ++ ": " ++ obstacleText o)
  | _ => misuse c "comm" ("extra operand " ++ quotedWord (names.getD 2 ""))

/-- The lines of files, those of each from the last one to the first. -/
def tac : Behaviour := withFlags "tac" "" fun _ names c =>
  let results := (orInput names).map fun name => (name, readNamed c name)
  let chunks : List Chunk := results.map fun (name, result) => match result with
    | .ok bytes => ⟨.out, (linesOf [] bytes).reverse.flatten⟩
    | .error .isADirectory => messageOf "tac" (quotedName name ++ ": read error: Invalid argument")
    | .error o =>
      messageOf "tac" ("failed to open " ++ alwaysQuoted name ++ " for reading: " ++ obstacleText o)
  afterReading c names (.ofChunks c (if chunks.any (·.channel = .err) then 1 else 0) chunks)

end Utility

end CommandServer.Job
