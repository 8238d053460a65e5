/-
Programs that work on the characters of their input.
-/
import CommandServer.Outside.Job.Utility.Order
import CommandServer.Outside.Text.CharacterClass

namespace CommandServer.Job

open CommandServer.Text

namespace Utility

/-! ## Sets of bytes -/

/-- A byte that may be written as an escape, and what follows. -/
def readByte : List Char → Option (Char × List Char)
  | [] => none
  | '\\' :: c :: r =>
    match escapedControls.lookup c with
    | some n => some (Char.ofNat n, r)
    | none =>
      if isOctal c then
        let digits := ((c :: r).take 3).takeWhile isOctal
        let digits := if 255 < ofDigits 8 digits then digits.take 2 else digits
        some (Char.ofNat (ofDigits 8 digits), (c :: r).drop digits.length)
      else some (c, r)
  | c :: r => some (c, r)

/-- A part of a set: bytes in order, or one that is repeated to fill up a set. -/
inductive SetPart where
  | bytes (cs : List Char)
  | filler (c : Char)

def reverseRange (first last : Char) : String :=
  "range-endpoints of " ++ quotedWord (String.ofList [first, '-', last]) ++
    " are in reverse collating sequence order"

/-- The parts of a set of bytes. -/
def readSet : Nat → List Char → Except String (List SetPart)
  | 0, _ => .ok []
  | _ + 1, [] => .ok []
  | n + 1, cs => do
    match cs with
    | '[' :: ':' :: r =>
      let name := r.takeWhile (· != ':')
      match r.drop name.length with
      | ':' :: ']' :: rest =>
        match characterClasses.lookup (String.ofList name) with
        | some p =>
          let members := ((List.range 256).map Char.ofNat).filter p
          return .bytes members :: (← readSet n rest)
        | none => throw ("invalid character class " ++ quotedWord (String.ofList name))
      | _ => readFrom n cs
    | '[' :: '=' :: c :: '=' :: ']' :: rest => return .bytes [c] :: (← readSet n rest)
    | '[' :: r =>
      match readByte r with
      | some (c, '*' :: r) =>
        let digits := r.takeWhile Char.isDigit
        match r.drop digits.length with
        | ']' :: rest =>
          let count := ofDigits (if digits.head? = some '0' then 8 else 10) digits
          let part : SetPart := if count = 0 then .filler c else .bytes (List.replicate count c)
          return part :: (← readSet n rest)
        | _ => readFrom n cs
      | _ => readFrom n cs
    | cs => readFrom n cs
where
  /-- The parts from a single byte or a range on. -/
  readFrom (n : Nat) (cs : List Char) : Except String (List SetPart) := do
    match readByte cs with
    | none => return []
    | some (c, '-' :: r) =>
      match readByte r with
      | none => return .bytes [c] :: (← readSet n ('-' :: r))
      | some (d, rest) =>
        if d < c then throw (reverseRange c d)
        let range := (List.range (d.toNat - c.toNat + 1)).map fun k => Char.ofNat (c.toNat + k)
        return .bytes range :: (← readSet n rest)
    | some (c, rest) => return .bytes [c] :: (← readSet n rest)

/-- The bytes of a set that is filled up to a size, if anything fills it. -/
def setBytes (size : Nat) (parts : List SetPart) : List Char :=
  let known := (parts.map fun p => match p with
    | .bytes cs => cs.length
    | .filler _ => 0).foldl (· + ·) 0
  parts.flatMap fun p => match p with
    | .bytes cs => cs
    | .filler c => List.replicate (size - known) c

/-- Bytes with one of those that follow one another and are the same. -/
def squeeze (members : List Char) : List Char → List Char
  | a :: b :: r =>
    let rest := squeeze members (b :: r)
    if a = b ∧ members.contains a then rest else a :: rest
  | cs => cs

/-- What becomes of each byte of a set: that of another set at its place, or else the last one. -/
def translation (from' to' : List Char) : List (Char × Char) :=
  let last := to'.getLast?.getD ' '
  from'.zipIdx.map fun (c, k) => (c, to'.getD k last)

/-- A byte translated; of several rules for it the last one counts. -/
def translate (rules : List (Char × Char)) (c : Char) : Char :=
  ((rules.filter (·.1 == c)).getLast?.map Prod.snd).getD c

def tr : Behaviour :=
  let long := [("complement", 'c'), ("delete", 'd'), ("squeeze-repeats", 's'),
    ("truncate-set1", 't')]
  withArguments "tr" "cCdst" long fun options operands c =>
    let deletes := hasOption options 'd'
    let squeezes := hasOption options 's'
    let complements := hasOption options 'c' || hasOption options 'C'
    let least := if deletes == squeezes then 2 else 1
    let most := if deletes && !squeezes then 1 else 2
    let missing (first note : String) : Report :=
      misuse c "tr" ("missing operand after " ++ quotedWord first ++ "\n" ++ note)
    match operands with
    | [] => misuse c "tr" "missing operand"
    | first :: others =>
      if operands.length < least then
        missing first (if deletes then
          "Two strings must be given when both deleting and squeezing repeats."
          else "Two strings must be given when translating.")
      else if most < operands.length then
        let extra := quotedWord (operands.getD most "")
        misuse c "tr" ("extra operand " ++ extra ++ (if most = 1 && operands.length = 2 then
          "\nOnly one string may be given when deleting without squeezing repeats." else ""))
      else
        let read (s : String) := readSet (s.utf8ByteSize + 1) (octets s).toList
        match read first, (others.head?.map read).getD (.ok []) with
        | .error message, _ | _, .error message => .complaint c 1 "tr" message
        | .ok one, .ok two =>
          let given := setBytes 0 one
          let first := if complements
            then ((List.range 256).map Char.ofNat).filter (!given.contains ·) else given
          let second := setBytes first.length two
          let input := charsOfBytes c.input
          if !deletes && !others.isEmpty && second.isEmpty then
            .complaint c 1 "tr" "when not truncating set1, string2 must be non-empty"
          else
            let first := if hasOption options 't' then first.take second.length else first
            let kept := if deletes then input.filter (!first.contains ·)
              else if others.isEmpty then input
              else
                let rules := translation first second
                input.map (translate rules)
            let squeezed := if others.isEmpty then first else second
            let out := if squeezes then squeeze squeezed kept else kept
            { Report.ofBytes c (bytesOfChars out) with consumed := c.input.length }

/-! ## Lines -/

/-- The lines of files, each changed. -/
def mapLines (program : String) (change : List UInt8 → List UInt8) (names : List String)
    (refusal : String → Obstacle → String) (c : Context) : Report :=
  let results := (orInput names).map fun name => (name, readNamed c name)
  let chunks : List Chunk := results.map fun (name, result) => match result with
    | .ok bytes =>
      ⟨.out, (linesOf [] bytes).flatMap fun l =>
        change (bareLine l) ++ if l.getLast? = some 0x0A then [0x0A] else []⟩
    | .error o => messageOf program (refusal name o)
  afterReading c names (.ofChunks c (if chunks.any (·.channel = .err) then 1 else 0) chunks)

def rev : Behaviour := withFlags "rev" "" fun _ names c =>
  mapLines "rev" List.reverse names
    (fun name o => "cannot open " ++ name ++ ": " ++ obstacleText o) c

/-- A line with line feeds so that no part of it is wider than it may be. Where it is to be cut at
blanks, the last one that fits ends a part. -/
def foldLine (width : Nat) (atBlanks : Bool) : Nat → List UInt8 → List UInt8
  | 0, line => line
  | n + 1, line =>
    if line.length ≤ width then line
    else
      let part := line.take width
      let kept := (part.reverse.dropWhile fun b => b != 0x20 && b != 0x09).reverse
      let part := if atBlanks && !kept.isEmpty then kept else part
      part ++ 0x0A :: foldLine width atBlanks n (line.drop part.length)

def fold : Behaviour :=
  withArguments "fold" "bsw:" [("width", 'w'), ("spaces", 's'), ("bytes", 'b')]
    fun options names c =>
      let given := (optionValue? options 'w').getD "80"
      match given.toNat?.filter (0 < ·) with
      | none =>
        .complaint c 1 "fold" ("invalid number of columns: " ++ quotedWord given ++
          if given.toNat?.isSome then ": Numerical result out of range" else "")
      | some width =>
        mapLines "fold" (fun l => foldLine width (hasOption options 's') l.length l) names
          (fun name o => quotedName name ++ ": " ++ obstacleText o) c

/-- A line with blanks in place of tabs. -/
def expandTabs (width : Nat) : Nat → List UInt8 → List UInt8
  | _, [] => []
  | column, b :: r =>
    if b = 0x09 then
      let count := width - column % width
      List.replicate count 0x20 ++ expandTabs width (column + count) r
    else b :: expandTabs width (column + 1) r

def expand : Behaviour := fun argv c =>
  let spelledOut (a : String) : String :=
    if a.length > 1 && a.startsWith "-" && (a.drop 1).toString.isNat then
      "-t" ++ (a.drop 1).toString else a
  let run := withArguments "expand" "it:" [("tabs", 't')] fun options names c =>
    let width := (((optionValue? options 't').bind String.toNat?).filter (0 < ·)).getD 8
    mapLines "expand" (expandTabs width 0) names
      (fun name o => quotedName name ++ ": " ++ obstacleText o) c
  run (argv.map spelledOut) c

/-! ## Dumps -/

/-- How bytes are shown in a dump: as characters, or as numbers of a base with as many digits. -/
inductive DumpForm where
  | character
  | number (base width size : Nat)

/-- A group of bytes in a dump. -/
def DumpForm.show (f : DumpForm) (bs : List UInt8) : String :=
  match f with
  | .character =>
    let b := bs.headD 0
    let controls := [(0x00, "\\0"), (0x07, "\\a"), (0x08, "\\b"), (0x09, "\\t"), (0x0A, "\\n"),
      (0x0B, "\\v"), (0x0C, "\\f"), (0x0D, "\\r")]
    let text := match controls.lookup b.toNat with
      | some t => t
      | none => if isPrintableByte b then String.ofList [Char.ofNat b.toNat] else octal 3 b.toNat
    String.ofList (List.replicate (4 - text.length) ' ') ++ text
  | .number base width _ =>
    let value := bs.foldr (fun b n => n * 256 + b.toNat) 0
    let digits := String.ofList (Nat.toDigits base value)
    let filler := if base = 10 then ' ' else '0'
    " " ++ String.ofList (List.replicate (width - digits.length) filler) ++ digits
where
  octal (width n : Nat) : String :=
    let digits := Nat.toDigits 8 n
    String.ofList (List.replicate (width - digits.length) '0' ++ digits)

def DumpForm.size : DumpForm → Nat
  | .character => 1
  | .number _ _ size => size

/-- Parts of a list of one size, but for the last one. -/
def partsOf {α : Type} (size : Nat) : Nat → List α → List (List α)
  | 0, _ => []
  | _ + 1, [] => []
  | n + 1, items => items.take size :: partsOf size n (items.drop size)

/-- The form of a dump that letters ask for. -/
def dumpForm? (text : String) : Option DumpForm :=
  match text.toList with
  | ['c'] => some .character
  | ['x', '1'] => some (.number 16 2 1)
  | ['x', '2'] | ['x'] => some (.number 16 (if text = "x" then 8 else 4) (if text = "x" then 4 else 2))
  | ['x', '4'] => some (.number 16 8 4)
  | ['o', '1'] => some (.number 8 3 1)
  | ['o', '2'] => some (.number 8 6 2)
  | ['u', '1'] => some (.number 10 3 1)
  | ['u', '2'] => some (.number 10 5 2)
  | ['d', '1'] => some (.number 10 4 1)
  | _ => none

/-- The lines of a dump. Lines that are the same as the one before are left out behind a star. -/
def dumpLines (form : DumpForm) (addresses all : Bool) (bytes : List UInt8) : String :=
  let address (n : Nat) : String := if addresses then DumpForm.show.octal 7 n else ""
  let rows := partsOf 16 (bytes.length + 1) bytes
  let line (k : Nat) (row : List UInt8) : String :=
    address (16 * k) ++ String.join ((partsOf form.size 17 row).map form.show) ++ "\n"
  let isRepeat (k : Nat) (row : List UInt8) : Bool :=
    !all && 0 < k && rows[k - 1]? == some row && row.length == 16
  let body := rows.zipIdx.map fun (row, k) =>
    if !isRepeat k row then line k row
    else if isRepeat (k - 1) (rows.getD (k - 1) []) then ""
    else "*\n"
  String.join body ++ (if addresses then address bytes.length ++ "\n" else "")

def od : Behaviour := withArguments "od" "A:bcdoxt:vw:N:j:" [("address-radix", 'A'), ("format", 't')]
  fun options names c =>
    let form := options.filterMap fun (letter, value) => match letter with
      | 't' => dumpForm? value
      | 'c' => some DumpForm.character
      | 'b' => some (.number 8 3 1)
      | 'x' => some (.number 16 4 2)
      | 'd' => some (.number 10 5 2)
      | _ => none
    let form := form.getLast?.getD (.number 8 6 2)
    let results := (orInput names).map fun name => (name, readNamed c name)
    let errors : List Chunk := results.filterMap fun (name, result) => match result with
      | .ok _ => none
      | .error o => some (messageOf "od" (quotedName name ++ ": " ++ obstacleText o))
    let bytes := results.flatMap fun r => r.2.toOption.getD []
    let bytes := match (optionValue? options 'N').bind String.toNat? with
      | some k => bytes.take k
      | none => bytes
    let text := dumpLines form (optionValue? options 'A' != some "n") (hasOption options 'v') bytes
    let isRead := results.any fun r => r.2 matches .ok _
    afterReading c names (.ofChunks c (if errors.isEmpty then 0 else 1)
      (errors ++ if isRead then [⟨.out, encodeUtf8 text⟩] else []))

/-! ## Letters for bytes -/

def base64Digits : List Char :=
  "ABCDEFGHIJKLMNOPQRSTUVWXYZabcdefghijklmnopqrstuvwxyz0123456789+/".toList

/-- Four letters for up to three bytes. -/
def encodeThree (bs : List UInt8) : List Char :=
  let n := ((bs ++ [0, 0]).take 3).foldl (fun n (b : UInt8) => n * 256 + b.toNat) 0
  let digit (k : Nat) : Char := base64Digits.getD (n / k % 64) 'A'
  match bs with
  | [_] => [digit 262144, digit 4096, '=', '=']
  | [_, _] => [digit 262144, digit 4096, digit 64, '=']
  | _ => [digit 262144, digit 4096, digit 64, digit 1]

/-- The bytes that letters stand for, four at a time; none where letters are missing or wrong. -/
def decodeLetters : Nat → List Char → List UInt8 × Bool
  | 0, _ => ([], true)
  | _ + 1, [] => ([], true)
  | n + 1, cs =>
    let four := cs.take 4
    let digits := four.takeWhile (· != '=')
    let values := digits.map fun c => base64Digits.findIdx? (· == c)
    if four.length < 4 ∨ digits.length < 2 ∨ values.any Option.isNone then ([], false)
    else
      let values := (values.map fun v => v.getD 0) ++ [0, 0]
      let value := (values.take 4).foldl (fun n v => n * 64 + v) 0
      let bytes := [value / 65536, value / 256 % 256, value % 256].map UInt8.ofNat
      let (rest, fine) := decodeLetters n (cs.drop 4)
      (bytes.take (digits.length - 1) ++ rest, fine)

def base64 : Behaviour :=
  withArguments "base64" "diw:" [("decode", 'd'), ("wrap", 'w'), ("ignore-garbage", 'i')]
    fun options names c =>
      let name := names.headD "-"
      match readNamed c name with
      | .error o =>
        .complaint c 1 "base64" (if o = .isADirectory then "read error: Is a directory"
          else quotedName name ++ ": " ++ obstacleText o)
      | .ok bytes =>
        if hasOption options 'd' then
          let cs := (charsOfBytes bytes).filter (· != '\n')
          let (out, fine) := decodeLetters (cs.length + 1) cs
          let chunks : List Chunk := ⟨.out, out⟩ ::
            if fine then [] else [messageOf "base64" "invalid input"]
          afterReading c [name] (.ofChunks c (if fine then 0 else 1) chunks)
        else
          let letters := (partsOf 3 (bytes.length + 1) bytes).flatMap encodeThree
          let width := ((optionValue? options 'w').bind String.toNat?).getD 76
          let lines := if width = 0 then [letters] else partsOf width (letters.length + 1) letters
          let text := String.intercalate "\n" (lines.map String.ofList)
          let close := if letters.isEmpty || width = 0 then "" else "\n"
          afterReading c [name] (.ofText c (text ++ close))

end Utility

end CommandServer.Job
