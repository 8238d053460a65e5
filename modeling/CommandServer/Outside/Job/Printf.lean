/-
Formatted printing as a command: a format with escapes and slots, used again as long as there are
arguments left. Missing arguments count as empty.
-/
import CommandServer.Outside.Job.Basic
import CommandServer.Outside.Job.Printf.Operand
import CommandServer.Outside.Job.Quotation
import CommandServer.Outside.Text.Octet
import CommandServer.Text.Slot

namespace CommandServer.Job

open CommandServer.Text

/-! ## Escapes -/

def charBytes (c : Char) : List UInt8 := encodeUtf8 (String.ofList [c])

def escapedControls : List (Char × Nat) :=
  [('\\', 0x5C), ('a', 0x07), ('b', 0x08), ('f', 0x0C), ('n', 0x0A), ('r', 0x0D), ('t', 0x09),
    ('v', 0x0B)]

def isOctal (c : Char) : Bool := '0' ≤ c && c ≤ '7'

def isHex (c : Char) : Bool := (hexDigitValue? c).isSome

/-- The character number that an escape gives in hexadecimal, as text for terminals that know no
such character. -/
def readCharacterNumber? (d : Dialect) : List Char → Option (List UInt8 × List Char)
  | c :: r =>
    let width := if c = 'u' then 4 else if c = 'U' then 8 else 0
    let digits := r.take width
    if d = .program ∧ 0 < width ∧ digits.length = width ∧ digits.all isHex then
      let code := ofDigits 16 digits
      some (if code < 0x80 then [UInt8.ofNat code]
        else encodeUtf8 (String.ofList ('\\' :: c :: digits.map Char.toUpper)), r.drop width)
    else none
  | [] => none

/-- The byte that an escape behind its backslash stands for, and the rest. -/
def readEscape? (d : Dialect) : List Char → Option (UInt8 × List Char)
  | [] => none
  | c :: r =>
    match escapedControls.lookup c with
    | some n => some (UInt8.ofNat n, r)
    | none =>
      if isOctal c then
        let digits := ((c :: r).take 3).takeWhile isOctal
        some (UInt8.ofNat (ofDigits 8 digits), (c :: r).drop digits.length)
      else if c = 'e' then some (0x1B, r)
      else if d = .program ∧ c = doubleQuote then some (0x22, r)
      else if d = .program ∧ c = 'x' ∧ r.head?.any isHex then
        let digits := (r.take 2).takeWhile isHex
        some (UInt8.ofNat (ofDigits 16 digits), r.drop digits.length)
      else none

/-- The bytes of a text with escapes, and whether an escape ended it early. In an argument octal
numbers may have a zero in front. -/
def unescape (d : Dialect) : Nat → List Char → List UInt8 × Bool
  | 0, _ => ([], false)
  | _ + 1, [] => ([], false)
  | _ + 1, '\\' :: 'c' :: _ => ([], true)
  | n + 1, '\\' :: '0' :: r =>
    let digits := (r.take 3).takeWhile isOctal
    let (bytes, stopped) := unescape d n (r.drop digits.length)
    (UInt8.ofNat (ofDigits 8 digits) :: bytes, stopped)
  | n + 1, '\\' :: r =>
    match readEscape? d r with
    | some (b, r) =>
      let (bytes, stopped) := unescape d n r
      (b :: bytes, stopped)
    | none =>
      let (bytes, stopped) := unescape d n r
      (0x5C :: bytes, stopped)
  | n + 1, c :: r =>
    let (bytes, stopped) := unescape d n r
    (charBytes c ++ bytes, stopped)

/-! ## Formats -/

/-- A slot comes with its spelling, for complaints; at the end of a format it may have no letter. -/
inductive FormatItem where
  | bytes (bs : List UInt8)
  | slot (spelling : String) (form : SlotForm) (letter : Option Char)
  | stop

/-- Letters that announce the size of a number, which only the larger dialect knows. -/
def isSizeLetter (d : Dialect) (c : Char) : Bool :=
  d == .program && (SlotForm.isSizeMark c || c == 'j' || c == 't' || c == 'z')

def readFormat (d : Dialect) : Nat → List Char → List FormatItem
  | 0, _ => []
  | _ + 1, [] => []
  | n + 1, '%' :: '%' :: r => .bytes [0x25] :: readFormat d n r
  | n + 1, '%' :: r =>
    let (form, rest) := SlotForm.read r
    match rest.dropWhile (isSizeLetter d) with
    | letter :: rest =>
      let spelling := '%' :: r.take (r.length - rest.length)
      .slot (String.ofList spelling) form (some letter) :: readFormat d n rest
    | [] => [.slot (String.ofList ('%' :: r)) form none]
  | n + 1, '\\' :: r =>
    if d = .program ∧ r.head? = some 'c' then [.stop]
    else match readCharacterNumber? d r with
      | some (bs, r) => .bytes bs :: readFormat d n r
      | none =>
        match readEscape? d r with
        | some (b, r) => .bytes [b] :: readFormat d n r
        | none => .bytes [0x5C] :: readFormat d n r
  | n + 1, c :: r => .bytes (charBytes c) :: readFormat d n r

/-- Whether a conversion can do with what is written in front of its letter. -/
def allowsForm (d : Dialect) (form : SlotForm) (spelling : String) (letter : Char) : Bool :=
  match d, letter with
  | .shell, _ => true
  | _, 'b' | _, 'q' => spelling.length == 2
  | _, 'c' => !form.flags.alternate && !form.flags.zeros && form.precision.isNone
  | _, 's' => !form.flags.alternate && !form.flags.zeros
  | _, 'd' | _, 'i' | _, 'u' => !form.flags.alternate
  | _, _ => true

/-! ## Whole numbers -/

/-- The digits of a whole number: none for a zero without places. -/
def wholeDigits (slot : Slot) (base : Nat) (upper : Bool) (n : Nat) : List Char :=
  if n = 0 ∧ slot.precision = some 0 then [] else slot.wholeDigits base upper n

/-- Zeros fill a whole number up only where no count of digits is asked for. -/
def fillWhole (slot : Slot) (sign digits : List Char) : List Char :=
  slot.fill sign digits (slot.zeros && slot.precision.isNone)

def fillSigned (slot : Slot) (n : Int) : List Char :=
  fillWhole slot (slot.signOf (n < 0)) (wholeDigits slot 10 false n.natAbs)

def fillUnsigned (slot : Slot) (n : Int) : List Char :=
  fillWhole slot [] (wholeDigits slot 10 false n.toNat)

/-- In the alternate form an octal number starts with a zero. -/
def fillOctal (slot : Slot) (n : Int) : List Char :=
  let digits := wholeDigits slot 8 false n.toNat
  fillWhole slot [] (if slot.alternate && digits.head? != some '0' then '0' :: digits else digits)

/-- In the alternate form a number that is not zero has a mark in front. -/
def fillHex (slot : Slot) (upper : Bool) (n : Int) : List Char :=
  let mark := if slot.alternate && n != 0 then ['0', if upper then 'X' else 'x'] else []
  fillWhole slot mark (wholeDigits slot 16 upper n.toNat)

/-! ## Printing -/

/-- What has been printed so far, and the status in which that ends. -/
structure Printed where
  out : List UInt8 := []
  complaints : List String := []
  status : Nat := 0
  stopped : Bool := false

namespace Printed

def addBytes (bs : List UInt8) (p : Printed) : Printed := { p with out := p.out ++ bs }

/-- A complaint that makes the command fail. -/
def complain (s : String) (p : Printed) : Printed :=
  { p with complaints := p.complaints ++ [s], status := 1 }

/-- A complaint about the format, behind which nothing is printed. -/
def reject (d : Dialect) (s : String) (p : Printed) : Printed :=
  { p.complain s with stopped := true, status := if d = .program then 1 else 2 }

def rejectUnfinished (d : Dialect) (spelling : String) (p : Printed) : Printed :=
  p.reject d (if d = .program then spelling ++ ": invalid conversion specification"
    else "missing format character")

def rejectSlot (d : Dialect) (spelling : String) (p : Printed) : Printed :=
  p.reject d (spelling ++ (if d = .program then ": invalid conversion specification"
    else ": invalid directive"))

/-- What is said of a number with a flaw. -/
def flawText (d : Dialect) (flaw : NumberFlaw) : String :=
  match flaw, d with
  | .unread, .program => "expected a numeric value"
  | .unread, .shell => "expected numeric value"
  | .unfinished, .program => "value not completely converted"
  | .unfinished, .shell => "not completely converted"
  | .outOfRange, _ => "Numerical result out of range"
  | .excess _, _ => "character(s) following character constant have been ignored"

/-- A complaint about a number, or a warning. -/
def addFlaw (d : Dialect) (arg : String) (flaw : Option NumberFlaw) (p : Printed) : Printed :=
  match flaw, d with
  | none, _ => p
  | some (.excess rest), .program =>
    let text := "warning: " ++ String.ofList rest ++ ": " ++ flawText d (.excess rest)
    { p with complaints := p.complaints ++ [text] }
  | some (.excess _), .shell => p
  | some flaw, d =>
    p.complain ((if d = .program then quotedWord arg else arg) ++ ": " ++ flawText d flaw)

def addText (slot : Slot) (bs : List UInt8) (p : Printed) : Printed :=
  p.addBytes (bytesOfChars (slot.fillText (String.ofList (charsOfBytes bs))))

/-- The number of an argument, where a missing one counts as `zero`. -/
def takeNumber {α : Type} (d : Dialect) (read : String → Operand α) (zero : α)
    (arg : Option String) (p : Printed) : α × Printed :=
  match arg with
  | some s =>
    let (x, flaw) := read s
    (x, p.addFlaw d s flaw)
  | none => (zero, p)

def addInteger (d : Dialect) (signed : Bool) (arg : Option String) (fit : Int → List Char)
    (p : Printed) : Printed :=
  let (n, p) := p.takeNumber d (integerOperand d signed) 0 arg
  p.addBytes (bytesOfChars (fit n))

def addReal (d : Dialect) (arg : Option String) (fit : Binary64 → List Char) (p : Printed) :
    Printed :=
  let (x, p) := p.takeNumber d (realOperand d) .zero arg
  p.addBytes (bytesOfChars (fit x))

/-- Prints one argument through a slot. -/
def addSlot (d : Dialect) (spelling : String) (slot : Slot) (letter : Char) (arg : Option String)
    (p : Printed) : Printed :=
  let bytes := encodeUtf8 (arg.getD "")
  match letter with
  | 's' => p.addText slot bytes
  | 'c' => p.addText { slot with precision := none } (if bytes.isEmpty then [0] else bytes.take 1)
  | 'b' =>
    let text := (arg.getD "").toList
    let (bytes, stopped) := unescape d (text.length + 1) text
    { p.addText slot bytes with stopped := stopped }
  | 'd' | 'i' => p.addInteger d true arg (fillSigned slot)
  | 'u' => p.addInteger d false arg (fillUnsigned slot)
  | 'o' => p.addInteger d false arg (fillOctal slot)
  | 'x' => p.addInteger d false arg (fillHex slot false)
  | 'X' => p.addInteger d false arg (fillHex slot true)
  | 'f' | 'F' => p.addReal d arg (slot.fillFloat Slot.fixed (letter == 'F') false)
  | 'e' | 'E' => p.addReal d arg (slot.fillFloat Slot.scientific (letter == 'E') false)
  | 'g' | 'G' => p.addReal d arg (slot.fillFloat Slot.shortest (letter == 'G') false)
  | 'q' =>
    if d = .program then p.addBytes (encodeUtf8 ((arg.map quotedForShell).getD ""))
    else p.rejectSlot d spelling
  | _ => p.rejectSlot d spelling

/-- A number of 32 bits: the last ones of a larger number. -/
def wrapped (n : Int) : Int := (n + powTwo 31) % powTwo 32 - powTwo 31

/-- A width or precision no less than `least`, called `what`, and the arguments behind it. -/
def takeMeasure (d : Dialect) (what : String) (least : Int) (m : Measure) (args : List String)
    (p : Printed) : Int × List String × Printed :=
  match m with
  | .number n => (n, args, p)
  | .operand =>
    let (n, p) := p.takeNumber d (integerOperand d true) 0 args.head?
    let n := if d = .program then max least n else n
    let shown := quotedWord (args.headD "")
    if wrapped n = n then (n, args.tail, p)
    else match d with
      | .shell => (wrapped n, args.tail, p)
      | .program => (0, args.tail, p.reject d ("invalid " ++ what ++ ": " ++ shown))

/-- The slot of a form, whose width and precision may be arguments themselves, and the arguments
behind them. A negative precision is none. -/
def takeSlot (d : Dialect) (form : SlotForm) (args : List String) (p : Printed) :
    Slot × List String × Printed :=
  let (slot, args, p) := match form.width with
    | none => (form.flags, args, p)
    | some m =>
      let (n, args, p) := p.takeMeasure d "field width" (-maxSigned - 1) m args
      (form.flags.widen n, args, p)
  match if p.stopped then none else form.precision with
  | none => (slot, args, p)
  | some m =>
    let (n, args, p) := p.takeMeasure d "precision" (-1) m args
    ({ slot with precision := if n < 0 then none else some n.toNat }, args, p)

/-- Prints arguments through a form, if its letter can do with it. -/
def addForm (d : Dialect) (spelling : String) (form : SlotForm) (letter : Option Char)
    (args : List String) (p : Printed) : Printed × List String :=
  let (slot, args, p) := p.takeSlot d form args
  if p.stopped then (p, args)
  else match letter with
    | none => (p.rejectUnfinished d spelling, args)
    | some letter =>
      if allowsForm d form spelling letter then
        (p.addSlot d spelling slot letter args.head?, args.tail)
      else (p.rejectSlot d spelling, args)

/-- One pass over the format; returns the arguments that it left. -/
def addItems (d : Dialect) : List FormatItem → List String → Printed → Printed × List String
  | [], args, p => (p, args)
  | item :: items, args, p =>
    if p.stopped then (p, [])
    else match item with
      | .bytes bs => addItems d items args (p.addBytes bs)
      | .slot spelling form letter =>
        let (p, args) := p.addForm d spelling form letter args
        addItems d items args p
      | .stop => ({ p with stopped := true }, [])

/-- Passes over the format until no arguments are left, or a pass takes none. -/
def addAll (d : Dialect) (items : List FormatItem) : Nat → List String → Printed → Printed
  | 0, _, p => p
  | n + 1, args, p =>
    let (p, rest) := addItems d items args p
    if p.stopped || rest.isEmpty then p
    else if rest.length < args.length then addAll d items n rest p
    else if d = .program then
      { p with complaints := p.complaints ++
          ["warning: ignoring excess arguments, starting with " ++ quotedWord (rest.headD "")] }
    else p

end Printed

/-- A format with its arguments. -/
def printf (d : Dialect) (format : String) (args : List String) : Printed :=
  let cs := format.toList
  Printed.addAll d (readFormat d (cs.length + 1) cs) (args.length + 1) args {}

end CommandServer.Job
