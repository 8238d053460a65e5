/-
Programs that make lines out of nothing: numbers in a row, and one line over and over.
-/
import CommandServer.Outside.Job.Utility.Print

namespace CommandServer.Job

open CommandServer.Text

namespace Utility

/-! ## Numbers -/

/-- A decimal number: `scaled` divided by ten as often as it has decimals, and the width of its text.
-/
structure DecimalNumber where
  scaled : Int
  decimals : Nat
  width : Nat

/-- The digits of a number with the decimals that a power of ten leaves it. -/
def DecimalNumber.ofDigits (negative : Bool) (whole decimals : List Char) (exponent : Int)
    (width : Nat) : DecimalNumber :=
  let n := Text.ofDigits 10 (whole ++ decimals)
  let kept := (decimals.length : Int) - exponent
  let n : Int := n * powTen (-kept).toNat
  ⟨if negative then -n else n, kept.toNat, width⟩

/-- Reads a number with an optional sign, point and power of ten. -/
def DecimalNumber.read? (text : String) : Option DecimalNumber :=
  let cs := text.toList.dropWhile isSpace
  let (negative, body) := Binary64.splitSign cs
  let whole := body.takeWhile Char.isDigit
  let (decimals, rest) := match body.dropWhile Char.isDigit with
    | '.' :: r => (r.takeWhile Char.isDigit, r.dropWhile Char.isDigit)
    | r => ([], r)
  let width := if cs.head? = some '+' then body.length else cs.length
  if whole.isEmpty ∧ decimals.isEmpty then none
  else match rest with
    | [] => some (.ofDigits negative whole decimals 0 width)
    | c :: r =>
      if c != 'e' && c != 'E' then none
      else
        let (minus, digits) := Binary64.splitSign r
        if digits.isEmpty || !digits.all Char.isDigit then none
        else
          let k := Text.ofDigits 10 digits
          some (.ofDigits negative whole decimals (if minus then -(k : Int) else k) width)

/-- The number at a greater count of decimals. -/
def DecimalNumber.scaledTo (x : DecimalNumber) (decimals : Nat) : Int :=
  x.scaled * powTen (decimals - x.decimals)

/-- The width of the text of a number with a count of decimals. -/
def DecimalNumber.widthWith (x : DecimalNumber) (decimals : Nat) : Nat :=
  if x.decimals = 0 ∧ 0 < decimals then x.width + 1 + decimals
  else if 0 < x.decimals ∧ decimals = 0 then x.width - x.decimals - 1
  else x.width + decimals - x.decimals

/-- A number with a count of decimals, and zeros in front up to a width. -/
def decimalText (decimals width : Nat) (n : Int) : String :=
  let digits := Text.padded (decimals + 1) n.natAbs
  let whole := digits.toList.take (digits.length - decimals)
  let rest := digits.toList.drop (digits.length - decimals)
  let body := whole ++ if rest.isEmpty then [] else '.' :: rest
  let sign := if n < 0 then ['-'] else []
  String.ofList (sign ++ List.replicate (width - sign.length - body.length) '0' ++ body)

/-! ## Rows -/

/-- The options of a program that counts, and the numbers behind them. A number may be negative. -/
def splitNumbers : List String → List String × List String
  | [] => ([], [])
  | "--" :: rest => ([], rest)
  | a :: rest =>
    match a.toList with
    | ['-', 'f'] | ['-', 's'] | ['-', '-', 's', 'e', 'p', 'a', 'r', 'a', 't', 'o', 'r'] =>
      let (options, numbers) := splitNumbers rest.tail
      (a :: rest.take 1 ++ options, numbers)
    | '-' :: c :: _ =>
      if c.isDigit || c == '.' then ([], a :: rest)
      else
        let (options, numbers) := splitNumbers rest
        (a :: options, numbers)
    | _ => ([], a :: rest)
  termination_by args => args.length

/-- The first number, the step and the last number that operands stand for. -/
def readRow (c : Context) (operands : List String) :
    Except Report (DecimalNumber × DecimalNumber × DecimalNumber) := do
  let read (text : String) : Except Report DecimalNumber :=
    match DecimalNumber.read? text with
    | some x => .ok x
    | none => .error (misuse c "seq" ("invalid floating point argument: " ++ quotedWord text))
  let one : DecimalNumber := ⟨1, 0, 1⟩
  match operands with
  | [] => throw (misuse c "seq" "missing operand")
  | [last] => return (one, one, ← read last)
  | [first, last] => return (← read first, one, ← read last)
  | [first, step, last] => do
    let first ← read first
    let by' ← read step
    if by'.scaled = 0 then
      throw (misuse c "seq" ("invalid Zero increment value: " ++ quotedWord step))
    return (first, by', ← read last)
  | _ :: _ :: _ :: extra :: _ => throw (misuse c "seq" ("extra operand " ++ quotedWord extra))

/-- A row of numbers up or down to the last one. -/
def seq : Behaviour := fun argv c =>
  let long := [("equal-width", 'w'), ("separator", 's'), ("format", 'f')]
  let (options, numbers) := splitNumbers argv.tail
  match OptionNames.read ⟨"f:s:w".toList, long⟩ false options, readRow c numbers with
  | .error message, _ => misuse c "seq" message
  | _, .error r => r
  | .ok (options, _), .ok (first, step, last) =>
    let decimals := max first.decimals step.decimals
    let scale := max decimals last.decimals
    let (a, b, z) := (first.scaledTo scale, step.scaledTo scale, last.scaledTo scale)
    let count : Nat := if 0 < b then (if z < a then 0 else ((z - a) / b).toNat + 1)
      else if a < z then 0 else ((a - z) / (-b)).toNat + 1
    let width := if hasOption options 'w'
      then max (first.widthWith decimals) (last.widthWith decimals) else 0
    let show' (k : Nat) : String :=
      let n := (a + k * b) / powTen (scale - decimals)
      match optionValue? options 'f' with
      | none => decimalText decimals width n
      | some format =>
        let printed := Job.printf .program format [decimalText decimals 0 n]
        String.ofList (charsOfBytes printed.out)
    let separator := (optionValue? options 's').getD "\n"
    let text := String.intercalate separator ((List.range count).map show')
    .ofText c (if count = 0 then "" else text ++ "\n")

/-! ## Endless lines -/

/-- How often a line comes that comes without an end: more often than anyone reads it. -/
def endlessCount : Nat := 20000

/-- One line without an end. -/
def yes : Behaviour := fun argv c =>
  let words := if argv.tail.head? = some "--" then argv.tail.tail else argv.tail
  let line := String.intercalate " " (if words.isEmpty then ["y"] else words) ++ "\n"
  { Report.ofBytes c (List.replicate endlessCount (encodeUtf8 line)).flatten with micros := endless }

end Utility

end CommandServer.Job
