/-
Decimal digits of every script. Unicode 14 gives the general category "decimal number" to runs of
ten consecutive characters, zero to nine; the table lists the zeros.
-/
namespace CommandServer.Text

/-- The code points of the characters for zero, in order. -/
def digitZeros : List Nat :=
  [0x30, 0x660, 0x6F0, 0x7C0, 0x966, 0x9E6, 0xA66, 0xAE6, 0xB66, 0xBE6, 0xC66, 0xCE6, 0xD66, 0xDE6,
    0xE50, 0xED0, 0xF20, 0x1040, 0x1090, 0x17E0, 0x1810, 0x1946, 0x19D0, 0x1A80, 0x1A90, 0x1B50,
    0x1BB0, 0x1C40, 0x1C50, 0xA620, 0xA8D0, 0xA900, 0xA9D0, 0xA9F0, 0xAA50, 0xABF0, 0xFF10, 0x104A0,
    0x10D30, 0x11066, 0x110F0, 0x11136, 0x111D0, 0x112F0, 0x11450, 0x114D0, 0x11650, 0x116C0,
    0x11730, 0x118E0, 0x11950, 0x11C50, 0x11D50, 0x11DA0, 0x16A60, 0x16AC0, 0x16B50, 0x1D7CE,
    0x1D7D8, 0x1D7E2, 0x1D7EC, 0x1D7F6, 0x1E140, 0x1E2F0, 0x1E950, 0x1FBF0]

/-- The value of a decimal digit of any script. -/
def digitValue? (c : Char) : Option Nat :=
  (digitZeros.find? fun z => z ≤ c.toNat && c.toNat ≤ z + 9).map (c.toNat - ·)

/-- The digit as an ASCII character, from 0 to 9. -/
def asciiDigit (d : Nat) : Char :=
  Char.ofNat (0x30 + d % 10)

/-- The value of an ASCII digit. -/
def asciiDigitValue? (c : Char) : Option Nat :=
  if c.isDigit then some (c.toNat - 0x30) else none

/-- The value of an ASCII digit of a base up to sixteen, letters in either case. -/
def hexDigitValue? (c : Char) : Option Nat :=
  if c.isDigit then some (c.toNat - 0x30)
  else if 'a' ≤ c ∧ c ≤ 'f' then some (c.toNat - 0x61 + 10)
  else if 'A' ≤ c ∧ c ≤ 'F' then some (c.toNat - 0x41 + 10)
  else none

/-- The most digits that an integer is read from or written with. -/
def maxDigits : Nat := 4300

/-- The digits of a number in base ten, the first one first. -/
def decimalDigits (n : Nat) : List Char :=
  Nat.toDigits 10 n

/-- The number that ASCII digits spell in a base; any other character counts as zero. -/
def ofDigits (base : Nat) (cs : List Char) : Nat :=
  cs.foldl (fun n c => n * base + (hexDigitValue? c).getD 0) 0

/-- Lower case of the ASCII letters; every other character stays. -/
def lowerAscii (cs : List Char) : List Char :=
  cs.map Char.toLower

/-- A decimal number with zeros in front, at least `width` characters wide. -/
def padded (width n : Nat) : String :=
  let digits := decimalDigits n
  String.ofList (List.replicate (width - digits.length) '0' ++ digits)

/-- The lower case hexadecimal digits of a number, at least `width` characters wide. -/
def paddedHex (width n : Nat) : String :=
  let digits := Nat.toDigits 16 n
  String.ofList (List.replicate (width - digits.length) '0' ++ digits)

/-- The decimal text of an integer. -/
def integerText (n : Int) : String :=
  match n with
  | .ofNat m => String.ofList (decimalDigits m)
  | .negSucc m => String.ofList ('-' :: decimalDigits (m + 1))

end CommandServer.Text
