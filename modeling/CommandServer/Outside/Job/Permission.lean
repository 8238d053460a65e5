/-
The notation for permissions: three bits for each of three classes of users and three more, as octal
digits or as changes in letters.
-/
import CommandServer.Text.Digit

namespace CommandServer.Job

open CommandServer.Text

/-! ## Changes -/

/-- The bits that letters for classes of users stand for. -/
def userBits (who : List Char) : Nat :=
  if who.contains 'a' then 0o7777
  else (if who.contains 'u' then 0o4700 else 0) + (if who.contains 'g' then 0o2070 else 0) +
    (if who.contains 'o' then 0o1007 else 0)

/-- The bits that a letter for a permission stands for, in all classes. Whether something may be
started can depend on whether anyone may start it already. -/
def permissionBits? (isDirectory : Bool) (mode : Nat) (c : Char) : Option Nat :=
  match c with
  | 'r' => some 0o444
  | 'w' => some 0o222
  | 'x' => some 0o111
  | 'X' => some (if isDirectory || mode &&& 0o111 != 0 then 0o111 else 0)
  | 's' => some 0o6000
  | 't' => some 0o1000
  | _ => none

/-- The bits that a class of users has, in all classes. -/
def copiedBits? (mode : Nat) (c : Char) : Option Nat :=
  match c with
  | 'u' => some (mode / 64 % 8 * 0o111)
  | 'g' => some (mode / 8 % 8 * 0o111)
  | 'o' => some (mode % 8 * 0o111)
  | _ => none

/-- Permissions after the changes that signs and letters ask for. The mask protects bits from
changes that are for no class of users. -/
def changeBits? (mask : Nat) (isDirectory : Bool) (who : List Char) :
    Nat → List Char → Nat → Option Nat
  | 0, _, _ => none
  | _ + 1, [], mode => some mode
  | n + 1, sign :: r, mode =>
    let letters := r.takeWhile fun c => (permissionBits? isDirectory mode c).isSome
    let digits := r.takeWhile fun c => '0' ≤ c && c ≤ '7'
    let copied := if letters.isEmpty then (r.head?.bind (copiedBits? mode)) else none
    let bits := (letters.filterMap (permissionBits? isDirectory mode)).foldl (fun a b => a ||| b)
      (copied.getD (ofDigits 8 digits % 0o10000))
    let rest := r.drop (if copied.isSome then 1 else max letters.length digits.length)
    let allowed := if !who.isEmpty then userBits who
      else if digits.isEmpty then 0o7777 - mask else 0o7777
    let value := bits &&& allowed
    let kept := if who.isEmpty then 0 else 0o7777 - userBits who
    match sign with
    | '+' => changeBits? mask isDirectory who n rest (mode ||| value)
    | '-' => changeBits? mask isDirectory who n rest (mode - (mode &&& value))
    | '=' => changeBits? mask isDirectory who n rest (mode &&& kept ||| value)
    | _ => none

/-- Permissions after changes that are written in letters. -/
def changeMode? (mask : Nat) (isDirectory : Bool) (text : String) (mode : Nat) : Option Nat :=
  (text.splitOn ",").foldlM (fun mode clause =>
    let cs := clause.toList
    let who := cs.takeWhile fun c => "ugoa".toList.contains c
    let rest := cs.drop who.length
    if rest.isEmpty then none else changeBits? mask isDirectory who (cs.length + 1) rest mode) mode

/-- The permissions that a text asks for, as digits or as changes. -/
def modeFor? (mask : Nat) (isDirectory : Bool) (text : String) (mode : Nat) : Option Nat :=
  let cs := text.toList
  if !cs.isEmpty && cs.all fun c => '0' ≤ c && c ≤ '7' then
    if ofDigits 8 cs ≤ 0o7777 then some (ofDigits 8 cs) else none
  else changeMode? mask isDirectory text mode

/-! ## Text -/

/-- Permissions as octal digits. -/
def octalMode (width mode : Nat) : String :=
  let digits := Nat.toDigits 8 mode
  String.ofList (List.replicate (width - digits.length) '0' ++ digits)

/-- Permissions in letters, three for each class of users. -/
def modeLetters (mode : Nat) : String :=
  let group (bits : Nat) (special : Bool) (letter : Char) : List Char :=
    let starts := bits % 2 = 1
    [if bits / 4 % 2 = 1 then 'r' else '-', if bits / 2 % 2 = 1 then 'w' else '-',
      if special then (if starts then letter else letter.toUpper) else if starts then 'x' else '-']
  String.ofList (group (mode / 64 % 8) (mode &&& 0o4000 != 0) 's' ++
    group (mode / 8 % 8) (mode &&& 0o2000 != 0) 's' ++ group (mode % 8) (mode &&& 0o1000 != 0) 't')

end CommandServer.Job
