/-
UTF-8. Strict decoding accepts exactly the well-formed byte strings; lenient decoding puts one
replacement character for each maximal part that cannot be continued to a character.
-/
namespace CommandServer.Text

def replacementChar : Char := Char.ofNat 0xFFFD

/-- What the first byte of a character announces: how many bytes follow, the bounds of the next
one, and the bits that the first one carries. -/
structure Lead where
  following : Nat
  low : Nat
  high : Nat
  bits : Nat

/-- The lead of a byte that starts a character of more than one byte. The bounds of the second
byte leave out overlong forms, surrogates and numbers above the last code point. -/
def Lead.ofByte? (b : Nat) : Option Lead :=
  if 0xC2 ≤ b ∧ b ≤ 0xDF then some ⟨1, 0x80, 0xBF, b - 0xC0⟩
  else if b = 0xE0 then some ⟨2, 0xA0, 0xBF, 0⟩
  else if b = 0xED then some ⟨2, 0x80, 0x9F, 0xD⟩
  else if 0xE1 ≤ b ∧ b ≤ 0xEF then some ⟨2, 0x80, 0xBF, b - 0xE0⟩
  else if b = 0xF0 then some ⟨3, 0x90, 0xBF, 0⟩
  else if 0xF1 ≤ b ∧ b ≤ 0xF3 then some ⟨3, 0x80, 0xBF, b - 0xF0⟩
  else if b = 0xF4 then some ⟨3, 0x80, 0x8F, 4⟩
  else none

/-- A decoder between two bytes: the lead still to be completed, if any. -/
abbrev Decoder := Option Lead

/-- Decodes a byte string; `none` stands for a part that is no character. -/
def decodeParts : Decoder → List UInt8 → List (Option Char)
  | none, [] => []
  | some _, [] => [none]
  | none, b :: r =>
    if b.toNat < 0x80 then some (Char.ofNat b.toNat) :: decodeParts none r
    else match Lead.ofByte? b.toNat with
      | some l => decodeParts (some l) r
      | none => none :: decodeParts none r
  | some l, b :: r =>
    if l.low ≤ b.toNat ∧ b.toNat ≤ l.high then
      let bits := l.bits * 64 + (b.toNat - 0x80)
      if l.following ≤ 1 then some (Char.ofNat bits) :: decodeParts none r
      else decodeParts (some ⟨l.following - 1, 0x80, 0xBF, bits⟩) r
    else if b.toNat < 0x80 then none :: some (Char.ofNat b.toNat) :: decodeParts none r
    else match Lead.ofByte? b.toNat with
      | some l' => none :: decodeParts (some l') r
      | none => none :: none :: decodeParts none r

/-- The text of a well-formed byte string. -/
def decodeUtf8? (bs : List UInt8) : Option (List Char) :=
  (decodeParts none bs).mapM id

/-- The text of any byte string, with replacement characters. -/
def decodeUtf8Lenient (bs : List UInt8) : List Char :=
  (decodeParts none bs).map (·.getD replacementChar)

def encodeUtf8 (s : String) : List UInt8 :=
  s.toUTF8.toList

/-- Every line break of the three usual forms as a line feed. -/
def unifyLineBreaks : List Char → List Char
  | [] => []
  | '\r' :: '\n' :: r => '\n' :: unifyLineBreaks r
  | '\r' :: r => '\n' :: unifyLineBreaks r
  | c :: r => c :: unifyLineBreaks r

end CommandServer.Text
