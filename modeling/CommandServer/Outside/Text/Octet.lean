/-
Byte strings as text in which every character stands for one byte.
-/
import CommandServer.Text.Utf8

namespace CommandServer.Text

def charsOfBytes (bs : List UInt8) : List Char := bs.map fun b => Char.ofNat b.toNat

def bytesOfChars (cs : List Char) : List UInt8 := cs.map fun c => UInt8.ofNat c.toNat

/-- The bytes of a text in UTF-8, one character for each. -/
def octets (s : String) : String := String.ofList (charsOfBytes (encodeUtf8 s))

def octetBytes (s : String) : List UInt8 := bytesOfChars s.toList

/-- The text whose bytes the characters stand for, with replacement characters. -/
def ofOctets (s : String) : String := String.ofList (decodeUtf8Lenient (octetBytes s))

end CommandServer.Text
