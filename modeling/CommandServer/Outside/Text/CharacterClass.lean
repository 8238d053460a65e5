/-
Classes of ASCII characters under the names that patterns have for them.
-/
namespace CommandServer.Text

def isAsciiPrintable (c : Char) : Bool := ' ' ≤ c && c ≤ '~'

def isBlankOrBreak (c : Char) : Bool := c == ' ' || ('\t' ≤ c && c ≤ '\r')

def characterClasses : List (String × (Char → Bool)) :=
  [("alnum", Char.isAlphanum), ("alpha", Char.isAlpha), ("blank", fun c => c == ' ' || c == '\t'),
    ("cntrl", fun c => c < ' ' || c == '\x7f'), ("digit", Char.isDigit),
    ("graph", fun c => isAsciiPrintable c && c != ' '), ("lower", Char.isLower),
    ("print", isAsciiPrintable), ("punct", fun c => isAsciiPrintable c && c != ' ' && !c.isAlphanum),
    ("space", isBlankOrBreak), ("upper", Char.isUpper),
    ("xdigit", fun c => c.isDigit || ('a' ≤ c && c ≤ 'f') || ('A' ≤ c && c ≤ 'F'))]

end CommandServer.Text
