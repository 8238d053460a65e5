/-
What can go wrong below the program: errors of the operating system, and faults that no part of the
program turns into an answer of its own.
-/
import CommandServer.Path
import CommandServer.Text.CodePoint

namespace CommandServer

open CommandServer.Text

/-! ## Errors of the operating system -/

/-- What an error is about. -/
inductive Subject where
  | name (s : String)
  | directory (p : Path)
  deriving DecidableEq, Repr

def Subject.text : Subject → String
  | .name s => quoted s
  | .directory p => "PosixPath(" ++ quoted p.text ++ ")"

/-- An error number with its text and subject, a text alone, or nothing at all. -/
inductive SystemError where
  | silent
  | note (text : String)
  | coded (number : Int) (text : String) (subject : Option Subject)
  deriving DecidableEq, Repr

namespace SystemError

def message : SystemError → String
  | .silent => ""
  | .note text => text
  | .coded n text none => "[Errno " ++ integerText n ++ "] " ++ text
  | .coded n text (some s) => "[Errno " ++ integerText n ++ "] " ++ text ++ ": " ++ s.text

def noSuchFile (s : Subject) : SystemError := .coded 2 "No such file or directory" (some s)

def argumentsTooLong (s : Subject) : SystemError := .coded 7 "Argument list too long" (some s)

def badFormat (s : Subject) : SystemError := .coded 8 "Exec format error" (some s)

def permissionDenied (s : Subject) : SystemError := .coded 13 "Permission denied" (some s)

def fileExists (s : Subject) : SystemError := .coded 17 "File exists" (some s)

def notADirectory (s : Subject) : SystemError := .coded 20 "Not a directory" (some s)

def isADirectory (s : Subject) : SystemError := .coded 21 "Is a directory" (some s)

def nameTooLong (s : Subject) : SystemError := .coded 36 "File name too long" (some s)

end SystemError

/-! ## Faults -/

/-- A field of a date or a time that has a range. -/
inductive DateField where
  | year (value : Nat)
  | month
  | day
  | hour
  | minute
  | second
  deriving DecidableEq, Repr

def DateField.message : DateField → String
  | .year value => "year " ++ integerText value ++ " is out of range"
  | .month => "month must be in 1..12"
  | .day => "day is out of range for month"
  | .hour => "hour must be in 0..23"
  | .minute => "minute must be in 0..59"
  | .second => "second must be in 0..59"

inductive Fault where
  /-- A text for the operating system holds the character zero. -/
  | embeddedNul
  /-- The name of an environment variable holds an equals sign. -/
  | illegalVariable
  /-- An integer has no finite floating point number near it. -/
  | integerTooLarge
  /-- A time limit that cannot be waited for. -/
  | waitForNan
  | waitForInfinity
  | waitTooLong
  | waitBeyondClock
  /-- A file is not UTF-8. -/
  | undecodable
  /-- No home directory stands behind a tilde. -/
  | homeless
  /-- A name that leads to itself. -/
  | linkLoop (name : String)
  | system (e : SystemError)
  | dateOutOfRange (f : DateField)
  /-- A time zone a day or more away, as an offset in days and seconds. -/
  | zoneOutOfRange (days : Int) (seconds : Nat)
  /-- A number of a document that its explicit type cannot read. -/
  | badInteger (base : Nat) (text : List Nat)
  | badFloat (text : List Nat)
  | integerTooLong (digits : Nat)
  /-- An integer has too many digits to be written. -/
  | integerUnwritable
  | emptyNumber
  | badBoolean (text : List Nat)
  | badTimestamp
  /-- A mapping stands where a timestamp needs a text of its own. -/
  | timestampOfMapping
  /-- A value lies inside too many others, or inside itself: to be taken apart, to be written, and
  to be written as JSON. -/
  | tooDeep
  | tooDeepToWrite
  | tooDeepToEncode
  /-- An escaped character beyond the last code point, or beyond the machine's integers. -/
  | characterOutOfRange
  | characterOverflow
  deriving DecidableEq, Repr

namespace Fault

/-- A quoted text cut to two hundred characters. -/
def shortQuoted (ps : List Nat) : String := String.ofList ((quotedPoints ps).toList.take 200)

def zoneText (days : Int) (seconds : Nat) : String :=
  "days=" ++ integerText days ++ (if seconds = 0 then "" else ", seconds=" ++ integerText seconds)

def message : Fault → String
  | .embeddedNul => "embedded null byte"
  | .illegalVariable => "illegal environment variable name"
  | .integerTooLarge => "int too large to convert to float"
  | .waitForNan => "cannot convert float NaN to integer"
  | .waitForInfinity => "cannot convert float infinity to integer"
  | .waitTooLong => "timeout is too large"
  | .waitBeyondClock => "timestamp too large to convert to C _PyTime_t"
  | .undecodable => "invalid UTF-8"
  | .homeless => "Could not determine home directory."
  | .linkLoop name => "Symlink loop from " ++ quoted name
  | .system e => e.message
  | .dateOutOfRange f => f.message
  | .zoneOutOfRange days seconds =>
    "offset must be a timedelta strictly between -timedelta(hours=24) and timedelta(hours=24), " ++
      "not datetime.timedelta(" ++ zoneText days seconds ++ ")."
  | .badInteger base text =>
    "invalid literal for int() with base " ++ integerText base ++ ": " ++ shortQuoted text
  | .badFloat text => "could not convert string to float: " ++ quotedPoints text
  | .integerTooLong digits =>
    "Exceeds the limit (4300 digits) for integer string conversion: value has " ++
      integerText digits ++ " digits; use sys.set_int_max_str_digits() to increase the limit"
  | .integerUnwritable =>
    "Exceeds the limit (4300 digits) for integer string conversion; " ++
      "use sys.set_int_max_str_digits() to increase the limit"
  | .emptyNumber => "string index out of range"
  | .badBoolean text => quotedPoints text
  | .badTimestamp => "'NoneType' object has no attribute 'groupdict'"
  | .timestampOfMapping => "expected string or bytes-like object, got 'list'"
  | .tooDeep => "maximum recursion depth exceeded"
  | .tooDeepToWrite => "maximum recursion depth exceeded while getting the repr of an object"
  | .tooDeepToEncode => "maximum recursion depth exceeded while encoding a JSON object"
  | .characterOutOfRange => "chr() arg not in range(0x110000)"
  | .characterOverflow => "Python int too large to convert to C int"

end Fault

end CommandServer
