/-
Timestamps as documents write them: a date, a time of day with a fraction of a second, and a time
zone.
-/
import CommandServer.Outside.Yaml.Cursor
import CommandServer.Datum

namespace CommandServer.Yaml

open CommandServer.Text

/-- The written fields of a timestamp. -/
structure Timestamp where
  year : List Char
  month : List Char
  day : List Char
  time : Option (List Char × List Char × List Char) := none
  fraction : List Char := []
  zone : Option (Option Bool × List Char × List Char) := none

namespace Timestamp

/-! ## Reading -/

/-- Between `least` and two digits at the start of a text. -/
def takeDigits? (least : Nat) (cs : List Char) : Option (List Char × List Char) :=
  let digits := (cs.take 2).takeWhile Char.isDigit
  if digits.length < least then none else some (digits, cs.drop digits.length)

def dropChar? (c : Char) : List Char → Option (List Char)
  | d :: r => if c = d then some r else none
  | [] => none

/-- The blanks or the letter between a date and a time of day. -/
def dropTimeMark? : List Char → Option (List Char)
  | 'T' :: r => some r
  | 't' :: r => some r
  | c :: r => if isSpaceOrTab c then some (r.dropWhile isSpaceOrTab) else none
  | [] => none

/-- The minutes of an offset, which may be left out. -/
def readOffsetMinutes? : List Char → Option (List Char)
  | [] => some []
  | ':' :: r => do
    let (minutes, r) ← takeDigits? 2 r
    if r.isEmpty then some minutes else none
  | _ => none

/-- The time zone after its blanks: universal time, or a signed offset. -/
def readZone? : List Char → Option (Option Bool × List Char × List Char)
  | ['Z'] => some (none, [], [])
  | c :: r => do
    if c ≠ '+' ∧ c ≠ '-' then none
    let (hours, r) ← takeDigits? 1 r
    return (some (c == '-'), hours, ← readOffsetMinutes? r)
  | [] => none

def readTime? (t : Timestamp) (cs : List Char) : Option Timestamp := do
  let (hour, r) ← takeDigits? 1 (← dropTimeMark? cs)
  let (minute, r) ← takeDigits? 2 (← dropChar? ':' r)
  let (second, r) ← takeDigits? 2 (← dropChar? ':' r)
  let (fraction, r) := match r with
    | '.' :: r => (r.takeWhile Char.isDigit, r.dropWhile Char.isDigit)
    | r => ([], r)
  let t := { t with time := some (hour, minute, second), fraction }
  if r.isEmpty then return t
  return { t with zone := some (← readZone? (r.dropWhile isSpaceOrTab)) }

/-- The fields of a timestamp, with or without a time of day. -/
def read? (cs : List Char) : Option Timestamp := do
  let year := cs.take 4
  if year.length < 4 || !year.all Char.isDigit then none
  let (month, r) ← takeDigits? 1 (← dropChar? '-' (cs.drop 4))
  let (day, r) ← takeDigits? 1 (← dropChar? '-' r)
  let t : Timestamp := { year, month, day }
  if r.isEmpty then return t else readTime? t r

/-! ## Meaning -/

/-- A text suggests a date only with two digits for month and day. -/
def isSuggestive (t : Timestamp) : Bool :=
  t.time.isSome || (t.month.length == 2 && t.day.length == 2)

/-- Millionths of a second; further digits are dropped. -/
def micros (t : Timestamp) : Nat :=
  let digits := t.fraction.take 6
  ofDigits 10 digits * powTen (6 - digits.length)

def offset (t : Timestamp) : Except Fault (Option Int) :=
  match t.zone with
  | none => .ok none
  | some (none, _, _) => .ok (some 0)
  | some (some negative, hours, minutes) =>
    (Moment.checkOffset negative (ofDigits 10 hours) (ofDigits 10 minutes)).map some

def scalar (t : Timestamp) : Except Fault Scalar := do
  let date := Date.check (ofDigits 10 t.year) (ofDigits 10 t.month) (ofDigits 10 t.day)
  match t.time with
  | none => return .date (← date)
  | some (hour, minute, second) =>
    let offset ← t.offset
    let date ← date
    let time ← Time.check (ofDigits 10 hour) (ofDigits 10 minute) (ofDigits 10 second) t.micros
    return .moment ⟨date, time, offset⟩

end Timestamp

end CommandServer.Yaml
