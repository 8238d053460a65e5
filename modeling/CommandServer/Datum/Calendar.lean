/-
Dates and moments as documents write them: their ranges, their texts, and when two of them are the
same.
-/
import CommandServer.Fault

namespace CommandServer

open CommandServer.Text

structure Date where
  year : Nat
  month : Nat
  day : Nat
  deriving DecidableEq, Repr

namespace Date

def isLeapYear (y : Nat) : Bool := y % 4 == 0 && (y % 100 != 0 || y % 400 == 0)

def daysInMonth (y m : Nat) : Nat :=
  if m = 2 then (if isLeapYear y then 29 else 28)
  else if m = 4 ∨ m = 6 ∨ m = 9 ∨ m = 11 then 30
  else 31

/-- The date with the given fields; of several fields out of range the first one counts. -/
def check (year month day : Nat) : Except Fault Date :=
  if year = 0 then .error (.dateOutOfRange (.year year))
  else if month = 0 ∨ 12 < month then .error (.dateOutOfRange .month)
  else if day = 0 ∨ daysInMonth year month < day then .error (.dateOutOfRange .day)
  else .ok ⟨year, month, day⟩

def text (d : Date) : String :=
  padded 4 d.year ++ "-" ++ padded 2 d.month ++ "-" ++ padded 2 d.day

/-- Days since the first day of the year zero. -/
def dayNumber (d : Date) : Nat :=
  let y := d.year - 1
  d.year * 365 + y / 4 - y / 100 + y / 400 +
    (List.range (d.month - 1)).foldl (fun n k => n + daysInMonth d.year (k + 1)) d.day

end Date

/-- A time of day with millionths of a second. -/
structure Time where
  hour : Nat
  minute : Nat
  second : Nat
  micros : Nat
  deriving DecidableEq, Repr

namespace Time

def check (hour minute second micros : Nat) : Except Fault Time :=
  if 23 < hour then .error (.dateOutOfRange .hour)
  else if 59 < minute then .error (.dateOutOfRange .minute)
  else if 59 < second then .error (.dateOutOfRange .second)
  else .ok ⟨hour, minute, second, micros⟩

def text (t : Time) : String :=
  padded 2 t.hour ++ ":" ++ padded 2 t.minute ++ ":" ++ padded 2 t.second ++
    (if t.micros = 0 then "" else "." ++ padded 6 t.micros)

/-- Minutes since midnight. -/
def minutes (t : Time) : Nat := t.hour * 60 + t.minute

end Time

/-- A date with a time of day, and how many minutes that time is ahead of universal time, if the
moment says so. -/
structure Moment where
  date : Date
  time : Time
  offset : Option Int
  deriving DecidableEq, Repr

namespace Moment

/-- An offset must be less than a day. -/
def checkOffset (negative : Bool) (hours minutes : Nat) : Except Fault Int :=
  let total : Int := hours * 60 + minutes
  let offset := if negative then -total else total
  if -1440 < offset ∧ offset < 1440 then .ok offset
  else .error (.zoneOutOfRange (offset / 1440) ((offset % 1440).toNat * 60))

def offsetText (o : Int) : String :=
  (if o < 0 then "-" else "+") ++ padded 2 (o.natAbs / 60) ++ ":" ++ padded 2 (o.natAbs % 60)

def text (m : Moment) : String :=
  m.date.text ++ " " ++ m.time.text ++ (m.offset.map offsetText).getD ""

/-- Minutes of universal time, which a moment without an offset does not know. -/
def universalMinutes? (m : Moment) : Option Int :=
  m.offset.map fun o => (m.date.dayNumber : Int) * 1440 + m.time.minutes - o

/-- The same point in time; without offsets, the same date and time of day. -/
def same (m n : Moment) : Bool :=
  match m.universalMinutes?, n.universalMinutes? with
  | some a, some b => a == b && m.time.second == n.time.second && m.time.micros == n.time.micros
  | none, none => m == n
  | _, _ => false

end Moment

end CommandServer
