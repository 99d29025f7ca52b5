import AgentWire.Number.Shortest
/-!
Calendar days and moments: which exist, and how they are written. A moment without an offset belongs
to no time zone.
-/
namespace AgentWire

structure Day where
  year : Nat
  month : Nat
  day : Nat
  deriving DecidableEq, Repr

structure Moment where
  day : Day
  hour : Nat
  minute : Nat
  second : Nat
  micro : Nat
  offset : Option Int
  deriving DecidableEq, Repr

inductive CalendarFault where
  | year (n : Nat)
  | month
  | day
  | hour
  | minute
  | second
  | offset (seconds : Int)
  deriving DecidableEq, Repr

namespace Day

def isLeap (year : Nat) : Bool :=
  year % 4 = 0 && (year % 100 ≠ 0 || year % 400 = 0)

def daysInMonth (year month : Nat) : Nat :=
  if month = 2 then if isLeap year then 29 else 28
  else if month ∈ [4, 6, 9, 11] then 30
  else 31

def check (d : Day) : Except CalendarFault Day :=
  if d.year = 0 || 9999 < d.year then .error (.year d.year)
  else if d.month = 0 || 12 < d.month then .error .month
  else if d.day = 0 || daysInMonth d.year d.month < d.day then .error .day
  else .ok d

def ordinal (d : Day) : Int :=
  let y := d.year - 1
  let before : Nat :=
    ((List.range (d.month - 1)).map fun m => daysInMonth d.year (m + 1)).foldr (· + ·) 0
  y * 365 + y / 4 - y / 100 + y / 400 + before + d.day - 1

def text (d : Day) : List Char :=
  NumberText.padded 4 d.year ++ '-' :: NumberText.padded 2 d.month ++
    '-' :: NumberText.padded 2 d.day

def literal (d : Day) : List Char :=
  "datetime.date(".toList ++ Nat.toDigits 10 d.year ++ ", ".toList ++ Nat.toDigits 10 d.month ++
    ", ".toList ++ Nat.toDigits 10 d.day ++ [')']

end Day

/-- A span of time as days and the seconds, fewer than a day, that are left. -/
def spanLiteral (seconds : Int) : List Char :=
  let days := Int.fdiv seconds 86400
  let rest := Int.fmod seconds 86400
  let signed (i : Int) : List Char := (if i < 0 then ['-'] else []) ++ Nat.toDigits 10 i.natAbs
  let parts := (if days = 0 then [] else ["days=".toList ++ signed days]) ++
    (if rest = 0 then [] else ["seconds=".toList ++ signed rest])
  "datetime.timedelta(".toList ++
    (if parts.isEmpty then ['0'] else [',', ' '].intercalate parts) ++ [')']

def CalendarFault.message : CalendarFault → String
  | .year n => "year " ++ toString n ++ " is out of range"
  | .month => "month must be in 1..12"
  | .day => "day is out of range for month"
  | .hour => "hour must be in 0..23"
  | .minute => "minute must be in 0..59"
  | .second => "second must be in 0..59"
  | .offset s =>
    "offset must be a timedelta strictly between -timedelta(hours=24) and timedelta(hours=24), not "
      ++ String.ofList (spanLiteral s) ++ "."

namespace Moment

/-- The offset is looked at first, then the day, then the time of day. -/
def check (m : Moment) : Except CalendarFault Moment := do
  match m.offset with
  | some s => if 86400 ≤ s.natAbs then throw (.offset s)
  | none => pure ()
  let _ ← m.day.check
  if 23 < m.hour then throw .hour
  if 59 < m.minute then throw .minute
  if 59 < m.second then throw .second
  return m

/-- Microseconds since the first moment of year 1, in universal time if the moment has an offset. -/
def instant (m : Moment) : Int :=
  (((m.day.ordinal * 24 + m.hour) * 60 + m.minute) * 60 + m.second - m.offset.getD 0) *
    1000000 + m.micro

def same (a b : Moment) : Bool :=
  a.offset.isSome == b.offset.isSome && a.instant == b.instant

def offsetText (s : Int) : List Char :=
  let n := s.natAbs
  (if s < 0 then '-' else '+') :: NumberText.padded 2 (n / 3600) ++
    ':' :: NumberText.padded 2 (n / 60 % 60)

def text (m : Moment) : List Char :=
  m.day.text ++ ' ' :: NumberText.padded 2 m.hour ++ ':' :: NumberText.padded 2 m.minute ++
    ':' :: NumberText.padded 2 m.second ++
    (if m.micro = 0 then [] else '.' :: NumberText.padded 6 m.micro) ++
    (m.offset.map offsetText).getD []

/-- The moment as an expression that makes it; seconds and microseconds that are zero are left
out. -/
def literal (m : Moment) : List Char :=
  let seconds :=
    if m.micro ≠ 0 then [m.second, m.micro] else if m.second ≠ 0 then [m.second] else []
  let parts := [m.day.year, m.day.month, m.day.day, m.hour, m.minute] ++ seconds
  let zone := match m.offset with
    | none => []
    | some s => ", tzinfo=".toList ++
        (if s = 0 then "datetime.timezone.utc".toList
         else "datetime.timezone(".toList ++ spanLiteral s ++ [')'])
  "datetime.datetime(".toList ++ [',', ' '].intercalate (parts.map (Nat.toDigits 10)) ++
    zone ++ [')']

end Moment

end AgentWire
