import AgentWire.Datum.Calendar
/-!
Written days and moments: `2024-01-31`, `2024-1-31 9:05:00.25 +02:00`. Reading looks at the form
alone; whether the day exists is asked afterwards.
-/
namespace AgentWire.Yaml

inductive Timestamp where
  | day (d : Day)
  | moment (m : Moment)
  deriving Repr

namespace Timestamp

def natOf (ds : List Char) : Nat :=
  Nat.ofDigitChars 10 ds 0

def pair? (cs : List Char) : Option (List Char × List Char) :=
  match cs with
  | a :: b :: rest =>
    if a.isDigit then if b.isDigit then some ([a, b], rest) else some ([a], b :: rest) else none
  | [a] => if a.isDigit then some ([a], []) else none
  | [] => none

def two? (cs : List Char) : Option (Nat × List Char) :=
  match cs with
  | a :: b :: rest => if a.isDigit && b.isDigit then some (natOf [a, b], rest) else none
  | _ => none

def after? (c : Char) (cs : List Char) : Option (List Char) :=
  match cs with
  | d :: rest => if c = d then some rest else none
  | [] => none

def micros (ds : List Char) : Nat :=
  let six := ds.take 6
  natOf six * Nat.pow 10 (6 - six.length)

/-- An offset with its sign: one or two digits of hours, then perhaps a colon and two of minutes. -/
def offset? (cs : List Char) : Option Int := do
  match cs with
  | ['Z'] => return 0
  | sign :: rest =>
    let (hours, rest) ← pair? rest
    let minutes ← match rest with
      | [] => some 0
      | ':' :: more => match two? more with
        | some (n, []) => some n
        | _ => none
      | _ => none
    let seconds : Int := (natOf hours * 60 + minutes) * 60
    if sign = '+' then return seconds else if sign = '-' then return -seconds else none
  | [] => none

def time? (d : Day) (cs : List Char) : Option Moment := do
  let start ← match cs with
    | 'T' :: rest => some rest
    | 't' :: rest => some rest
    | ' ' :: rest => some (rest.dropWhile fun c => c = ' ' || c = '\t')
    | '\t' :: rest => some (rest.dropWhile fun c => c = ' ' || c = '\t')
    | _ => none
  let (hour, rest) ← pair? start
  let (minute, rest) ← two? (← after? ':' rest)
  let (second, rest) ← two? (← after? ':' rest)
  let (fraction, rest) := match rest with
    | '.' :: more => (more.takeWhile Char.isDigit, more.dropWhile Char.isDigit)
    | _ => ([], rest)
  let moment (offset : Option Int) : Moment :=
    ⟨d, natOf hour, minute, second, micros fraction, offset⟩
  match rest with
  | [] => return moment none
  | _ => return moment (some (← offset? (rest.dropWhile fun c => c = ' ' || c = '\t')))

/-- A day with four digits of year and one or two of month and day, with or without a time; the flag
says whether month and day have two digits each. -/
def read? (cs : List Char) : Option (Timestamp × Bool) := do
  match cs with
  | a :: b :: c :: e :: rest =>
    if [a, b, c, e].all Char.isDigit then
      let (months, rest) ← pair? (← after? '-' rest)
      let (days, rest) ← pair? (← after? '-' rest)
      let d : Day := ⟨natOf [a, b, c, e], natOf months, natOf days⟩
      let full := months.length = 2 && days.length = 2
      match rest with
      | [] => return (Timestamp.day d, full)
      | _ => return (Timestamp.moment (← time? d rest), full)
    else none
  | _ => none

/-- Whether a plain scalar is a timestamp by its form: a bare day needs two digits for month and
day. -/
def isPlain (cs : List Char) : Bool :=
  match read? cs with
  | some (.day _, full) => full
  | some (.moment _, _) => true
  | none => false

end Timestamp

end AgentWire.Yaml
