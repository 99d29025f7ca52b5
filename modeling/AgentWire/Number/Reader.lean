import AgentWire.Number.Decimal
import AgentWire.Text.Numeral
/-!
Numbers from text: integers in a base up to thirty-six and doubles. Blanks may stand around a
number, and its digits may be those of any script.
-/
namespace AgentWire.NumberText

/-! Integers. -/

def digitValue? (c : Char) : Option Nat :=
  if c.isDigit then some (c.toNat - 48)
  else if 'a' ≤ c && c ≤ 'z' then some (c.toNat - 87)
  else if 'A' ≤ c && c ≤ 'Z' then some (c.toNat - 55)
  else none

def baseLetter? (base : Nat) : Option Char :=
  if base = 2 then some 'b' else if base = 8 then some 'o' else if base = 16 then some 'x' else none

def withoutBase (base : Nat) (cs : List Char) : List Char :=
  match cs with
  | '0' :: letter :: rest =>
    if baseLetter? base = some letter.toLower then
      match rest with
      | '_' :: more => more
      | _ => rest
    else cs
  | _ => cs

/-- Reads on after a digit. A single underscore may stand between two digits. -/
def naturalFrom (base n : Nat) : List Char → Option Nat
  | [] => some n
  | '_' :: c :: rest => do
    let d ← digitValue? c
    if d < base then naturalFrom base (n * base + d) rest else none
  | c :: rest => do
    let d ← digitValue? c
    if d < base then naturalFrom base (n * base + d) rest else none

def natural? (base : Nat) : List Char → Option Nat
  | [] => none
  | c :: rest => do
    let d ← digitValue? c
    if d < base then naturalFrom base d rest else none

def integer? (base : Nat) (cs : List Char) : Option Int := do
  let (negative, digits) := Numeral.signed (Numeral.trim (← Numeral.ascii cs))
  let n ← natural? base (withoutBase base digits)
  return if negative then -(n : Int) else n

/-! Doubles. -/

def infinity : Float := Float.ofBits 0x7FF0000000000000

def notANumber : Float := Float.ofBits 0x7FF8000000000000

def exponent? : List Char → Option Int
  | [] => some 0
  | e :: rest =>
    let (negative, ds) := Numeral.signed rest
    if (e = 'e' || e = 'E') && !ds.isEmpty && ds.all Char.isDigit then
      let n : Int := Nat.ofDigitChars 10 ds 0
      some (if negative then -n else n)
    else none

/-- A decimal without sign: digits, a point anywhere among them or none, an exponent or none. -/
def decimal? (cs : List Char) : Option Float :=
  let whole := cs.takeWhile Char.isDigit
  let (part, rest) := match cs.dropWhile Char.isDigit with
    | '.' :: more => (more.takeWhile Char.isDigit, more.dropWhile Char.isDigit)
    | more => ([], more)
  if whole.isEmpty && part.isEmpty then none
  else (exponent? rest).map fun e =>
    Decimal.toFloat ⟨Nat.ofDigitChars 10 (whole ++ part) 0, e - part.length⟩

/-- A double without sign: a decimal, or a word for infinity or for what is no number, in any
case. -/
def magnitude? (cs : List Char) : Option Float :=
  let word := cs.map Char.toLower
  if word = "inf".toList || word = "infinity".toList then some infinity
  else if word = "nan".toList then some notANumber
  else decimal? cs

def double? (cs : List Char) : Option Float := do
  let (negative, digits) := Numeral.signed (Numeral.trim (← Numeral.ascii cs))
  let x ← magnitude? digits
  return if negative then -x else x

end AgentWire.NumberText
