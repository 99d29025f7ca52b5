import AgentWire.Datum.Value
import AgentWire.Number.Reader
import AgentWire.Number.Shortest
import AgentWire.Text.Base64
import AgentWire.Text.LowerCase
import AgentWire.Yaml.Fault
import AgentWire.Yaml.Node
import AgentWire.Yaml.Timestamp
/-!
Scalars: what tag the text of a plain scalar has, which datum a text with a tag stands for, and
which text stands for a datum.
-/
namespace AgentWire.Yaml

/-- A text without the line feed at its end, which its form does not depend on. A lone line feed
stays. -/
def Tag.formOf (cs : List Char) : List Char :=
  if cs.getLast? = some '\n' && cs.length ≠ 1 then cs.dropLast else cs

def Tag.ofForm (cs : List Char) : Tag :=
  if isNull cs then .null
  else if isBool cs then .bool
  else if isInteger cs then .int
  else if isFloat cs then .float
  else if Timestamp.isPlain cs then .timestamp
  else if cs = ['<', '<'] then .merge
  else if cs = ['='] then .value
  else if cs = ['!'] || cs = ['&'] || cs = ['*'] then .yaml
  else .str

def Tag.ofPlain (cs : List Char) : Tag :=
  Tag.ofForm (Tag.formOf cs)

namespace Scalar

def integerIn (base : Nat) (cs : List Char) : Except Fault Int :=
  match NumberText.integer? base cs with
  | some i => .ok i
  | none => .error (.noInteger base cs)

def unsigned (cs : List Char) : Except Fault Int :=
  match cs with
  | [] => .error .noDigits
  | ['0'] => .ok 0
  | '0' :: 'b' :: rest => integerIn 2 rest
  | '0' :: 'x' :: rest => integerIn 16 rest
  | '0' :: _ => integerIn 8 cs
  | _ =>
    if cs.contains ':' then
      ((Tag.colonParts cs).mapM (integerIn 10)).map (·.foldl (fun n part => n * 60 + part) 0)
    else integerIn 10 cs

/-- An integer: decimal, `0b` binary, `0x` hexadecimal, octal after a leading zero, or base sixty
with colons. Underscores do not count. -/
def integer (cs : List Char) : Except Fault Int :=
  let (negative, rest) := Numeral.signed (cs.filter (· ≠ '_'))
  (unsigned rest).map fun i => if negative then -i else i

def double (cs : List Char) : Except Fault Float :=
  match NumberText.double? cs with
  | some x => .ok x
  | none => .error (.noNumber cs)

/-- Groups in base sixty, the last one first, summed in doubles from there. -/
def sixties : Nat → Float → List Float → Except Fault Float
  | _, sum, [] => .ok sum
  | unit, sum, x :: rest =>
    let scale := Decimal.toFloat ⟨unit, 0⟩
    if scale.isFinite then sixties (unit * 60) (sum + x * scale) rest else .error .tooLarge

/-- A floating point number: decimal, `.inf`, `.nan`, or base sixty with colons. Only `.nan` itself
is the plain double that is no number; each other is one of its own. -/
def float (mark : Nat) (cs : List Char) : Except Fault Datum :=
  let text := lowerCase (cs.filter (· ≠ '_'))
  let (negative, rest) := Numeral.signed text
  let datum (x : Float) : Datum := if x.isNaN then .nan mark else .num (if negative then -x else x)
  if text.isEmpty then .error .noDigits
  else if rest = ".inf".toList then .ok (datum NumberText.infinity)
  else if rest = ".nan".toList then .ok (.num NumberText.notANumber)
  else if rest.contains ':' then do
    let groups ← (Tag.colonParts rest).mapM double
    return datum (← sixties 1 0.0 groups.reverse)
  else (double rest).map datum

def truth (cs : List Char) : Except Fault Bool :=
  let word := lowerCase cs
  match Tag.truthWords.find? fun (w, _) => w.toList = word with
  | some (_, b) => .ok b
  | none => .error (.noTruthValue word)

def timestamp (mark : Nat) (cs : List Char) : Except Fault Datum :=
  match Timestamp.read? (Tag.formOf cs) with
  | some (.day d, _) => (d.check.mapError Fault.calendar).map (Datum.day (some mark))
  | some (.moment m, _) => (m.check.mapError Fault.calendar).map (Datum.moment (some mark))
  | none => .error .noTimestamp

def binary (cs : List Char) : Except Fault Datum :=
  if cs.any fun c => 0x80 ≤ c.toNat then .error .malformed
  else match Base64.decode cs with
    | some bytes => .ok (.bytes bytes)
    | none => .error .malformed

/-- The datum of a text with a tag. The mark is for what is an object of its own. -/
def datum (mark : Nat) (tag : Tag) (text : String) : Except Fault Datum :=
  let cs := text.toList
  match tag with
  | .null => .ok .null
  | .bool => (truth cs).map .bool
  | .int => (integer cs).map .int
  | .float => float mark cs
  | .str => .ok (.str text)
  | .binary => binary cs
  | .timestamp => timestamp mark cs
  | _ => .error .malformed

/-- The text of a double. One with an exponent always has a point. -/
def floatText (x : Float) : List Char :=
  if x.isNaN then ".nan".toList
  else if !x.isFinite then (if signBit x then "-.inf" else ".inf").toList
  else
    let cs := NumberText.finite x
    if cs.contains '.' then cs
    else cs.flatMap fun c => if c = 'e' then ".0e".toList else [c]

end Scalar

end AgentWire.Yaml
