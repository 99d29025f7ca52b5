/-!
Punycode: a text of any characters in ASCII letters, digits and hyphens. The ASCII characters stand
first; the others follow in ascending order as the gaps between their positions, each a number whose
digits have weights that adapt to the gaps before.
-/
namespace AgentWire.Punycode

def digit (n : Nat) : Char :=
  Char.ofNat (if n < 26 then 97 + n else 22 + n)

def digitValue? (c : Char) : Option Nat :=
  let d := c.toLower
  if 'a' ≤ d && d ≤ 'z' then some (d.toNat - 97)
  else if d.isDigit then some (d.toNat - 22)
  else none

/-- The least digit that does not end a number, at the place of digits `place`. -/
def threshold (bias place : Nat) : Nat :=
  min 26 (max 1 (36 * (place + 1) - bias))

/-- Brings a gap below the limit; each step counts one place more. -/
def settle : Nat → Nat → Nat → Nat × Nat
  | 0, gap, places => (gap, places)
  | fuel + 1, gap, places =>
    if 455 < gap then settle fuel (gap / 35) (places + 36) else (gap, places)

/-- The bias after a gap. `count` characters stand by then; the first gap counts for less. -/
def adapt (gap count : Nat) (first : Bool) : Nat :=
  let gap := if first then gap / 700 else gap / 2
  let (gap, places) := settle gap (gap + gap / count) 0
  places + 36 * gap / (gap + 38)

/-! Writing. -/

/-- The digits of a number, the least first. No number has more of them than its size and one. -/
def number (bias : Nat) : Nat → Nat → Nat → List Char
  | 0, _, _ => []
  | fuel + 1, place, n =>
    let t := threshold bias place
    if n < t then [digit n]
    else digit (t + (n - t) % (36 - t)) :: number bias fuel (place + 1) ((n - t) / (36 - t))

structure Writing where
  written : List Char
  gap : Nat
  bias : Nat
  count : Nat
  first : Bool

def Writing.pass (code : Nat) (w : Writing) (c : Char) : Writing :=
  if c.toNat < code then { w with gap := w.gap + 1 }
  else if c.toNat = code then
    ⟨w.written ++ number w.bias (w.gap + 1) 0 w.gap, 0, adapt w.gap (w.count + 1) w.first,
      w.count + 1, false⟩
  else w

/-- Writes the places of characters in ascending order; all below `next` stand already. -/
def Writing.insert (text : List Char) (next : Nat) (w : Writing) : List Nat → Writing
  | [] => w
  | code :: more =>
    let w := text.foldl (pass code) { w with gap := w.gap + (code - next) * (w.count + 1) }
    insert text (code + 1) { w with gap := w.gap + 1 } more

def isAscii (c : Char) : Bool := c.toNat < 0x80

def encode (text : List Char) : List Char :=
  let plain := text.filter isAscii
  let codes := (((text.filter (!isAscii ·)).map Char.toNat).mergeSort).eraseDups
  let w := Writing.insert text 0x80 ⟨[], 0, 72, plain.length, true⟩ codes
  (if plain.isEmpty then [] else plain ++ ['-']) ++ w.written

/-! Reading. -/

def readNumber (bias : Nat) : Nat → Nat → Nat → List Char → Option (Nat × List Char)
  | _, _, _, [] => none
  | place, weight, sum, c :: rest => do
    let d ← digitValue? c
    let t := threshold bias place
    let sum := sum + d * weight
    if d < t then return (sum, rest)
    readNumber bias (place + 1) (weight * (36 - t)) sum rest

/-- Puts code points in their places. Every number takes a digit at least, which bounds the
steps. -/
def readFrom :
    Nat → (bias code position : Nat) → (first : Bool) → List Nat → List Char → Option (List Nat)
  | _, _, _, _, _, text, [] => some text
  | 0, _, _, _, _, _, _ => none
  | fuel + 1, bias, code, position, first, text, ds => do
    let (gap, rest) ← readNumber bias 0 1 0 ds
    let reach := position + gap
    let room := text.length + 1
    let code := code + reach / room
    let place := reach % room
    if 0x10FFFF < code then none
    readFrom fuel (adapt gap room first) code (place + 1) false
      (text.take place ++ code :: text.drop place) rest

/-- The code points that have this written form, of ASCII characters. Some of them may be no
characters. -/
def decode (written : List Char) : Option (List Nat) :=
  let (ending, front) := written.reverse.span (· ≠ '-')
  readFrom (written.length + 1) 72 0x80 0 true
    ((front.drop 1).reverse.map Char.toNat) ending.reverse

end AgentWire.Punycode
