import AgentWire.Text.Numeral
import AgentWire.Yaml.Character
import AgentWire.Yaml.Fault
/-!
Scalars in quotes, from the character after the opening quote on. Blanks next to a line break are
dropped and the break becomes a blank; each further break stays.
-/
namespace AgentWire.Yaml

/-- What has been passed since the last character that is neither blank nor break. -/
inductive Gap where
  | blanks (bs : List Char)
  /-- A line break and the breaks of the empty lines after it. -/
  | broken (first : Char) (more : List Char)
  /-- The breaks of empty lines after a line break that was escaped. -/
  | joined (more : List Char)
  deriving DecidableEq, Repr

namespace Gap

def empty : Gap := .blanks []

def addBlank (c : Char) : Gap → Gap
  | .blanks bs => .blanks (bs ++ [c])
  | gap => gap

def addBreak (c : Char) : Gap → Gap
  | .blanks _ => .broken c []
  | .broken first more => .broken first (more ++ [c])
  | .joined more => .joined (more ++ [c])

def text : Gap → List Char
  | .blanks bs => bs
  | .joined more => more.map breakText
  | .broken first more =>
    (if breakText first ≠ '\n' then [first] else if more.isEmpty then [' '] else []) ++
      more.map breakText

def isBroken : Gap → Bool
  | .broken .. => true
  | _ => false

end Gap

namespace Quoted

abbrev Reading := Except Fault (List Char × Cursor)

def Reading.prepend (cs : List Char) (r : Reading) : Reading :=
  r.map fun (value, rest) => (cs ++ value, rest)

/-- A scalar in single quotes: a quote in it is written twice. -/
def single (gap : Gap) (p : Place) : List Char → Reading
  | [] => .error .malformed
  | '\'' :: '\'' :: rest =>
    Reading.prepend (gap.text ++ ['\'']) (single .empty ((p.next '\'').next '\'') rest)
  | c :: rest =>
    if c = '\'' then .ok (gap.text, ⟨p.next c, rest⟩)
    else if isBreak c then
      if startsBoundary rest then .error .malformed else single (gap.addBreak c) (p.next c) rest
    else if isBlank c then single (gap.addBlank c) (p.next c) rest
    else Reading.prepend (gap.text ++ [c]) (single .empty (p.next c) rest)

def escapes : List (Char × Char) :=
  [('0', '\x00'), ('a', '\x07'), ('b', '\x08'), ('t', '\t'), ('\t', '\t'), ('n', '\n'),
   ('v', '\x0b'), ('f', '\x0c'), ('r', '\r'), ('e', '\x1b'), (' ', ' '), ('"', '"'), ('\\', '\\'),
   ('/', '/'), ('N', '\u0085'), ('_', '\u00a0'), ('L', '\u2028'), ('P', '\u2029')]

def hexValue (ds : List Char) : Nat :=
  ds.foldl (fun n c => n * 16 + (Numeral.hexDigit? c).getD 0) 0

/-- The character that hexadecimal digits name. Half a surrogate pair is no character and gives
U+FFFD. -/
def named (ds : List Char) : Except Fault Char :=
  let n := hexValue ds
  if !ds.all Numeral.isHexDigit then .error .malformed
  else if 0x10FFFF < n then .error (.codePoint n)
  else if 0xD800 ≤ n && n < 0xE000 then .ok '\ufffd'
  else .ok (Char.ofNat n)

/-- A scalar in double quotes. A backslash escapes; an escaped line break and the blanks after it
are gone. -/
def double (gap : Gap) (p : Place) : List Char → Reading
  | [] => .error .malformed
  | '\\' :: 'x' :: a :: b :: rest =>
    let taken := ['\\', 'x', a, b]
    do Reading.prepend (gap.text ++ [← named [a, b]]) (double .empty (p.past taken) rest)
  | '\\' :: 'u' :: a :: b :: c :: d :: rest =>
    let taken := ['\\', 'u', a, b, c, d]
    do Reading.prepend (gap.text ++ [← named [a, b, c, d]]) (double .empty (p.past taken) rest)
  | '\\' :: 'U' :: a :: b :: c :: d :: e :: f :: g :: h :: rest =>
    let taken := ['\\', 'U', a, b, c, d, e, f, g, h]
    do Reading.prepend (gap.text ++ [← named [a, b, c, d, e, f, g, h]]) (double .empty
      (p.past taken) rest)
  | '\\' :: e :: rest =>
    if isBreak e then
      if startsBoundary rest then .error .malformed
      else Reading.prepend gap.text (double (.joined []) (p.past ['\\', e]) rest)
    else match escapes.lookup e with
      | some c => Reading.prepend (gap.text ++ [c]) (double .empty (p.past ['\\', e]) rest)
      | none => .error .malformed
  | c :: rest =>
    if c = '"' then .ok (gap.text, ⟨p.next c, rest⟩)
    else if c = '\\' then .error .malformed
    else if isBreak c then
      if startsBoundary rest then .error .malformed else double (gap.addBreak c) (p.next c) rest
    else if isBlank c then double (gap.addBlank c) (p.next c) rest
    else Reading.prepend (gap.text ++ [c]) (double .empty (p.next c) rest)

end Quoted

end AgentWire.Yaml
