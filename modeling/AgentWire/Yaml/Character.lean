/-!
The characters of YAML text and the place a reader has reached in it. Carriage returns are no
concern here: line ends are unified before a text is read.
-/
namespace AgentWire.Yaml

def isBreak (c : Char) : Bool :=
  c = '\n' || c = '\u0085' || c = '\u2028' || c = '\u2029'

def isBlank (c : Char) : Bool :=
  c = ' ' || c = '\t'

def isSpace (c : Char) : Bool :=
  isBlank c || isBreak c

def endsWord : List Char → Bool
  | [] => true
  | c :: _ => isSpace c

def isAllowed (c : Char) : Bool :=
  let n := c.toNat
  c = '\t' || c = '\n' || c = '\u0085' || (0x20 ≤ n && n < 0x7F) || (0xA0 ≤ n && n < 0xD800) ||
    (0xE000 ≤ n && n < 0xFFFE) || 0x10000 ≤ n

/-- The byte order mark. It takes no room in its line. -/
def byteOrderMark : Char := '\ufeff'

def isNameChar (c : Char) : Bool :=
  c.isAlphanum || c = '-' || c = '_'

def isTagChar (c : Char) : Bool :=
  c.isAlphanum || "-;/?:@&=+$,_.!~*'()[]%".toList.contains c

/-- Whether `---` or `...` stands here as a word of its own. At the start of a line it bounds a
document. -/
def startsBoundary : List Char → Bool
  | a :: b :: c :: rest => (a = '-' || a = '.') && a = b && b = c && endsWord rest
  | _ => false

/-- A place in a text: the characters before it, the lines before it, the characters before it on
its line. -/
structure Place where
  index : Nat
  line : Nat
  column : Nat
  deriving DecidableEq, Repr

namespace Place

def start : Place := ⟨0, 0, 0⟩

def next (p : Place) (c : Char) : Place :=
  if isBreak c then ⟨p.index + 1, p.line + 1, 0⟩
  else if c = byteOrderMark then { p with index := p.index + 1 }
  else { p with index := p.index + 1, column := p.column + 1 }

def past (p : Place) (cs : List Char) : Place :=
  cs.foldl next p

end Place

structure Cursor where
  place : Place
  rest : List Char
  deriving Repr

namespace Cursor

def skip (n : Nat) (c : Cursor) : Cursor :=
  ⟨c.place.past (c.rest.take n), c.rest.drop n⟩

def span (class? : Char → Bool) (c : Cursor) : List Char × Cursor :=
  let run := c.rest.takeWhile class?
  (run, ⟨c.place.past run, c.rest.dropWhile class?⟩)

def column (c : Cursor) : Nat := c.place.column

end Cursor

/-- A line break in a value: next line is a line feed, the two Unicode separators stay what they
are. -/
def breakText (c : Char) : Char :=
  if c = '\u0085' then '\n' else c

end AgentWire.Yaml
