import AgentWire.Yaml.Quoted
import AgentWire.Yaml.Scalar
/-!
How the text of a scalar is written: plain if it is read back as it is, in single quotes if nothing
in it has to be escaped, otherwise in double quotes. Long text is folded at blanks. What is written
is ASCII.
-/
namespace AgentWire.Yaml

inductive Style where
  | plain
  | single
  | double
  | literal
  deriving DecidableEq, Repr

/-- Where a scalar is written: the column it starts at, the column of its further lines, and whether
it may have any. -/
structure Room where
  column : Nat
  indent : Nat
  foldable : Bool

namespace ScalarText

/-- Text is folded at the first chance beyond this column. -/
def width : Nat := 80

def isPlainAscii (c : Char) : Bool :=
  0x20 ≤ c.toNat && c.toNat < 0x7F

def isClean (cs : List Char) : Bool :=
  cs.all fun c => c = '\n' || isPlainAscii c

/-- Whether a blank stands next to a line feed, where reading would drop it. -/
def blankAtBreak : List Char → Bool
  | a :: b :: rest => a = ' ' && b = '\n' || a = '\n' && b = ' ' || blankAtBreak (b :: rest)
  | _ => false

def reserved : List Char := "#,[]\x7b\x7d&*!|>'\"%@\x60".toList

def hasIndicator : List Char → Bool
  | ' ' :: '#' :: _ => true
  | ':' :: rest => endsWord rest || hasIndicator rest
  | _ :: rest => hasIndicator rest
  | [] => false

/-- Whether a text can be written plain: clean, within one line, no blank at either end, and nothing
in it that structures a document. -/
def canBePlain (cs : List Char) : Bool :=
  match cs with
  | [] => false
  | c :: rest =>
    isClean cs && !cs.contains '\n' && c ≠ ' ' && cs.getLast? ≠ some ' ' &&
    !reserved.contains c && !((c = '?' || c = ':' || c = '-') && endsWord rest) &&
    !hasIndicator cs && !(cs.take 3 = ['-', '-', '-'] || cs.take 3 = ['.', '.', '.'])

def canBeSingle (cs : List Char) : Bool :=
  isClean cs && !blankAtBreak cs

def style (t : Tag) (cs : List Char) : Style :=
  if t = .binary then if cs.isEmpty then .double else .literal
  else if Tag.ofPlain cs = t && canBePlain cs then .plain
  else if canBeSingle cs then .single
  else .double

def newLine (indent : Nat) : List Char :=
  '\n' :: List.replicate indent ' '

/-- Plain or single quoted text. A single blank beyond the width becomes a line break, and a line
feed an empty line, since reading makes blanks of single breaks. `before` is the character before
the text. -/
def folded (room : Room) (quoted : Char → List Char) (column : Nat) (before : Option Char) :
    List Char → List Char
  | [] => []
  | c :: rest =>
    if c = ' ' && room.foldable && width < column && before.isSome && before ≠ some ' ' &&
        !rest.isEmpty && rest.head? ≠ some ' ' then
      newLine room.indent ++ folded room quoted room.indent (some c) rest
    else if c = '\n' then
      (if before = some '\n' then ['\n'] else ['\n', '\n']) ++
        if rest.head? = some '\n' then folded room quoted 0 (some c) rest
        else List.replicate room.indent ' ' ++ folded room quoted room.indent (some c) rest
    else quoted c ++ folded room quoted (column + (quoted c).length) (some c) rest

def hexText (digits n : Nat) : List Char :=
  let ds := (Nat.toDigits 16 n).map Char.toUpper
  List.replicate (digits - ds.length) '0' ++ ds

def escape (c : Char) : List Char :=
  let n := c.toNat
  match Quoted.escapes.find? fun (_, d) => d = c with
  | some (letter, _) => ['\\', letter]
  | none =>
    if n < 0x100 then '\\' :: 'x' :: hexText 2 n
    else if n < 0x10000 then '\\' :: 'u' :: hexText 4 n
    else '\\' :: 'U' :: hexText 8 n

def needsEscape (c : Char) : Bool :=
  c = '"' || c = '\\' || !isPlainAscii c

def guard (cs : List Char) : List Char :=
  if cs.head? = some ' ' then ['\\'] else []

/-- Text in double quotes. Beyond the width a line is broken with a backslash, after an escape or
before a blank or the character after an escape, but neither before the first character nor before
the last one. The flags say whether `c` is the first character and whether it follows an escape. -/
def escaped (room : Room) (column : Nat) (first afterEscape : Bool) : List Char → List Char
  | [] => []
  | c :: rest =>
    let mayBreak := room.foldable && !first && !rest.isEmpty
    if needsEscape c then
      let e := escape c
      if mayBreak && width + 1 < column + e.length then
        e ++ '\\' :: newLine room.indent ++ guard rest ++
          escaped room (room.indent + (guard rest).length) false true rest
      else e ++ escaped room (column + e.length) false true rest
    else if mayBreak && width < column && (c = ' ' || afterEscape) then
      '\\' :: newLine room.indent ++ guard (c :: rest) ++ c ::
        escaped room (room.indent + (guard (c :: rest)).length + 1) false false rest
    else c :: escaped room (column + 1) false false rest

def twice (c : Char) : List Char :=
  if c = '\'' then ['\'', '\''] else [c]

def write (room : Room) (s : Style) (cs : List Char) : List Char :=
  match s with
  | .plain => folded room (fun c => [c]) room.column none cs
  | .single => '\'' :: folded room twice (room.column + 1) none cs ++ ['\'']
  | .double => '"' :: escaped room (room.column + 1) true false cs ++ ['"']
  | .literal => '|' :: newLine room.indent ++
      cs.dropLast.flatMap fun c => if c = '\n' then newLine room.indent else [c]

end ScalarText

end AgentWire.Yaml
