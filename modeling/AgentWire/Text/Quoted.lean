import AgentWire.Text.Printable
/-!
Quoted text for messages. Single quotes stand around a text, double quotes only if it holds a single
quote and no double one; what is not printable is escaped.
-/
namespace AgentWire.Quoted

def quoteFor (cs : List Char) : Char :=
  if cs.contains '\'' && !cs.contains '"' then '"' else '\''

def hex (width n : Nat) : List Char :=
  let ds := Nat.toDigits 16 n
  List.replicate (width - ds.length) '0' ++ ds

/-- A code point by its number, in the shortest of three widths. -/
def numbered (n : Nat) : List Char :=
  if n < 0x100 then '\\' :: 'x' :: hex 2 n
  else if n < 0x10000 then '\\' :: 'u' :: hex 4 n
  else '\\' :: 'U' :: hex 8 n

def escape (quote c : Char) : List Char :=
  if c = quote || c = '\\' then ['\\', c]
  else if c = '\t' then ['\\', 't']
  else if c = '\n' then ['\\', 'n']
  else if c = '\r' then ['\\', 'r']
  else if isPrintable c then [c]
  else numbered c.toNat

def text (cs : List Char) : List Char :=
  let q := quoteFor cs
  q :: (cs.flatMap (escape q) ++ [q])

/-- Code points in quotes. One that is no character stands as its number. -/
def codePoints (codes : List Nat) : List Char :=
  let q := quoteFor (codes.map Char.ofNat)
  let one (n : Nat) : List Char := if n.isValidChar then escape q (Char.ofNat n) else numbered n
  q :: (codes.flatMap one ++ [q])

/-- Bytes in quotes, marked with `b`: printable ASCII stands for itself. -/
def bytes (bs : List UInt8) : List Char :=
  let cs := bs.map fun b => Char.ofNat b.toNat
  let q := quoteFor cs
  let one (c : Char) : List Char :=
    if c = q || c = '\\' then ['\\', c]
    else if c = '\t' then ['\\', 't']
    else if c = '\n' then ['\\', 'n']
    else if c = '\r' then ['\\', 'r']
    else if 0x20 ≤ c.toNat && c.toNat < 0x7F then [c]
    else numbered c.toNat
  'b' :: q :: (cs.flatMap one ++ [q])

end AgentWire.Quoted
