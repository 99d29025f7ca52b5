import AgentWire.Json.Value
import AgentWire.Number.Shortest
/-!
JSON text: one line, compact or indented; with every character kept or everything outside printable
ASCII escaped. Doubles that are no finite number are written as the bare words `Infinity`,
`-Infinity` and `NaN`, which no reader of JSON accepts.
-/
namespace AgentWire.Json

inductive Layout where
  /-- On one line, with a blank after each comma and colon. -/
  | line
  | compact
  /-- One item or member a line, each level indented by `step` further blanks. -/
  | indented (step : Nat)
  deriving DecidableEq, Repr

structure Style where
  layout : Layout
  ascii : Bool
  deriving DecidableEq, Repr

def hex4 (n : Nat) : List Char :=
  let ds := Nat.toDigits 16 n
  List.replicate (4 - ds.length) '0' ++ ds

def unicodeEscape (n : Nat) : List Char :=
  '\\' :: 'u' :: hex4 n

/-- One character inside a string. Characters beyond the basic plane are escaped as two
surrogates. -/
def writeChar (ascii : Bool) (c : Char) : List Char :=
  if c = '"' then ['\\', '"']
  else if c = '\\' then ['\\', '\\']
  else if c = '\n' then ['\\', 'n']
  else if c = '\r' then ['\\', 'r']
  else if c = '\t' then ['\\', 't']
  else if c = '\x0c' then ['\\', 'f']
  else if c = '\x08' then ['\\', 'b']
  else if c.toNat < 0x20 then unicodeEscape c.toNat
  else if !ascii || c.toNat < 0x7F then [c]
  else if c.toNat < 0x10000 then unicodeEscape c.toNat
  else unicodeEscape (0xD800 + (c.toNat - 0x10000) / 0x400) ++
    unicodeEscape (0xDC00 + (c.toNat - 0x10000) % 0x400)

def writeString (ascii : Bool) (s : String) : List Char :=
  '"' :: (s.toList.flatMap (writeChar ascii) ++ ['"'])

def writeInt (i : Int) : List Char :=
  (if i < 0 then ['-'] else []) ++ Nat.toDigits 10 i.natAbs

def writeFloat (x : Float) : List Char :=
  if x.isNaN then "NaN".toList
  else if x.isFinite then NumberText.finite x
  else if signBit x then "-Infinity".toList
  else "Infinity".toList

/-- What stands between two items and, at the deeper level, before the first one; nothing on one
line. -/
def breakLine (layout : Layout) (level : Nat) : List Char :=
  match layout with
  | .indented step => '\n' :: List.replicate (step * level) ' '
  | _ => []

def comma (layout : Layout) (level : Nat) : List Char :=
  match layout with
  | .line => [',', ' ']
  | .compact => [',']
  | .indented _ => ',' :: breakLine layout level

def colon : Layout → List Char
  | .compact => [':']
  | _ => [':', ' ']

mutual
def write (st : Style) (level : Nat) : Json → List Char
  | .null => "null".toList
  | .bool b => (if b then "true" else "false").toList
  | .int i => writeInt i
  | .num x => writeFloat x
  | .str s => writeString st.ascii s
  | .arr items => match items with
    | [] => ['[', ']']
    | x :: rest => '[' :: (breakLine st.layout (level + 1) ++ write st (level + 1) x ++
        writeItems st (level + 1) rest ++ breakLine st.layout level ++ [']'])
  | .obj members => match members with
    | [] => ['{', '}']
    | (k, x) :: rest => '{' :: (breakLine st.layout (level + 1) ++ writeString st.ascii k ++
        colon st.layout ++ write st (level + 1) x ++ writeMembers st (level + 1) rest ++
        breakLine st.layout level ++ ['}'])

def writeItems (st : Style) (level : Nat) : List Json → List Char
  | [] => []
  | x :: rest => comma st.layout level ++ write st level x ++ writeItems st level rest

def writeMembers (st : Style) (level : Nat) : List (String × Json) → List Char
  | [] => []
  | (k, x) :: rest => comma st.layout level ++ writeString st.ascii k ++ colon st.layout ++
      write st level x ++ writeMembers st level rest
end

def text (st : Style) (j : Json) : String :=
  String.ofList (write st 0 j)

end AgentWire.Json
