import AgentWire.Datum.Value
import AgentWire.Text.Quoted
/-!
Data inside messages. A text stands for itself at the outermost level and is quoted inside of other
data.
-/
namespace AgentWire.Datum

def intText (i : Int) : List Char :=
  (if i < 0 then ['-'] else []) ++ Nat.toDigits 10 i.natAbs

def floatText (x : Float) : List Char :=
  if x.isNaN then "nan".toList
  else if x.isFinite then NumberText.finite x
  else if signBit x then "-inf".toList
  else "inf".toList

def hint (isList : Bool) : List Char :=
  (if isList then "[...]" else "\x7b...\x7d").toList

mutual
/-- A datum as an expression. `around` holds the marks of the collections it stands in: one of these
inside itself is only hinted at. -/
def literalIn (around : List Nat) : Datum → List Char
  | .null => "None".toList
  | .bool b => (if b then "True" else "False").toList
  | .int i => intText i
  | .num x => floatText x
  | .nan _ => "nan".toList
  | .str s => Quoted.text s.toList
  | .bytes bs => Quoted.bytes bs
  | .day _ d => d.literal
  | .moment _ m => m.literal
  | .list mark items =>
    if isOpen around mark then hint true
    else '[' :: (commaSeparated (inside around mark) items ++ [']'])
  | .pair a b => '(' :: (literalIn around a ++ ", ".toList ++ literalIn around b ++ [')'])
  | .set _ members => match members with
    | [] => "set()".toList
    | x :: rest => '{' :: (commaSeparated around (x :: rest) ++ ['}'])
  | .map mark entries =>
    if isOpen around mark then hint false
    else '{' :: (entryList (inside around mark) entries ++ ['}'])
  | .within _ isList => hint isList

def commaSeparated (around : List Nat) : List Datum → List Char
  | [] => []
  | x :: rest => match rest with
    | [] => literalIn around x
    | y :: more => literalIn around x ++ ", ".toList ++ commaSeparated around (y :: more)

def entryList (around : List Nat) : List (Datum × Datum) → List Char
  | [] => []
  | (k, v) :: rest => match rest with
    | [] => literalIn around k ++ ": ".toList ++ literalIn around v
    | next :: more =>
      literalIn around k ++ ": ".toList ++ literalIn around v ++ ", ".toList ++
        entryList around (next :: more)
end

def literal (d : Datum) : List Char :=
  literalIn [] d

def plain : Datum → List Char
  | .str s => s.toList
  | .day _ d => d.text
  | .moment _ m => m.text
  | other => literal other

def plainText (d : Datum) : String :=
  String.ofList d.plain

end AgentWire.Datum
