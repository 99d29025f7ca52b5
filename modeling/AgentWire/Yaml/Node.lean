import AgentWire.Number.Decimal
import AgentWire.Text.Numeral
/-!
Nodes, the tree of a document as it is written, and their tags. An anchor names a node and an alias
mentions it again; the tag says how the node is read. The text of a plain scalar has a tag by its
form alone: `12` is an integer, `1e3` a string, since a number with an exponent needs a point.
-/
namespace AgentWire.Yaml

inductive Tag where
  | null
  | bool
  | int
  | float
  | str
  | binary
  | timestamp
  | seq
  | map
  | set
  | omap
  | pairs
  | merge
  | value
  | yaml
  | other (name : String)
  deriving DecidableEq, Repr

namespace Tag

def names : List (Tag × String) :=
  [(.null, "null"), (.bool, "bool"), (.int, "int"), (.float, "float"), (.str, "str"),
   (.binary, "binary"), (.timestamp, "timestamp"), (.seq, "seq"), (.map, "map"), (.set, "set"),
   (.omap, "omap"), (.pairs, "pairs"), (.merge, "merge"), (.value, "value"), (.yaml, "yaml")]

/-- What the full names of the standard tags start with; a document writes `!!` for it. -/
def standardStem : String := "tag:yaml.org,2002:"

def ofName (full : String) : Tag :=
  ((names.find? fun (_, n) => standardStem ++ n = full).map (·.1)).getD (.other full)

def shorthand (t : Tag) : String :=
  match names.find? fun (u, _) => u = t, t with
  | some (_, n), _ => "!!" ++ n
  | none, .other full =>
    if standardStem.toList.isPrefixOf full.toList
    then "!!" ++ String.ofList (full.toList.drop standardStem.length)
    else full
  | none, _ => ""

/-! The form of a plain scalar. -/

def dropSign : List Char → List Char
  | '-' :: rest => rest
  | '+' :: rest => rest
  | cs => cs

def isBinaryDigit (c : Char) : Bool := c = '0' || c = '1'

def isOctalDigit (c : Char) : Bool := '0' ≤ c && c ≤ '7'

/-- Digits of a class with underscores among them, at least one character of either. -/
def isGrouped (digit : Char → Bool) (cs : List Char) : Bool :=
  !cs.isEmpty && cs.all fun c => digit c || c = '_'

def isGroupedFrom (first : Char → Bool) : List Char → Bool
  | [] => false
  | c :: rest => first c && rest.all fun d => d.isDigit || d = '_'

def isNonzeroDigit (c : Char) : Bool := c.isDigit && c ≠ '0'

def isSixtieth : List Char → Bool
  | [c] => c.isDigit
  | [c, d] => '0' ≤ c && c ≤ '5' && d.isDigit
  | _ => false

def colonParts (cs : List Char) : List (List Char) :=
  cs.splitOn ':'

/-- Base sixty: a leading part and at least one more. -/
def isSexagesimal (first : Char → Bool) (cs : List Char) : Bool :=
  match colonParts cs with
  | lead :: part :: more => isGroupedFrom first lead && (part :: more).all isSixtieth
  | _ => false

def isUnsignedInteger : List Char → Bool
  | ['0'] => true
  | '0' :: 'b' :: rest => isGrouped isBinaryDigit rest
  | '0' :: 'x' :: rest => isGrouped Numeral.isHexDigit rest
  | '0' :: rest => isGrouped isOctalDigit rest
  | cs => isGroupedFrom isNonzeroDigit cs || isSexagesimal isNonzeroDigit cs

def isInteger (cs : List Char) : Bool :=
  isUnsignedInteger (dropSign cs)

def isExponentOrNone : List Char → Bool
  | [] => true
  | e :: sign :: ds =>
    (e = 'e' || e = 'E') && (sign = '-' || sign = '+') && !ds.isEmpty && ds.all Char.isDigit
  | _ => false

def atPoint? (cs : List Char) : Option (List Char × List Char) :=
  match cs.span (· ≠ '.') with
  | (whole, '.' :: rest) => some (whole, rest)
  | _ => none

def isDigitOrUnderscore (c : Char) : Bool := c.isDigit || c = '_'

def isFloat (cs : List Char) : Bool :=
  let unsigned := dropSign cs
  [".inf".toList, ".Inf".toList, ".INF".toList].contains unsigned ||
  [".nan".toList, ".NaN".toList, ".NAN".toList].contains cs ||
  match cs, atPoint? unsigned with
  | '.' :: d :: rest, _ => d.isDigit && isExponentOrNone (rest.dropWhile isDigitOrUnderscore)
  | _, some (whole, rest) =>
    isGroupedFrom Char.isDigit whole && isExponentOrNone (rest.dropWhile isDigitOrUnderscore) ||
    isSexagesimal Char.isDigit whole && rest.all isDigitOrUnderscore
  | _, none => false

def isNull (cs : List Char) : Bool :=
  [[], ['~'], "null".toList, "Null".toList, "NULL".toList].contains cs

/-- The words for the two truth values. Each is also understood with a capital or all in
capitals. -/
def truthWords : List (String × Bool) :=
  [("yes", true), ("no", false), ("true", true), ("false", false), ("on", true), ("off", false)]

def casings (word : String) : List (List Char) :=
  match word.toList with
  | [] => []
  | c :: rest => [c :: rest, c.toUpper :: rest, c.toUpper :: rest.map Char.toUpper]

def isBool (cs : List Char) : Bool :=
  truthWords.any fun (word, _) => (casings word).contains cs

end Tag

inductive Node where
  | alias (anchor : String)
  | scalar (anchor : Option String) (tag : Tag) (text : String)
  | sequence (anchor : Option String) (tag : Tag) (items : List Node)
  | mapping (anchor : Option String) (tag : Tag) (entries : List (Node × Node))
  deriving Inhabited

namespace Node

def nothing : Node := .scalar none .null ""

end Node

end AgentWire.Yaml
