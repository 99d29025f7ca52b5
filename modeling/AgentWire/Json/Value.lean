import AgentWire.Number.Decimal
/-!
JSON values. Integers are unbounded and are another kind of number than doubles; an object keeps the
order of its members. Two equalities live side by side: `=`, which tells everything apart, and
`same`, which lets numbers and booleans meet by value and ignores the order of members.
-/
namespace AgentWire

inductive Json where
  | null
  | bool (b : Bool)
  | int (i : Int)
  | num (x : Float)
  | str (s : String)
  | arr (items : List Json)
  | obj (members : List (String × Json))
  deriving Inhabited

inductive Kind where
  | null
  | boolean
  | integer
  | number
  | string
  | array
  | object
  deriving DecidableEq, Repr

def Kind.name : Kind → String
  | .null => "null"
  | .boolean => "boolean"
  | .integer => "integer"
  | .number => "number"
  | .string => "string"
  | .array => "array"
  | .object => "object"

namespace Json

def kind : Json → Kind
  | .null => .null
  | .bool _ => .boolean
  | .int _ => .integer
  | .num _ => .number
  | .str _ => .string
  | .arr _ => .array
  | .obj _ => .object

def lookup (key : String) : List (String × Json) → Option Json
  | [] => none
  | (k, v) :: rest => if k = key then some v else lookup key rest

/-- Sets the member of a key: a key that is there keeps its place, a new one goes to the end. -/
def insert (key : String) (value : Json) : List (String × Json) → List (String × Json)
  | [] => [(key, value)]
  | (k, v) :: rest => if k = key then (k, value) :: rest else (k, v) :: insert key value rest

/-- Members as they were written, repeats included, made into an object: the first occurrence of a
key gives its place and the last its value. -/
def ofMembers (written : List (String × Json)) : Json :=
  .obj (written.foldl (fun members (k, v) => insert k v members) [])

/-- A number or boolean in a comparison; booleans count as 0 and 1. -/
inductive Quantity where
  | exact (i : Int)
  | double (x : Float)

def quantity? : Json → Option Quantity
  | .bool b => some (.exact (if b then 1 else 0))
  | .int i => some (.exact i)
  | .num x => some (.double x)
  | _ => none

/-- Equality by value. A double that is no number equals nothing. -/
def Quantity.same : Quantity → Quantity → Bool
  | .exact i, .exact j => i == j
  | .exact i, .double x => isInteger x i
  | .double x, .exact i => isInteger x i
  | .double x, .double y => x == y

mutual
/-- Equality up to the order of members and the kind of numbers. -/
def same : Json → Json → Bool
  | .null, other => match other with
    | .null => true
    | _ => false
  | .str s, other => match other with
    | .str t => s == t
    | _ => false
  | .arr items, other => match other with
    | .arr others => sameItems items others
    | _ => false
  | .obj members, other => match other with
    | .obj others => members.length == others.length && sameMembers members others
    | _ => false
  | .bool b, other => (other.quantity?.map (Quantity.same (.exact (if b then 1 else 0)))).getD false
  | .int i, other => (other.quantity?.map (Quantity.same (.exact i))).getD false
  | .num x, other => (other.quantity?.map (Quantity.same (.double x))).getD false

def sameItems : List Json → List Json → Bool
  | [], others => others.isEmpty
  | x :: rest, others => match others with
    | [] => false
    | y :: more => same x y && sameItems rest more

def sameMembers : List (String × Json) → List (String × Json) → Bool
  | [], _ => true
  | (k, x) :: rest, others => ((lookup k others).map (same x)).getD false && sameMembers rest others
end

mutual
def withoutNonFinite : Json → Json
  | .num x => if x.isFinite then .num x else .null
  | .arr items => .arr (withoutNonFiniteItems items)
  | .obj members => .obj (withoutNonFiniteMembers members)
  | .null => .null
  | .bool b => .bool b
  | .int i => .int i
  | .str s => .str s

def withoutNonFiniteItems : List Json → List Json
  | [] => []
  | x :: rest => withoutNonFinite x :: withoutNonFiniteItems rest

def withoutNonFiniteMembers : List (String × Json) → List (String × Json)
  | [] => []
  | (k, x) :: rest => (k, withoutNonFinite x) :: withoutNonFiniteMembers rest
end

end Json

end AgentWire
