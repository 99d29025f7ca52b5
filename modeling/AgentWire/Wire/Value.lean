import AgentWire.Json.Value
import AgentWire.Wire.Declaration
/-!
Decoded values. A record holds all its declared fields in their order; a field that the document
leaves out is `absent`. The words of an enumeration are members of it, other texts stay texts.
-/
namespace AgentWire

inductive Value where
  | absent
  /-- A part of the document that is kept as it is. -/
  | json (j : Json)
  | text (s : String)
  | flag (b : Bool)
  | integer (i : Int)
  | member (e : Enumeration) (word : String)
  | list (items : List Value)
  | map (entries : List (String × Value))
  | record (r : Record) (fields : List (String × Value))
  deriving Inhabited

namespace Value

def lookup (key : String) : List (String × Value) → Option Value
  | [] => none
  | (k, v) :: rest => if k = key then some v else lookup key rest

def isPresent : Value → Bool
  | .absent => false
  | _ => true

mutual
/-- Equality by value: of one record or enumeration with equal fields or words. Inside of JSON parts
numbers and booleans meet by value; the order of entries does not matter. -/
def same : Value → Value → Bool
  | .absent, other => match other with
    | .absent => true
    | _ => false
  | .json j, other => match other with
    | .json k => j.same k
    | _ => false
  | .text s, other => match other with
    | .text t => s == t
    | _ => false
  | .flag b, other => match other with
    | .flag c => b == c
    | _ => false
  | .integer i, other => match other with
    | .integer k => i == k
    | _ => false
  | .member e w, other => match other with
    | .member f v => e == f && w == v
    | _ => false
  | .list items, other => match other with
    | .list others => sameItems items others
    | _ => false
  | .map entries, other => match other with
    | .map others => entries.length == others.length && sameEntries entries others
    | _ => false
  | .record r fields, other => match other with
    | .record q others => r == q && fields.length == others.length && sameEntries fields others
    | _ => false

def sameItems : List Value → List Value → Bool
  | [], others => others.isEmpty
  | x :: rest, others => match others with
    | [] => false
    | y :: more => same x y && sameItems rest more

def sameEntries : List (String × Value) → List (String × Value) → Bool
  | [], _ => true
  | (k, v) :: rest, others => ((lookup k others).map (same v)).getD false && sameEntries rest others
end

end Value

end AgentWire
