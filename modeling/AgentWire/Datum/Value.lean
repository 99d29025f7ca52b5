import AgentWire.Datum.Calendar
import AgentWire.Json.Value
/-!
Configuration data: what a configuration file can hold. Every JSON value is a datum; a file may also
hold days, moments, bytes, pairs, sets and mappings with keys of any kind, and may mention one
object in several places. Such an object carries a mark, and all its mentions carry the same one. A
collection that stands inside itself is mentioned there by its mark alone.
-/
namespace AgentWire

inductive Datum where
  | null
  | bool (b : Bool)
  | int (i : Int)
  | num (x : Float)
  /-- A double that is no number and an object of its own: it equals nothing but itself. -/
  | nan (mark : Nat)
  | str (s : String)
  | bytes (bs : List UInt8)
  | day (mark : Option Nat) (d : Day)
  | moment (mark : Option Nat) (m : Moment)
  | list (mark : Option Nat) (items : List Datum)
  | pair (first second : Datum)
  | set (mark : Option Nat) (members : List Datum)
  | map (mark : Option Nat) (entries : List (Datum × Datum))
  /-- A list, or else a mapping, inside itself. -/
  | within (mark : Nat) (isList : Bool)
  deriving Inhabited

namespace Datum

mutual
/-- A JSON value as a datum. No two of its parts are the same object. -/
def ofJson : Json → Datum
  | .null => .null
  | .bool b => .bool b
  | .int i => .int i
  | .num x => .num x
  | .str s => .str s
  | .arr items => .list none (ofItems items)
  | .obj members => .map none (ofMembers members)

def ofItems : List Json → List Datum
  | [] => []
  | x :: rest => ofJson x :: ofItems rest

def ofMembers : List (String × Json) → List (Datum × Datum)
  | [] => []
  | (k, x) :: rest => (.str k, ofJson x) :: ofMembers rest
end

def quantity? : Datum → Option Json.Quantity
  | .bool b => some (.exact (if b then 1 else 0))
  | .int i => some (.exact i)
  | .num x => some (.double x)
  | _ => none

/-- Equality of quantities. All plain doubles that are no number are one object, which equals
itself. -/
def sameQuantity (a b : Json.Quantity) : Bool :=
  match a, b with
  | .double x, .double y => x.isNaN && y.isNaN || a.same b
  | _, _ => a.same b

mutual
/-- Equality by value: marks, the order of mappings and sets, and the kind of numbers do not
matter. -/
def same : Datum → Datum → Bool
  | .null, other => match other with
    | .null => true
    | _ => false
  | .nan m, other => match other with
    | .nan n => m == n
    | _ => false
  | .str s, other => match other with
    | .str t => s == t
    | _ => false
  | .bytes bs, other => match other with
    | .bytes cs => bs == cs
    | _ => false
  | .day _ d, other => match other with
    | .day _ e => d == e
    | _ => false
  | .moment _ m, other => match other with
    | .moment _ n => m.same n
    | _ => false
  | .list _ items, other => match other with
    | .list _ others => sameItems items others
    | _ => false
  | .pair a b, other => match other with
    | .pair c d => same a c && same b d
    | _ => false
  | .set _ members, other => match other with
    | .set _ others => members.length == others.length && allAmong members others
    | _ => false
  | .map _ entries, other => match other with
    | .map _ others => entries.length == others.length && sameEntries entries others
    | _ => false
  | .within _ l, other => match other with
    | .within _ k => l == k
    | _ => false
  | .bool b, other => (other.quantity?.map (sameQuantity (.exact (if b then 1 else 0)))).getD false
  | .int i, other => (other.quantity?.map (sameQuantity (.exact i))).getD false
  | .num x, other => (other.quantity?.map (sameQuantity (.double x))).getD false

def sameItems : List Datum → List Datum → Bool
  | [], others => others.isEmpty
  | x :: rest, others => match others with
    | [] => false
    | y :: more => same x y && sameItems rest more

def allAmong : List Datum → List Datum → Bool
  | [], _ => true
  | x :: rest, others => others.any (same x) && allAmong rest others

def sameEntries : List (Datum × Datum) → List (Datum × Datum) → Bool
  | [], _ => true
  | (k, v) :: rest, others =>
    others.any (fun (l, w) => same k l && same v w) && sameEntries rest others
end

/-- Whether a datum counts as given: null, false, zero and everything empty do not. -/
def isGiven : Datum → Bool
  | .null => false
  | .bool b => b
  | .int i => i ≠ 0
  | .num x => !(x == 0.0)
  | .str s => !s.isEmpty
  | .bytes bs => !bs.isEmpty
  | .list _ items => !items.isEmpty
  | .set _ members => !members.isEmpty
  | .map _ entries => !entries.isEmpty
  | _ => true

def isOpen (around : List Nat) : Option Nat → Bool
  | none => false
  | some m => around.contains m

def inside (around : List Nat) : Option Nat → List Nat
  | none => around
  | some m => m :: around

def canBeKey : Datum → Bool
  | .list .. | .set .. | .map .. | .within .. => false
  | .pair a b => canBeKey a && canBeKey b
  | _ => true

end Datum

end AgentWire
