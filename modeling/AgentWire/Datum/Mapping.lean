import AgentWire.Datum.Value
/-!
Mappings among configuration data, and what stands in them. A part of a mapping that stands inside
itself may mention the mapping by its mark; taken out, it has the mapping in that place and is whole
by itself.
-/
namespace AgentWire

namespace Datum

mutual
/-- The datum with `whole` in place of every mention by its mark. -/
def withWhole (mark : Nat) (whole : Datum) : Datum → Datum
  | .within m isList => if m = mark then whole else .within m isList
  | .list m items =>
    if m = some mark then .list m items else .list m (itemsWithWhole mark whole items)
  | .pair a b => .pair (withWhole mark whole a) (withWhole mark whole b)
  | .set m members => .set m members
  | .map m entries =>
    if m = some mark then .map m entries else .map m (entriesWithWhole mark whole entries)
  | .null => .null
  | .bool b => .bool b
  | .int i => .int i
  | .num x => .num x
  | .nan m => .nan m
  | .str s => .str s
  | .bytes bs => .bytes bs
  | .day m d => .day m d
  | .moment m t => .moment m t

def itemsWithWhole (mark : Nat) (whole : Datum) : List Datum → List Datum
  | [] => []
  | d :: rest => withWhole mark whole d :: itemsWithWhole mark whole rest

/-- Keys mention nothing: what can be mentioned by its mark alone is no key. -/
def entriesWithWhole (mark : Nat) (whole : Datum) : List (Datum × Datum) → List (Datum × Datum)
  | [] => []
  | (k, v) :: rest => (k, withWhole mark whole v) :: entriesWithWhole mark whole rest
end

end Datum

structure Mapping where
  mark : Option Nat
  entries : List (Datum × Datum)
  deriving Inhabited

namespace Mapping

def empty : Mapping := ⟨none, []⟩

def toDatum (m : Mapping) : Datum := .map m.mark m.entries

def part (m : Mapping) (d : Datum) : Datum :=
  match m.mark with
  | none => d
  | some mark => Datum.withWhole mark m.toDatum d

def find? (key : String) : List (Datum × Datum) → Option Datum
  | [] => none
  | (.str k, v) :: rest => if k = key then some v else find? key rest
  | _ :: rest => find? key rest

def lookup (key : String) (m : Mapping) : Option Datum :=
  (find? key m.entries).map m.part

end Mapping

def Datum.mapping? : Datum → Option Mapping
  | .map mark entries => some ⟨mark, entries⟩
  | _ => none

end AgentWire
