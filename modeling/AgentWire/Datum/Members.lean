import AgentWire.Datum.Value
/-!
The order of a set's members. Numbers stand in a table of slots: each takes the slot of its residue
or, where that is taken, the first free one on its walk through the table, and the set lists them
slot by slot. Members of other kinds have no residue, and a set that has one keeps the order it was
written in.
-/
namespace AgentWire.Datum

/-- The modulus of residues. Two to the power of 61 leaves one, so powers of two repeat after 61. -/
def residueModulus : Nat := 0x1FFFFFFFFFFFFFFF

/-- The remainder of a number, with its sign. Minus one is no residue: the number has minus two,
like its neighbour. -/
def signedResidue (negative : Bool) (n : Nat) : Int :=
  let r := n % residueModulus
  if !negative then r else if r = 1 then -2 else -r

def residue? (d : Datum) : Option Int :=
  match d.quantity? with
  | some (.exact i) => some (signedResidue (i < 0) i.natAbs)
  | some (.double x) =>
    if x.isNaN then none
    else if x.isFinite then
      let v := Dyadic.ofFloat x
      some (signedResidue (signBit x) (v.mantissa <<< (v.exponent.emod 61).toNat))
    else some (if signBit x then -314159 else 314159)
  | none => none

/-- The size of a table for so many members: a power of two, more than twice their number once they
exceed four. -/
def tableSize (members : Nat) : Nat :=
  if members < 5 then 8 else 1 <<< (Nat.log2 (2 * members) + 1)

/-- The first free slot on a walk. From each stop the walk tries the stop and, where they fit, the
nine slots behind it; the next stop mixes in five more bits of the residue until none is left, and
from then on the stops go through the whole table. -/
def freeSlot (size : Nat) (taken : List Nat) : Nat → Nat → Nat → Nat
  | 0, stop, _ => stop
  | fuel + 1, stop, bits =>
    let tries := (List.range (if stop + 9 < size then 10 else 1)).map (stop + ·)
    match tries.find? (!taken.contains ·) with
    | some slot => slot
    | none => freeSlot size taken fuel ((stop * 5 + 1 + bits / 32) % size) (bits / 32)

def withSlots (size : Nat) : List Datum → List (Nat × Datum) → Option (List (Nat × Datum))
  | [], placed => some placed
  | d :: rest, placed => do
    let bits := ((← d.residue?) % 0x10000000000000000).toNat
    let slot := freeSlot size (placed.map (·.1)) (size + 13) (bits % size) bits
    withSlots size rest ((slot, d) :: placed)

def listed (members : List Datum) : List Datum :=
  match withSlots (tableSize members.length) members [] with
  | some placed => (placed.mergeSort fun a b => a.1 ≤ b.1).map (·.2)
  | none => members

end AgentWire.Datum
