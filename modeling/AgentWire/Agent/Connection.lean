/-!
Connections of a client. One may be given to it from outside, which it uses and never closes.
Otherwise it makes one when it needs one, and closes it when it is done.
-/
namespace AgentWire

structure Connections where
  /-- Whether each connection is open: the given one, if there is one, then those made, in order. -/
  isOpen : List Bool
  given : Bool
  held : Option Nat
  deriving DecidableEq, Repr

namespace Connections

def ofGiven : Connections := ⟨[true], true, some 0⟩

def empty : Connections := ⟨[], false, none⟩

def made (cs : Connections) : Nat :=
  cs.isOpen.length - (if cs.given then 1 else 0)

def owns (cs : Connections) (i : Nat) : Bool :=
  !(cs.given && i = 0)

def acquire (cs : Connections) : Nat × Connections :=
  match cs.held with
  | some i => (i, cs)
  | none =>
    (cs.isOpen.length, { cs with isOpen := cs.isOpen ++ [true], held := some cs.isOpen.length })

/-- Closes the held connection if the client made it. -/
def release (cs : Connections) : Connections :=
  match cs.held with
  | some i => if cs.owns i then { cs with isOpen := cs.isOpen.set i false, held := none } else cs
  | none => cs

end Connections

end AgentWire
