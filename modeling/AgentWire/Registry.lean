import AgentWire.NameTable
import AgentWire.Wire.Declaration
/-!
Registries: wire types under names of the caller's choice. A registration takes the place of an
earlier one of the same name, with a warning if that was of another type.
-/
namespace AgentWire

inductive WireType where
  | record (r : Record)
  | enumeration (e : Enumeration)
  | alias (a : Alias)
  deriving DecidableEq, Repr

namespace WireType

def shape : WireType → Shape
  | .record r => .record r
  | .enumeration e => .choice e
  | .alias a => a.shape

def name : WireType → String
  | .record r => r.name
  | .enumeration e => e.name
  | .alias a => a.name

def kind : WireType → String
  | .record _ => "model"
  | .enumeration _ => "enum"
  | .alias _ => "alias"

end WireType

abbrev Registry := NameTable WireType

structure UnknownType where
  name : String
  available : List String

def UnknownType.message (u : UnknownType) : String :=
  "Unknown type '" ++ u.name ++ "'"

namespace Registry

def register (reg : Registry) (name : String) (t : WireType) : Registry :=
  reg.insert name t

/-- Whether registering takes a name away from another type. -/
def replaces (reg : Registry) (name : String) (t : WireType) : Bool :=
  match reg.find? name with
  | some u => u != t
  | none => false

def warnings (reg : Registry) (name : String) (t : WireType) : List String :=
  if replaces reg name t then ["Replacing registered type '" ++ name ++ "'"] else []

def size (reg : Registry) : Nat :=
  reg.entries.length

def contains (reg : Registry) (name : String) : Bool :=
  (reg.find? name).isSome

def get (reg : Registry) (name : String) : Except UnknownType WireType :=
  match reg.find? name with
  | some t => .ok t
  | none => .error ⟨name, reg.names⟩

def registerAll (reg : Registry) : List (String × WireType) → Registry × List String
  | [] => (reg, [])
  | (name, t) :: rest =>
    let (final, later) := registerAll (register reg name t) rest
    (final, warnings reg name t ++ later)

/-- Every wire type under its own name; two records have a second name. -/
def standardTypes : List (String × WireType) :=
  Record.all.map (fun r => (r.name, .record r)) ++
    Enumeration.all.map (fun e => (e.name, .enumeration e)) ++
    Alias.all.map (fun a => (a.name, .alias a)) ++
    [("ArgumentValue", .record .scalarArgumentValue),
      ("FunctionRequestArgument", .record .namedArgument)]

def standard : Registry :=
  (registerAll .empty standardTypes).1

end Registry

end AgentWire
