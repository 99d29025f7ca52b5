import AgentWire.Wire.Value
/-!
Questions to decoded values: whether they count as given, what an agent supports and which tables
its schema has.
-/
namespace AgentWire.Value

/-- Whether a value counts as given: null, false, zero and everything empty do not. -/
def isGiven : Value → Bool
  | .absent => false
  | .json j => match j with
    | .null => false
    | .bool b => b
    | .int i => i ≠ 0
    | .num x => x != 0.0
    | .str s => s ≠ ""
    | .arr items => !items.isEmpty
    | .obj members => !members.isEmpty
  | .text s => s ≠ ""
  | .flag b => b
  | .integer i => i ≠ 0
  | .member .. => true
  | .list items => !items.isEmpty
  | .map entries => !entries.isEmpty
  | .record .. => true

def field? (name : String) : Value → Option Value
  | .record _ fields => lookup name fields
  | _ => none

/-- Whether capabilities have a section. Only declared sections count. -/
def supports (capabilities : Value) (section' : String) : Bool :=
  match capabilities.field? section' with
  | some v => v.isPresent
  | none => false

def nameParts? : Value → Option (List String)
  | .list items => items.mapM fun
    | .text s => some s
    | _ => none
  | _ => none

def table? (schema : Value) (name : List String) : Option Value :=
  match schema.field? "tables" with
  | some (.list tables) => tables.find? fun t => (t.field? "name").bind nameParts? == some name
  | _ => none

end AgentWire.Value
