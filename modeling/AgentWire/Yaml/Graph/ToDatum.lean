import AgentWire.Datum.Members
import AgentWire.Text.Utf8
import AgentWire.Yaml.Graph.Objects
import AgentWire.Yaml.Node.OfTokens
/-!
The datum of a document, from its objects and from its text. An object that is mentioned more than
once has the number of its vertex as its mark; inside itself it is its mark alone. A text without a
document stands for null.
-/
namespace AgentWire.Yaml.Objects

def parts : Object → List Nat
  | .scalar _ => []
  | .list items => items
  | .pairs items => items.flatMap fun (k, v) => [k, v]
  | .set members => members
  | .map entries => entries.flatMap fun (k, v) => [k, v]

/-- How often each vertex is mentioned. The document mentions the first one. -/
def mentions (c : Objects) : Array Nat :=
  (0 :: c.made.toList.flatMap fun o => (o.map parts).getD []).foldl
    (fun counts i => counts.modify i (· + 1)) (Array.replicate c.made.size 0)

def markOf (counts : Array Nat) (i : Nat) : Option Nat :=
  if 1 < (counts[i]?).getD 0 then some i else none

/-- The data of objects that mention nothing around them, as far as they are known. -/
abbrev Known := Array (Option Datum)

structure View (α : Type) where
  value : α
  loose : List Nat

abbrev Viewer (α : Type) := Known → Nat → View α × Known

def viewAll (view : Viewer Datum) (known : Known) : List Nat → View (List Datum) × Known
  | [] => (⟨[], []⟩, known)
  | i :: rest =>
    let (d, known) := view known i
    let (ds, known) := viewAll view known rest
    (⟨d.value :: ds.value, d.loose ++ ds.loose⟩, known)

def viewPairs (view : Viewer Datum) (known : Known) :
    List (Nat × Nat) → View (List (Datum × Datum)) × Known
  | [] => (⟨[], []⟩, known)
  | (k, v) :: rest =>
    let (key, known) := view known k
    let (value, known) := view known v
    let (ds, known) := viewPairs view known rest
    (⟨(key.value, value.value) :: ds.value, key.loose ++ value.loose ++ ds.loose⟩, known)

/-- The datum of a collection, which is remembered if it is whole by itself. -/
def close (i : Nat) (d : Datum) (loose : List Nat) (known : Known) : View Datum × Known :=
  let loose := loose.filter (· ≠ i)
  (⟨d, loose⟩, if loose.isEmpty then known.setIfInBounds i (some d) else known)

/-- The datum of a vertex inside of others. Each call goes inside one more, so their number bounds
the depth. -/
def view (c : Objects) (mark : Nat → Option Nat) : Nat → List Nat → Viewer Datum
  | 0, _, known, _ => (⟨.null, []⟩, known)
  | fuel + 1, around, known, i =>
    match (known[i]?).join, c.object? i with
    | some d, _ => (⟨d, []⟩, known)
    | none, none => (⟨.null, []⟩, known)
    | none, some o =>
      let inner := view c mark fuel (i :: around)
      match o with
      | .scalar d => (⟨d, []⟩, known)
      | .list items =>
        if around.contains i then (⟨.within i true, [i]⟩, known)
        else
          let (v, known) := viewAll inner known items
          close i (.list (mark i) v.value) v.loose known
      | .pairs items =>
        if around.contains i then (⟨.within i true, [i]⟩, known)
        else
          let (v, known) := viewPairs inner known items
          close i (.list (mark i) (v.value.map fun (a, b) => .pair a b)) v.loose known
      | .set members =>
        let (v, known) := viewAll inner known members
        close i (.set (mark i) (Datum.listed v.value)) v.loose known
      | .map entries =>
        if around.contains i then (⟨.within i false, [i]⟩, known)
        else
          let (v, known) := viewPairs inner known entries
          close i (.map (mark i) v.value) v.loose known

def datum (c : Objects) : Datum :=
  (view c (markOf c.mentions) (c.made.size + 1) [] (Array.replicate c.made.size none) 0).1.value

end AgentWire.Yaml.Objects

namespace AgentWire.Yaml

def read (text : List Char) : Except Fault Datum := do
  match ← Node.document (tokens (unifyLineEnds text)) with
  | none => return .null
  | some n => return (← Objects.ofGraph (.ofNode n)).datum

end AgentWire.Yaml
