import AgentWire.Yaml.Graph.Merging
import AgentWire.Yaml.Scalar
/-!
The objects that the vertices of a graph stand for. A collection is an object as soon as it is
mentioned and gets its parts when its turn comes, first come, first served; so the faults of a
document come in this order.
-/
namespace AgentWire.Yaml

inductive Object where
  | scalar (d : Datum)
  | list (items : List Nat)
  | pairs (items : List (Nat × Nat))
  | set (members : List Nat)
  | map (entries : List (Nat × Nat))

/-- A graph with the objects of the vertices mentioned so far, and the collections that wait for
their parts. -/
structure Objects where
  graph : Graph
  made : Array (Option Object)
  queue : List Nat

namespace Objects

def start (g : Graph) : Objects := ⟨g, Array.replicate g.size none, []⟩

def object? (c : Objects) (i : Nat) : Option Object :=
  (c.made[i]?).join

def put (c : Objects) (i : Nat) (o : Object) : Objects :=
  { c with made := c.made.setIfInBounds i (some o) }

def hollow? : Tag → Option Object
  | .seq => some (.list [])
  | .omap => some (.pairs [])
  | .pairs => some (.pairs [])
  | .map => some (.map [])
  | .set => some (.set [])
  | _ => none

def scalarDatum (g : Graph) (i : Nat) (t : Tag) : Except Fault Datum :=
  if t ∈ [.null, .bool, .int, .float, .str, .binary, .timestamp] then do
    let text ← g.scalarText (g.size + 1) i
    match t, g.content? i with
    | .timestamp, some (.mapping _) => throw .timestampShape
    | _, _ => Scalar.datum i t text
  else .error .malformed

def mention (c : Objects) (i : Nat) : Except Fault Objects :=
  match c.object? i, c.graph.tag? i with
  | some _, _ => .ok c
  | none, none => .error .malformed
  | none, some t => match hollow? t with
    | some o => .ok { c.put i o with queue := c.queue ++ [i] }
    | none => (scalarDatum c.graph i t).map fun d => c.put i (.scalar d)

def key? (c : Objects) (i : Nat) : Option Datum :=
  match c.object? i with
  | some (.scalar d) => some d
  | _ => none

def mentionAll (c : Objects) : List Nat → Except Fault Objects
  | [] => .ok c
  | i :: rest => do mentionAll (← c.mention i) rest

/-- Each member of a list of pairs is a mapping with a single entry. -/
def mentionPairs (c : Objects) : List Nat → Except Fault (List (Nat × Nat) × Objects)
  | [] => .ok ([], c)
  | i :: rest => match c.graph.content? i with
    | some (.mapping [(k, v)]) => do
      let (pairs, c) ← mentionPairs (← (← c.mention k).mention v) rest
      return ((k, v) :: pairs, c)
    | _ => .error .malformed

def mentionEntries (c : Objects) : List (Nat × Nat) → Except Fault Objects
  | [] => .ok c
  | (k, v) :: rest => do
    let c ← c.mention k
    if (c.key? k).isNone then throw .malformed
    mentionEntries (← c.mention v) rest

def sameKey (c : Objects) (k l : Nat) : Bool :=
  match c.key? k, c.key? l with
  | some d, some e => d.same e
  | _, _ => false

/-- Adds an entry. A key keeps its first place and form, and has its last value. -/
def insertEntry (c : Objects) (key value : Nat) : List (Nat × Nat) → List (Nat × Nat)
  | [] => [(key, value)]
  | (k, v) :: rest =>
    if c.sameKey key k then (k, value) :: rest else (k, v) :: insertEntry c key value rest

def distinct (c : Objects) (es : List (Nat × Nat)) : List (Nat × Nat) :=
  es.foldl (fun done (k, v) => c.insertEntry k v done) []

def entriesOf (c : Objects) (i : Nat) : Except Fault (List (Nat × Nat) × Objects) :=
  match c.graph.content? i with
  | some (.mapping _) => do
    let graph ← c.graph.merged i
    let es := graph.entries i
    let c ← mentionEntries { c with graph } es
    return (c.distinct es, c)
  | _ => .error .malformed

def fill (c : Objects) (i : Nat) : Except Fault Objects :=
  match c.object? i, c.graph.content? i with
  | some (.list _), some (.sequence items) => do return (← c.mentionAll items).put i (.list items)
  | some (.pairs _), some (.sequence items) => do
    let (pairs, c) ← c.mentionPairs items
    return c.put i (.pairs pairs)
  | some (.map _), _ => do
    let (es, c) ← c.entriesOf i
    return c.put i (.map es)
  | some (.set _), _ => do
    let (es, c) ← c.entriesOf i
    return c.put i (.set (es.map (·.1)))
  | _, _ => .error .malformed

/-- Fills what waits. A vertex waits once at most, so their number bounds the steps. -/
def fillAll : Nat → Objects → Except Fault Objects
  | 0, c => .ok c
  | fuel + 1, c => match c.queue with
    | [] => .ok c
    | i :: rest => do fillAll fuel (← fill { c with queue := rest } i)

def ofGraph (g : Graph) : Except Fault Objects := do
  fillAll g.size (← (start g).mention 0)

end Objects

end AgentWire.Yaml
