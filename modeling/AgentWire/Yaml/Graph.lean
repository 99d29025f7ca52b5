import AgentWire.Yaml.Fault
import AgentWire.Yaml.Node
/-!
Graphs: a document whose aliases lead to the nodes they mention. Vertices are known by number; one
that is mentioned several times is one vertex, and a vertex may lead back to itself.
-/
namespace AgentWire.Yaml

inductive Content where
  | scalar (text : String)
  | sequence (items : List Nat)
  | mapping (entries : List (Nat × Nat))
  deriving Repr

structure Vertex where
  tag : Tag
  content : Content
  deriving Repr

abbrev Graph := Array Vertex

namespace Graph

structure Growth where
  graph : Graph
  anchors : List (String × Nat)

namespace Growth

/-- A new vertex, known by its anchor at once, so that what stands inside it can mention it. -/
def push (b : Growth) (anchor : Option String) (v : Vertex) : Nat × Growth :=
  let i := b.graph.size
  let anchors := match anchor with
    | none => b.anchors
    | some name => (name, i) :: b.anchors
  (i, ⟨b.graph.push v, anchors⟩)

def fill (b : Growth) (i : Nat) (content : Content) : Growth :=
  { b with graph := b.graph.modify i fun v => { v with content } }

mutual
/-- Adds a node with all it holds. An alias adds nothing. -/
def add (b : Growth) : Node → Nat × Growth
  | .alias name => ((b.anchors.lookup name).getD 0, b)
  | .scalar anchor t text => b.push anchor ⟨t, .scalar text⟩
  | .sequence anchor t items =>
    let (i, b) := b.push anchor ⟨t, .sequence []⟩
    let (items, b) := addItems b items
    (i, b.fill i (.sequence items))
  | .mapping anchor t entries =>
    let (i, b) := b.push anchor ⟨t, .mapping []⟩
    let (entries, b) := addEntries b entries
    (i, b.fill i (.mapping entries))

def addItems (b : Growth) : List Node → List Nat × Growth
  | [] => ([], b)
  | n :: rest =>
    let (i, b) := add b n
    let (is, b) := addItems b rest
    (i :: is, b)

def addEntries (b : Growth) : List (Node × Node) → List (Nat × Nat) × Growth
  | [] => ([], b)
  | (k, v) :: rest =>
    let (i, b) := add b k
    let (j, b) := add b v
    let (is, b) := addEntries b rest
    ((i, j) :: is, b)
end

end Growth

def ofNode (n : Node) : Graph :=
  (Growth.add ⟨#[], []⟩ n).2.graph

def tag? (g : Graph) (i : Nat) : Option Tag :=
  g[i]?.map (·.tag)

def content? (g : Graph) (i : Nat) : Option Content :=
  g[i]?.map (·.content)

def entries (g : Graph) (i : Nat) : List (Nat × Nat) :=
  match g.content? i with
  | some (.mapping es) => es
  | _ => []

def setEntries (g : Graph) (i : Nat) (es : List (Nat × Nat)) : Graph :=
  g.modify i fun v => { v with content := .mapping es }

/-- The text of a vertex where a scalar is wanted: a mapping stands for what is under its first key
`=`. The first argument bounds the way to it; no longer one than the number of vertices comes to an
end. -/
def scalarText (g : Graph) : Nat → Nat → Except Fault String
  | 0, _ => .error .endless
  | fuel + 1, i => match g.content? i with
    | some (.scalar text) => .ok text
    | some (.mapping es) => match es.find? fun (k, _) => g.tag? k = some .value with
      | some (_, v) => scalarText g fuel v
      | none => .error .malformed
    | _ => .error .malformed

end Graph

end AgentWire.Yaml
