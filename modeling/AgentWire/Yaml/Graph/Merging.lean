import AgentWire.Yaml.Graph
/-!
Merging: what stands under the key `<<` of a mapping, itself a mapping or a list of them, gives its
entries to the mapping around it. They come before its own, and of a list the last mapping comes
first. A mapping under `<<` is changed for good, wherever else it is mentioned.
-/
namespace AgentWire.Yaml.Graph

/-- The number of keys `<<`. Merging takes each of them away once. -/
def mergeKeys (g : Graph) : Nat :=
  (g.toList.map fun v => match v.content with
    | .mapping es => es.countP fun (k, _) => g.tag? k = some .merge
    | _ => 0).foldr (· + ·) 0

/-- Makes a plain text of a key `=`. -/
def nameValueKey (g : Graph) (entry : Nat × Nat) : Graph :=
  if g.tag? entry.1 = some .value then g.modify entry.1 fun v => { v with tag := .str } else g

def flattenAll (flattenOne : Graph → Nat → Except Fault Graph) (g : Graph) :
    List Nat → Except Fault (List (List (Nat × Nat)) × Graph)
  | [] => .ok ([], g)
  | i :: rest => match g.content? i with
    | some (.mapping _) => do
      let g ← flattenOne g i
      let own := g.entries i
      let (parts, g) ← flattenAll flattenOne g rest
      return (own :: parts, g)
    | _ => .error .malformed

mutual
/-- Merges what a mapping has to be given. The first argument bounds the depth of the calls; twice
the number of keys `<<` and two is enough. -/
def flatten : Nat → Graph → Nat → Except Fault Graph
  | 0, _, _ => .error .malformed
  | fuel + 1, g, i => do
    let (given, g) ← mergeFrom fuel g i 0 []
    return if given.isEmpty then g else g.setEntries i (given ++ g.entries i)

/-- Goes through the entries from a place on and collects what is given under `<<`. -/
def mergeFrom : Nat → Graph → Nat → Nat → List (Nat × Nat) → Except Fault (List (Nat × Nat) × Graph)
  | 0, _, _, _, _ => .error .malformed
  | fuel + 1, g, i, place, given => do
    let es := g.entries i
    let ordinary := (es.drop place).takeWhile fun (k, _) => g.tag? k ≠ some .merge
    let next := place + ordinary.length
    let g := ordinary.foldl nameValueKey g
    match es[next]? with
    | none => return (given, g)
    | some (_, v) =>
      let g := g.setEntries i (es.eraseIdx next)
      match g.content? v with
      | some (.mapping _) =>
        let g ← flatten fuel g v
        mergeFrom fuel g i next (given ++ g.entries v)
      | some (.sequence items) =>
        let (parts, g) ← flattenAll (fun g i => flatten fuel g i) g items
        mergeFrom fuel g i next (given ++ parts.reverse.flatten)
      | _ => .error .malformed

end

def merged (g : Graph) (i : Nat) : Except Fault Graph :=
  flatten (2 * g.mergeKeys + 2) g i

end AgentWire.Yaml.Graph
