import AgentWire.Proofs.Documents
import AgentWire.Proofs.Yaml.Layout
import AgentWire.Yaml.Graph.ToDatum

/-! The graph of a JSON value. It has no anchors, so it is a tree: the vertices come in the order of
the text, and those of a part come right after what stands before it. -/
namespace AgentWire.Yaml

namespace Graph

mutual
/-- The number of vertices of a value: its own, one for each key, and those of its parts. -/
def weight : Json → Nat
  | .arr items => 1 + weightOfItems items
  | .obj members => 1 + weightOfMembers members
  | _ => 1

def weightOfItems : List Json → Nat
  | [] => 0
  | x :: rest => weight x + weightOfItems rest

def weightOfMembers : List (String × Json) → Nat
  | [] => 0
  | (_, x) :: rest => 1 + weight x + weightOfMembers rest
end

def itemVertices (i : Nat) : List Json → List Nat
  | [] => []
  | x :: rest => i :: itemVertices (i + weight x) rest

def memberVertices (i : Nat) : List (String × Json) → List (Nat × Nat)
  | [] => []
  | (_, x) :: rest => (i, i + 1) :: memberVertices (i + 1 + weight x) rest

def vertex (i : Nat) : Json → Vertex
  | .arr items => ⟨.seq, .sequence (itemVertices (i + 1) items)⟩
  | .obj members => ⟨.map, .mapping (memberVertices (i + 1) members)⟩
  | j =>
    ((Node.scalar? j).map fun (t, cs) => ⟨t, .scalar (String.ofList cs)⟩).getD ⟨.null, .scalar ""⟩

mutual
/-- The vertices of a value and of all it holds, each with the value that it stands for. -/
def layout (i : Nat) : Json → List (Json × Vertex)
  | .arr items => (.arr items, vertex i (.arr items)) :: layoutOfItems (i + 1) items
  | .obj members => (.obj members, vertex i (.obj members)) :: layoutOfMembers (i + 1) members
  | j => [(j, vertex i j)]

def layoutOfItems (i : Nat) : List Json → List (Json × Vertex)
  | [] => []
  | x :: rest => layout i x ++ layoutOfItems (i + weight x) rest

def layoutOfMembers (i : Nat) : List (String × Json) → List (Json × Vertex)
  | [] => []
  | (k, x) :: rest =>
    (.str k, vertex i (.str k)) :: (layout (i + 1) x ++ layoutOfMembers (i + 1 + weight x) rest)
end

theorem layoutOfItems_length (items : List Json)
    (each : ∀ x ∈ items, ∀ i, (layout i x).length = weight x) (i : Nat) :
    (layoutOfItems i items).length = weightOfItems items := by
  induction items generalizing i with
  | nil => rfl
  | cons x rest ih =>
    rw [List.forall_mem_cons] at each
    simp [layoutOfItems, weightOfItems, each.1, ih each.2]

theorem layoutOfMembers_length (members : List (String × Json))
    (each : ∀ m ∈ members, ∀ i, (layout i m.2).length = weight m.2) (i : Nat) :
    (layoutOfMembers i members).length = weightOfMembers members := by
  induction members generalizing i with
  | nil => rfl
  | cons m rest ih =>
    rw [List.forall_mem_cons] at each
    simp [layoutOfMembers, weightOfMembers, each.1, ih each.2]
    omega

@[simp] theorem layout_length (i : Nat) (j : Json) : (layout i j).length = weight j := by
  induction j using Json.by_parts generalizing i with
  | whole j items members =>
    cases j with
    | arr items' =>
      have inner := layoutOfItems_length items' items (i + 1)
      rw [layout, weight, List.length_cons, inner, Nat.add_comm]
    | obj members' =>
      have inner := layoutOfMembers_length members' members (i + 1)
      rw [layout, weight, List.length_cons, inner, Nat.add_comm]
    | _ => rfl

theorem layout_head (i : Nat) (j : Json) : ∃ rest, layout i j = (j, vertex i j) :: rest := by
  cases j <;> exact ⟨_, rfl⟩

section Scalar

variable {j : Json} {t : Tag} {cs : List Char} (scalar : Node.scalar? j = some (t, cs)) (i : Nat)
include scalar

theorem vertex_scalar : vertex i j = ⟨t, .scalar (String.ofList cs)⟩ := by
  cases j with
  | arr items => cases scalar
  | obj members => cases scalar
  | _ => cases scalar; rfl

theorem layout_scalar : layout i j = [(j, ⟨t, .scalar (String.ofList cs)⟩)] := by
  cases j with
  | arr items => cases scalar
  | obj members => cases scalar
  | _ => cases scalar; rfl

end Scalar

/-! The graph of a node grows by the layout of its value. -/

namespace Growth

variable (vs : List Vertex) (anchors : List (String × Nat))

theorem push_none (v : Vertex) :
    push ⟨vs.toArray, anchors⟩ none v = (vs.length, ⟨(vs ++ [v]).toArray, anchors⟩) := by
  simp [push]

theorem fill_behind (v : Vertex) (more : List Vertex) (content : Content) :
    fill ⟨(vs ++ v :: more).toArray, anchors⟩ vs.length content =
      ⟨(vs ++ { v with content } :: more).toArray, anchors⟩ := by
  have behind : (vs ++ v :: more).modify vs.length (fun v => { v with content }) =
      vs ++ { v with content } :: more := by
    induction vs with
    | nil => rfl
    | cons a rest ih => simpa using ih
  simp only [fill, List.modify_toArray, behind]

/-- A value is added behind the vertices there are. -/
def Adds (j : Json) : Prop :=
  ∀ (vs : List Vertex) (anchors : List (String × Nat)), add ⟨vs.toArray, anchors⟩ (Node.ofJson j) =
    (vs.length, ⟨(vs ++ (layout vs.length j).map (·.2)).toArray, anchors⟩)

theorem addItems_ofJson (items : List Json) (each : ∀ x ∈ items, Adds x) :
    addItems ⟨vs.toArray, anchors⟩ (Node.ofJsonItems items) = (itemVertices vs.length items,
      ⟨(vs ++ (layoutOfItems vs.length items).map (·.2)).toArray, anchors⟩) := by
  induction items generalizing vs with
  | nil => simp [Node.ofJsonItems, addItems, itemVertices, layoutOfItems]
  | cons x rest ih =>
    rw [List.forall_mem_cons] at each
    have later := ih (vs ++ (layout vs.length x).map (·.2)) each.2
    rw [List.length_append, List.length_map, layout_length] at later
    simp only [Node.ofJsonItems, addItems, each.1 vs anchors, later]
    simp [itemVertices, layoutOfItems]

theorem addEntries_ofJson (members : List (String × Json)) (each : ∀ m ∈ members, Adds m.2) :
    addEntries ⟨vs.toArray, anchors⟩ (Node.ofJsonMembers members) =
      (memberVertices vs.length members,
        ⟨(vs ++ (layoutOfMembers vs.length members).map (·.2)).toArray, anchors⟩) := by
  induction members generalizing vs with
  | nil => simp [Node.ofJsonMembers, addEntries, memberVertices, layoutOfMembers]
  | cons m rest ih =>
    obtain ⟨k, x⟩ := m
    rw [List.forall_mem_cons] at each
    have key : vertex vs.length (.str k) = ⟨.str, .scalar k⟩ := by
      rw [vertex_scalar (j := .str k) rfl, String.ofList_toList]
    have value := each.1 (vs ++ [vertex vs.length (.str k)]) anchors
    have later :=
      ih (vs ++ [vertex vs.length (.str k)] ++ (layout (vs.length + 1) x).map (·.2)) each.2
    simp only [List.length_append, List.length_singleton, List.length_map,
      layout_length] at value later
    simp only [Node.ofJsonMembers, addEntries, add, push_none, ← key, value, later]
    simp [memberVertices, layoutOfMembers]

theorem add_ofJson (j : Json) : Adds j := by
  induction j using Json.by_parts with
  | whole j items members =>
    intro vs anchors
    cases scalar : Node.scalar? j with
    | some p =>
      obtain ⟨t, cs⟩ := p
      rw [Node.ofJson_scalar scalar, Node.text, add, push_none, layout_scalar scalar]
      rfl
    | none =>
      cases j with
      | arr items' =>
        have inner := addItems_ofJson (vs ++ [⟨.seq, .sequence []⟩]) anchors items' items
        rw [List.length_append, List.length_singleton, List.append_assoc,
          List.singleton_append] at inner
        rw [Node.ofJson, add, push_none]
        simp only [inner, fill_behind]
        rfl
      | obj members' =>
        have inner := addEntries_ofJson (vs ++ [⟨.map, .mapping []⟩]) anchors members' members
        rw [List.length_append, List.length_singleton, List.append_assoc,
          List.singleton_append] at inner
        rw [Node.ofJson, add, push_none]
        simp only [inner, fill_behind]
        rfl
      | null => cases scalar
      | bool b => cases scalar
      | int i => cases scalar
      | num x => cases scalar
      | str s => cases scalar

end Growth

theorem ofNode_ofJson (j : Json) : ofNode (Node.ofJson j) = ((layout 0 j).map (·.2)).toArray := by
  have grown := Growth.add_ofJson j [] []
  rw [ofNode, grown]
  rfl

/-! Where a value stands in a layout. -/

/-- The value stands at a vertex, with all it holds behind it. -/
def Stands (l : List (Json × Vertex)) (i : Nat) (j : Json) : Prop :=
  layout i j <+: l.drop i

section Stands

variable {l : List (Json × Vertex)} {i : Nat}

theorem prefix_cons {p : Json × Vertex} {more : List (Json × Vertex)}
    (front : p :: more <+: l.drop i) :
    l[i]? = some p ∧ more <+: l.drop (i + 1) := by
  obtain ⟨rest, whole⟩ := front
  have here := congrArg (·[0]?) whole
  have behind := congrArg (·.drop 1) whole
  simp only [List.cons_append, List.getElem?_cons_zero, List.getElem?_drop, Nat.add_zero,
    List.drop_succ_cons, List.drop_zero, List.drop_drop] at here behind
  exact ⟨here.symm, rest, behind⟩

theorem prefix_append {part more : List (Json × Vertex)} (front : part ++ more <+: l.drop i) :
    part <+: l.drop i ∧ more <+: l.drop (i + part.length) := by
  obtain ⟨rest, whole⟩ := front
  have behind := congrArg (·.drop part.length) whole
  simp only [List.append_assoc, List.drop_left, List.drop_drop] at whole behind
  exact ⟨⟨_, whole⟩, rest, behind⟩

theorem stands_root (j : Json) : Stands (layout 0 j) 0 j :=
  List.prefix_rfl

theorem Stands.label {j : Json} (stands : Stands l i j) : l[i]? = some (j, vertex i j) := by
  obtain ⟨rest, written⟩ := layout_head i j
  rw [Stands, written] at stands
  exact (prefix_cons stands).1

theorem Stands.unique {j k : Json} (stands : Stands l i j) (also : Stands l i k) : j = k := by
  have same := stands.label.symm.trans also.label
  simp only [Option.some.injEq, Prod.mk.injEq] at same
  exact same.1

theorem Stands.items {items : List Json} (stands : Stands l i (.arr items)) :
    layoutOfItems (i + 1) items <+: l.drop (i + 1) :=
  (prefix_cons stands).2

theorem Stands.members {members : List (String × Json)} (stands : Stands l i (.obj members)) :
    layoutOfMembers (i + 1) members <+: l.drop (i + 1) :=
  (prefix_cons stands).2

theorem stands_item {x : Json} {rest : List Json}
    (front : layoutOfItems i (x :: rest) <+: l.drop i) :
    Stands l i x ∧ layoutOfItems (i + weight x) rest <+: l.drop (i + weight x) := by
  have parts := prefix_append front
  rwa [layout_length] at parts

theorem stands_member {k : String} {x : Json} {rest : List (String × Json)}
    (front : layoutOfMembers i ((k, x) :: rest) <+: l.drop i) :
    Stands l i (.str k) ∧ Stands l (i + 1) x ∧
      layoutOfMembers (i + 1 + weight x) rest <+: l.drop (i + 1 + weight x) := by
  have key : [(Json.str k, vertex i (.str k))] <+: l.drop i := (List.prefix_append _ _).trans front
  have parts := prefix_append (prefix_cons front).2
  rw [layout_length] at parts
  exact ⟨key, parts⟩

end Stands

theorem items_distinct {items : List Json} (each : ∀ x ∈ items, ∀ i, ∀ p ∈ layout i x, p.1.Distinct)
    (i : Nat) :
    ∀ p ∈ layoutOfItems i items, p.1.Distinct := by
  induction items generalizing i with
  | nil => simp [layoutOfItems]
  | cons x rest ih =>
    rw [List.forall_mem_cons] at each
    rw [layoutOfItems, List.forall_mem_append]
    exact ⟨each.1 i, ih each.2 _⟩

theorem members_distinct {members : List (String × Json)}
    (each : ∀ m ∈ members, ∀ i, ∀ p ∈ layout i m.2, p.1.Distinct) (i : Nat) :
    ∀ p ∈ layoutOfMembers i members, p.1.Distinct := by
  induction members generalizing i with
  | nil => simp [layoutOfMembers]
  | cons m rest ih =>
    rw [List.forall_mem_cons] at each
    rw [layoutOfMembers, List.forall_mem_cons, List.forall_mem_append]
    exact ⟨rfl, each.1 _, ih each.2 _⟩

/-- No object in the layout of a value has a key twice if none in the value has. -/
theorem layout_distinct {j : Json} (distinct : j.Distinct) (i : Nat) :
    ∀ p ∈ layout i j, p.1.Distinct := by
  induction j using Json.by_parts generalizing i with
  | whole j items members =>
    cases j with
    | arr items' =>
      rw [layout, List.forall_mem_cons]
      exact ⟨distinct,
        items_distinct (fun x inside => items x inside (Json.everywhere_items distinct inside)) _⟩
    | obj members' =>
      rw [layout, List.forall_mem_cons]
      exact ⟨distinct, members_distinct (fun m inside =>
        members m inside (Json.everywhere_members distinct inside)) _⟩
    | _ => simpa [layout] using distinct

end Graph

end AgentWire.Yaml
