import AgentWire.Proofs.Yaml.DocumentText
import AgentWire.Proofs.Yaml.Objects
import AgentWire.Yaml.Graph.ToDatum

/-! The datum of a document. No vertex of a tree is mentioned twice, so nothing in it has a mark,
and the datum is that of the value that has been written. -/
namespace AgentWire.Yaml

open AgentWire.Yaml.Graph (layout layoutOfItems layoutOfMembers itemVertices memberVertices vertex
  weight weightOfItems weightOfMembers Stands)

namespace Objects

/-! Mentions. -/

/-- The vertices that the objects of a layout mention. -/
def mentioned (l : List (Json × Vertex)) : List Nat :=
  l.flatMap fun p => parts (object p.1 p.2)

theorem mentioned_append (a b : List (Json × Vertex)) :
    mentioned (a ++ b) = mentioned a ++ mentioned b :=
  List.flatMap_append

/-- Each vertex but the first is mentioned once. -/
def MentionedOnce (j : Json) : Prop :=
  ∀ i, (i :: mentioned (layout i j)).Perm (List.range' i (weight j))

theorem items_mentioned (items : List Json) (each : ∀ x ∈ items, MentionedOnce x) (i : Nat) :
    (itemVertices i items ++ mentioned (layoutOfItems i items)).Perm
      (List.range' i (weightOfItems items)) := by
  induction items generalizing i with
  | nil => exact .refl _
  | cons x rest ih =>
    rw [List.forall_mem_cons] at each
    rw [itemVertices, layoutOfItems, weightOfItems, mentioned_append, ← List.range'_append_1]
    calc i :: itemVertices (i + weight x) rest ++ (mentioned (layout i x) ++
      mentioned (layoutOfItems (i + weight x) rest))
      _ |>.Perm (i :: mentioned (layout i x) ++
          (itemVertices (i + weight x) rest ++ mentioned (layoutOfItems (i + weight x) rest))) := by
        simp only [List.cons_append, ← List.append_assoc]
        exact .cons _ (.append_right _ List.perm_append_comm)
      _ |>.Perm _ := (each.1 i).append (ih each.2 _)

theorem members_mentioned (members : List (String × Json))
    (each : ∀ m ∈ members, MentionedOnce m.2) (i : Nat) :
    ((memberVertices i members).flatMap (fun (k, v) => [k, v]) ++
      mentioned (layoutOfMembers i members)).Perm
      (List.range' i (weightOfMembers members)) := by
  induction members generalizing i with
  | nil => exact .refl _
  | cons m rest ih =>
    obtain ⟨k, x⟩ := m
    rw [List.forall_mem_cons] at each
    have key : parts (object (.str k) (vertex i (.str k))) = [] := by
      rw [object, Graph.vertex_scalar (j := .str k) rfl]
      rfl
    have here : mentioned (layoutOfMembers i ((k, x) :: rest)) =
        mentioned (layout (i + 1) x) ++ mentioned (layoutOfMembers (i + 1 + weight x) rest) := by
      rw [layoutOfMembers, ← mentioned_append, mentioned, List.flatMap_cons, key]
      rfl
    rw [memberVertices, here, weightOfMembers, Nat.add_assoc 1, Nat.add_comm 1, List.range'_succ,
      ← List.range'_append_1]
    calc i :: (i + 1) :: (memberVertices (i + 1 + weight x) rest).flatMap (fun (k, v) => [k, v]) ++
          (mentioned (layout (i + 1) x) ++ mentioned (layoutOfMembers (i + 1 + weight x) rest))
      _ |>.Perm (i :: ((i + 1) :: mentioned (layout (i + 1) x) ++
          ((memberVertices (i + 1 + weight x) rest).flatMap (fun (k, v) => [k, v]) ++
            mentioned (layoutOfMembers (i + 1 + weight x) rest)))) := by
        simp only [List.cons_append, ← List.append_assoc]
        exact .cons _ (.cons _ (.append_right _ List.perm_append_comm))
      _ |>.Perm _ := .cons _ ((each.1 (i + 1)).append (ih each.2 _))

theorem mentionedOnce (j : Json) : MentionedOnce j := by
  induction j using Json.by_parts with
  | whole j items members =>
    intro i
    cases scalar : Node.scalar? j with
    | some p =>
      have alone : weight j = 1 := by
        cases j with
        | arr items => cases scalar
        | obj members => cases scalar
        | _ => rfl
      rw [@Graph.layout_scalar _ p.1 p.2 scalar, alone]
      exact .refl _
    | none =>
      cases j with
      | arr items' =>
        have inner := items_mentioned items' items (i + 1)
        rw [weight, Nat.add_comm, List.range'_succ]
        exact .cons _ inner
      | obj members' =>
        have inner := members_mentioned members' members (i + 1)
        rw [weight, Nat.add_comm, List.range'_succ]
        exact .cons _ inner
      | null => cases scalar
      | bool b => cases scalar
      | int i => cases scalar
      | num x => cases scalar
      | str s => cases scalar

theorem foldl_modify (is : List Nat) (counts : Array Nat) (k : Nat) :
    ((is.foldl (fun counts i => counts.modify i (· + 1)) counts)[k]?).getD 0 ≤
      (counts[k]?).getD 0 + is.count k := by
  induction is generalizing counts with
  | nil => exact Nat.le_refl _
  | cons i rest ih =>
    refine (ih _).trans ?_
    rw [Array.getElem?_modify, List.count_cons]
    by_cases same : i = k
    · cases counts[k]? <;> simp [same]
      omega
    · simp [same]

theorem flatMap_sublist {α β γ : Type} {f : α → List γ} {g : β → List γ} {as : List α} {bs : List β}
    (inside : List.Forall₂ (fun a b => (f a).Sublist (g b)) as bs) :
    (as.flatMap f).Sublist (bs.flatMap g) := by
  induction inside with
  | nil => exact .refl _
  | cons here _ ih => simpa only [List.flatMap_cons] using here.append ih

/-- No vertex is mentioned twice. -/
theorem markOf_mentions {j : Json} {c : Objects} (complete : Complete (layout 0 j) c) (i : Nat) :
    markOf c.mentions i = none := by
  have inside : List.Forall₂ (fun (o : Option Object) (p : Json × Vertex) =>
      ((o.map parts).getD []).Sublist (parts (object p.1 p.2))) c.made.toList (layout 0 j) := by
    rw [List.forall₂_iff_get]
    refine ⟨by simpa using complete.size, fun k here there => ?_⟩
    simp only [List.get_eq_getElem, Array.getElem_toList]
    have here' : k < c.made.size := by simpa using here
    cases found : c.made[k] with
    | none => simp
    | some o =>
      obtain ⟨x, stands, rfl⟩ := complete.made k o (by simp [object?, here', found])
      have label := (List.getElem?_eq_some_iff.mp stands.label).2
      rw [label]
      exact .refl _
  have once : (0 :: mentioned (layout 0 j)).Nodup :=
    (mentionedOnce j 0).nodup_iff.mpr List.nodup_range'
  have nodup := once.sublist ((flatMap_sublist inside).cons_cons 0)
  have bound := foldl_modify (0 :: c.made.toList.flatMap fun o => (o.map parts).getD [])
    (Array.replicate c.made.size 0) i
  have start : ((Array.replicate c.made.size 0)[i]?).getD 0 = 0 := by
    rw [Array.getElem?_replicate]
    split <;> rfl
  have least := List.nodup_iff_count_le_one.mp nodup i
  rw [markOf, if_neg]
  rw [mentions]
  omega

/-! Views. -/

/-- What is known of a vertex is the datum of its value. -/
def Knows (l : List (Json × Vertex)) (known : Known) : Prop :=
  ∀ i d, (known[i]?).join = some d → ∃ j, Stands l i j ∧ d = Datum.ofJson j

/-- A value is viewed as its datum wherever it stands, as long as the vertices around it come before
it. -/
def Views (l : List (Json × Vertex)) (c : Objects) (mark : Nat → Option Nat) (j : Json) : Prop :=
  ∀ fuel around known i, Stands l i j → (c.object? i).isSome → weight j ≤ fuel →
    (∀ k ∈ around, k < i) → Knows l known →
    ∃ known', view c mark fuel around known i = (⟨Datum.ofJson j, []⟩, known') ∧ Knows l known'

section Views

variable {l : List (Json × Vertex)} {c : Objects} {mark : Nat → Option Nat} {i : Nat}

theorem Knows.close {known : Known} (knows : Knows l known) {j : Json} (stands : Stands l i j) :
    ∃ known', close i (Datum.ofJson j) [] known = (⟨Datum.ofJson j, []⟩, known') ∧
      Knows l known' := by
  refine ⟨known.setIfInBounds i (some (Datum.ofJson j)), rfl, fun k d found => ?_⟩
  rw [Array.getElem?_setIfInBounds] at found
  split at found
  · rename_i same
    subst same
    split at found
    · cases found
      exact ⟨j, stands, rfl⟩
    · cases found
  · exact knows k d found

theorem weight_pos (j : Json) : 0 < weight j := by
  cases j <;> simp only [weight] <;> omega

theorem Complete.object (complete : Complete l c) {j : Json} (stands : Stands l i j)
    (made : (c.object? i).isSome) :
    c.object? i = some (object j (vertex i j)) := by
  obtain ⟨o, here⟩ := Option.isSome_iff_exists.mp made
  obtain ⟨x, there, rfl⟩ := complete.made i o here
  rw [here, stands.unique there]

theorem views_scalar (mark : Nat → Option Nat) (complete : Complete l c) {j : Json} {t : Tag}
    {cs : List Char} (scalar : Node.scalar? j = some (t, cs)) : Views l c mark j := by
  intro fuel around known i stands made enough before knows
  obtain ⟨n, rfl⟩ : ∃ n, fuel = n + 1 := ⟨fuel - 1, by have := weight_pos j; omega⟩
  refine ⟨known, ?_, knows⟩
  have form := complete.object stands made
  rw [Objects.object, Graph.vertex_scalar scalar] at form
  rw [view]
  cases found : (known[i]?).join with
  | some d =>
    obtain ⟨k, there, rfl⟩ := knows i d found
    rw [stands.unique there]
  | none =>
    rw [form]

theorem viewAll_items (items : List Json) (each : ∀ x ∈ items, Views l c mark x) {fuel : Nat}
    {around : List Nat} {known : Known} (front : layoutOfItems i items <+: l.drop i)
    (made : ∀ k ∈ itemVertices i items, (c.object? k).isSome) (enough : weightOfItems items ≤ fuel)
    (before : ∀ k ∈ around, k < i) (knows : Knows l known) :
    ∃ known', viewAll (view c mark fuel around) known (itemVertices i items) =
      (⟨Datum.ofItems items, []⟩, known') ∧
      Knows l known' := by
  induction items generalizing i known with
  | nil => exact ⟨known, rfl, knows⟩
  | cons x rest ih =>
    rw [List.forall_mem_cons] at each
    rw [itemVertices, List.forall_mem_cons] at made
    rw [weightOfItems] at enough
    obtain ⟨stands, behind⟩ := Graph.stands_item front
    obtain ⟨known', here, knows'⟩ :=
      each.1 fuel around known i stands made.1 (by omega) before knows
    obtain ⟨known'', later, knows''⟩ := ih each.2 behind made.2 (by omega)
      (fun k inside => Nat.lt_of_lt_of_le (before k inside) (Nat.le_add_right _ _)) knows'
    refine ⟨known'', ?_, knows''⟩
    rw [itemVertices, viewAll, here]
    dsimp only
    rw [later]
    rfl

theorem viewPairs_members (complete : Complete l c) (members : List (String × Json))
    (each : ∀ m ∈ members, Views l c mark m.2) {fuel : Nat} {around : List Nat} {known : Known}
    (front : layoutOfMembers i members <+: l.drop i)
    (made : ∀ e ∈ memberVertices i members, (c.object? e.1).isSome ∧ (c.object? e.2).isSome)
    (enough : weightOfMembers members ≤ fuel) (before : ∀ k ∈ around, k < i)
    (knows : Knows l known) :
    ∃ known', viewPairs (view c mark fuel around) known (memberVertices i members) =
      (⟨Datum.ofMembers members, []⟩, known') ∧ Knows l known' := by
  induction members generalizing i known with
  | nil => exact ⟨known, rfl, knows⟩
  | cons m rest ih =>
    obtain ⟨k, x⟩ := m
    rw [List.forall_mem_cons] at each
    rw [memberVertices, List.forall_mem_cons] at made
    rw [weightOfMembers] at enough
    obtain ⟨key, value, behind⟩ := Graph.stands_member front
    have one : weight (.str k) = 1 := rfl
    obtain ⟨known₁, first, knows₁⟩ :=
      views_scalar mark complete (j := .str k) rfl fuel around known i key made.1.1
        (by omega) before knows
    obtain ⟨known₂, second, knows₂⟩ :=
      each.1 fuel around known₁ (i + 1) value made.1.2 (by dsimp only; omega)
        (fun k inside => Nat.lt_succ_of_lt (before k inside)) knows₁
    obtain ⟨known₃, later, knows₃⟩ := ih each.2 behind made.2 (by omega)
      (fun k inside => Nat.lt_of_lt_of_le (before k inside) (by omega)) knows₂
    refine ⟨known₃, ?_, knows₃⟩
    rw [memberVertices, viewPairs, first]
    dsimp only
    rw [second]
    dsimp only
    rw [later]
    rfl

theorem views (complete : Complete l c) (unmarked : ∀ i, mark i = none) (j : Json) :
    Views l c mark j := by
  induction j using Json.by_parts with
  | whole j items members =>
    cases scalar : Node.scalar? j with
    | some p => exact @views_scalar _ _ mark complete _ p.1 p.2 scalar
    | none =>
      intro fuel around known i stands made enough before knows
      obtain ⟨n, rfl⟩ : ∃ n, fuel = n + 1 := ⟨fuel - 1, by have := weight_pos j; omega⟩
      have form := complete.object stands made
      have parts := complete.parts i _ form
      have outside : around.contains i = false := by
        rw [← Bool.not_eq_true, List.contains_iff_mem]
        exact fun inside => Nat.lt_irrefl _ (before i inside)
      have before' : ∀ k ∈ i :: around, k < i + 1 :=
        List.forall_mem_cons.mpr ⟨Nat.lt_succ_self i,
          fun k inside => Nat.lt_succ_of_lt (before k inside)⟩
      rw [view]
      cases found : (known[i]?).join with
      | some d =>
        obtain ⟨k, there, rfl⟩ := knows i d found
        exact ⟨known, by rw [stands.unique there], knows⟩
      | none =>
        rw [form]
        cases j with
        | arr items' =>
          rw [weight] at enough
          have within : weightOfItems items' ≤ n := by omega
          obtain ⟨known', inner, knows'⟩ := viewAll_items items' items stands.items parts within
            before' knows
          obtain ⟨known'', closed, knows''⟩ := knows'.close stands
          refine ⟨known'', ?_, knows''⟩
          dsimp only [Objects.object, vertex]
          rw [outside, if_neg Bool.false_ne_true, inner]
          dsimp only
          rw [unmarked]
          exact closed
        | obj members' =>
          rw [weight] at enough
          have within : weightOfMembers members' ≤ n := by omega
          have made' : ∀ e ∈ memberVertices (i + 1) members', (c.object? e.1).isSome ∧
              (c.object? e.2).isSome :=
            fun e inside => ⟨parts _ (List.mem_flatMap.mpr ⟨e, inside, by simp⟩),
              parts _ (List.mem_flatMap.mpr ⟨e, inside, by simp⟩)⟩
          obtain ⟨known', inner, knows'⟩ := viewPairs_members complete members' members
            stands.members made' within before' knows
          obtain ⟨known'', closed, knows''⟩ := knows'.close stands
          refine ⟨known'', ?_, knows''⟩
          dsimp only [Objects.object, vertex]
          rw [outside, if_neg Bool.false_ne_true, inner]
          dsimp only
          rw [unmarked]
          exact closed
        | null => cases scalar
        | bool b => cases scalar
        | int n => cases scalar
        | num x => cases scalar
        | str s => cases scalar

end Views

theorem datum_complete {j : Json} {c : Objects} (complete : Complete (layout 0 j) c)
    (made : (c.object? 0).isSome) :
    c.datum = Datum.ofJson j := by
  have nothing : Knows (layout 0 j) (Array.replicate c.made.size none) := by
    intro i d found
    rw [Array.getElem?_replicate] at found
    split at found <;> cases found
  have enough : weight j ≤ c.made.size + 1 := by
    rw [complete.size, Graph.layout_length]
    exact Nat.le_succ _
  obtain ⟨known, viewed, -⟩ := views complete (markOf_mentions complete) j (c.made.size + 1) []
    (Array.replicate c.made.size none) 0 (Graph.stands_root j) made enough (by simp) nothing
  rw [datum, viewed]

end Objects

/-- A value is read back from its document if it is legible there. -/
theorem read_documentText {j : Json} (distinct : j.Distinct)
    (legible : Node.isLegible 0 false j = true) :
    read (Node.documentText (Node.ofJson j)) = .ok (Datum.ofJson j) := by
  obtain ⟨c, made, complete, root⟩ := Objects.ofGraph_ofJson distinct
  rw [read, Node.document_text legible]
  show (do return (← Objects.ofGraph (.ofNode (Node.ofJson j))).datum) = _
  rw [made]
  exact congrArg _ (Objects.datum_complete complete root)

end AgentWire.Yaml
