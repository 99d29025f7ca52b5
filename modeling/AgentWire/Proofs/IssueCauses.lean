import AgentWire.Proofs.Faults

/-! The causes of issues. Whatever becomes of their locations, a reading has the issues of the
document one by one, so the documents without issues are those of the wire language; at shapes
without variants the locations are paths. -/
namespace AgentWire

open Reading (issues issues_under issues_map issues_collect issues_readNames issues_readRecord
  issues_eq_nil_iff)

/-! Shapes with no variants to name: their issues are located by the steps to them alone. -/

/-- The locations of a shape are paths. -/
def Shape.Plain (s : Shape) : Prop :=
  ∀ d, issues (readShape d s) = faults s d

namespace Shape

theorem plain_text : Plain .text :=
  fun _ => (EndsHere.of_unopened rfl).issues_eq

theorem issues_items {item : Shape} (plain : item.Plain) (start : Nat) (items : List Json) :
    (readItemsFrom start item (itemParts items)).flatMap issues = itemFaults item start items := by
  induction items generalizing start with
  | nil => simp [itemParts, readItemsFrom, itemFaults]
  | cons x rest ih =>
    rw [itemParts_cons, readItemsFrom_cons, List.flatMap_cons, ih, itemFaults,
      issues_under, plain x]

theorem plain_list {item : Shape} (plain : item.Plain) : Plain (.list item) := by
  intro d
  cases d with
  | arr items =>
    rw [faults, readShape_eq]
    simp only [readWith, issues_map, issues_collect, Json.items]
    exact issues_items plain 0 items
  | _ => exact (EndsHere.of_unopened rfl).issues_eq

theorem plain_names : Plain .names := by
  intro d
  cases d with
  | arr items =>
    rw [faults, readShape_eq]
    simp only [readWith, Json.items, issues_readNames, any_text]
    rw [issues_items plain_text]
  | _ => exact (EndsHere.of_unopened rfl).issues_eq

theorem plain_either {first second : Shape} (one : first.Plain) (two : second.Plain) :
    Plain (.either first second) :=
  fun d => (EndsHere.either (by rw [one d]) (by rw [two d])).issues_eq

theorem plain_record {r : Record} (open_ : r.closed = false)
    (each : ∀ f ∈ r.fields, f.shape.Plain) :
    Plain (.record r) := by
  intro d
  cases d with
  | obj members =>
    rw [readShape_record, issues_readRecord, faults, recordFaults, open_]
    simp only [Bool.false_eq_true, if_false, List.append_nil]
    refine List.flatMap_congr fun f declared => ?_
    obtain ⟨same, -⟩ | ⟨x, -, reads, listed⟩ := field_cases f members
    · exact same
    · rw [reads, listed, each f declared x]
  | _ => exact (EndsHere.of_unopened rfl).issues_eq

end Shape

/-! The causes that are reported are the right ones, whatever becomes of the places. -/

theorem causes_under (s : Step) (is : List Issue) :
    (is.map (Issue.under s)).map (·.cause) = is.map (·.cause) := by
  rw [List.map_map]
  rfl

theorem causes_items {item : Shape} {items : List Json}
    (each : ∀ x ∈ items, (issues (readShape x item)).map (·.cause) = (faults item x).map (·.cause))
    (start : Nat) :
    ((readItemsFrom start item (itemParts items)).flatMap issues).map (·.cause) =
      (itemFaults item start items).map (·.cause) := by
  induction items generalizing start with
  | nil => simp [itemParts, readItemsFrom, itemFaults]
  | cons x rest ih =>
    have later := ih (fun y inside => each y (List.mem_cons_of_mem _ inside)) (start + 1)
    rw [itemParts_cons, readItemsFrom_cons, List.flatMap_cons, List.map_append, later, itemFaults,
      List.map_append, issues_under, causes_under, causes_under, each x List.mem_cons_self]

theorem causes_field {f : Field} {members : List (String × Json)}
    (given : ∀ x, Json.lookup f.name members = some x →
      (issues (readShape x f.shape)).map (·.cause) = (faults f.shape x).map (·.cause)) :
    (issues (readField (memberParts members) f)).map (·.cause) =
      (fieldFaults f members).map (·.cause) := by
  obtain ⟨same, -⟩ | ⟨x, found, reads, listed⟩ := field_cases f members
  · rw [same]
  · rw [reads, listed, causes_under, causes_under, given x found]

theorem causes_undeclared (r : Record) (members : List (String × Json)) :
    (undeclared r (memberParts members)).map (·.cause) =
      ((members.filter fun m => m.1 ∉ r.fields.map (·.name)).map fun m =>
        (⟨[.key m.1], .mismatch .noField m.2.kind⟩ : Issue)).map (·.cause) := by
  rw [← placed_undeclared, List.map_map]
  rfl

theorem causes_issues (s : Shape) (d : Json) :
    (issues (readShape d s)).map (·.cause) = (faults s d).map (·.cause) := by
  -- No case looks at a path, so neither distinct keys nor labels matter.
  induction s, d using Shape.descend with
  | names d => rw [Shape.plain_names d]
  | list item d ih =>
    cases d with
    | arr items =>
      rw [faults, readShape_eq]
      simp only [readWith, issues_map, issues_collect, Json.items]
      exact causes_items ih 0
    | _ => rw [(EndsHere.of_unopened rfl).issues_eq]
  | map value d ih =>
    cases d with
    | obj members =>
      rw [faults, readShape_eq]
      simp only [readWith, issues_map, issues_collect, Json.members, memberParts_eq,
        List.flatMap_map, List.map_flatMap]
      refine List.flatMap_congr fun m inside => ?_
      rw [issues_under, causes_under, causes_under, ih m inside]
    | _ => rw [(EndsHere.of_unopened rfl).issues_eq]
  | record r d ih =>
    cases d with
    | obj members =>
      rw [readShape_record, issues_readRecord, faults, recordFaults, List.map_append,
        List.map_append, List.map_flatMap, List.map_flatMap]
      congr 1
      · exact List.flatMap_congr fun f declared => causes_field (ih f declared)
      · cases r.closed
        · rfl
        · exact causes_undeclared r members
    | _ => rw [(EndsHere.of_unopened rfl).issues_eq]
  | tagged variants d ih =>
    cases d with
    | obj members =>
      rw [readShape_tagged, faults]
      cases Json.lookup "type" members with
      | none => rfl
      | some tag =>
        cases tag with
        | str label =>
          dsimp only
          cases found : variantOf label variants with
          | none => rfl
          | some r =>
            have record := ih r (List.mem_of_find?_eq_some found)
            rw [faults] at record
            dsimp only
            rw [issues_under, causes_under, record]
        | _ => rfl
    | _ => rw [(EndsHere.of_unopened rfl).issues_eq]
  | either first second d one two =>
    have ends : EndsHere (.either first second) d := by
      apply EndsHere.either
      · rw [← List.map_eq_nil_iff, one, List.map_eq_nil_iff]
      · rw [← List.map_eq_nil_iff, two, List.map_eq_nil_iff]
    rw [ends.issues_eq]
  | _ => rw [(EndsHere.of_unopened rfl).issues_eq]

/-- The documents with no issue are those of the language. -/
theorem faults_eq_nil_iff {s : Shape} {d : Json} (separated : s.separated = true) :
    faults s d = [] ↔ Belongs s d := by
  rw [← read_iff_belongs separated, ← issues_eq_nil_iff, ← List.map_eq_nil_iff, ← causes_issues,
    List.map_eq_nil_iff]

end AgentWire
