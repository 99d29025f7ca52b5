import AgentWire.Proofs.Documents
import AgentWire.Registry

/-! What the declarations have in common. Everything the later theorems ask of a record or an alias
is checked here once, over all of them, and nowhere by the name of a field. -/
namespace AgentWire

/-- What passes from the parts of a document to the whole, along the shapes that are declared for
the parts, holds of every shape and document. -/
@[elab_as_elim]
theorem Shape.descend {motive : Shape → Json → Prop}
    (text : ∀ d, motive .text d) (flag : ∀ d, motive .flag d) (integer : ∀ d, motive .integer d)
    (natural : ∀ d, motive .natural d) (json : ∀ d, motive .json d) (names : ∀ d, motive .names d)
    (choice : ∀ e d, motive (.choice e) d) (operator : ∀ e d, motive (.operator e) d)
    (tag : ∀ label d, motive (.tag label) d)
    (list : ∀ item d, (∀ x ∈ d.items, motive item x) → motive (.list item) d)
    (map : ∀ value d, (∀ m ∈ d.members, motive value m.2) → motive (.map value) d)
    (record : ∀ r d, (∀ f ∈ r.fields, ∀ x, Json.lookup f.name d.members = some x →
      motive f.shape x) →
      motive (.record r) d)
    (tagged : ∀ variants d, (∀ r ∈ variants, motive (.record r) d) → motive (.tagged variants) d)
    (either : ∀ first second d, motive first d → motive second d → motive (.either first second) d)
    (s : Shape) (d : Json) : motive s d := by
  -- The document gets smaller at every field, item and entry; where it does not, the shape does.
  induction d using Json.by_parts generalizing s with
  | whole d items members =>
    have records : ∀ r, motive (.record r) d := fun r =>
      record r d fun f _ x found => members (f.name, x) (Json.mem_of_lookup found) f.shape
    induction s with
    | text => exact text d
    | flag => exact flag d
    | integer => exact integer d
    | natural => exact natural d
    | json => exact json d
    | names => exact names d
    | choice e => exact choice e d
    | operator e => exact operator e d
    | tag label => exact tag label d
    | list item => exact list item d fun x inside => items x inside item
    | map value => exact map value d fun m inside => members m inside value
    | record r => exact records r
    | tagged variants => exact tagged variants d fun r _ => records r
    | either first second first_holds second_holds =>
      exact either first second d first_holds second_holds

/-- Whether every variant has a label and no two have the same. -/
def distinctLabels (variants : List Record) : Bool :=
  variants.all (·.label?.isSome) && decide (variants.map (·.label?)).Nodup

namespace Shape

/-- Whether the values of two shapes differ in their outermost form. -/
def apart : Shape → Shape → Bool
  | .tagged _, .text | .list _, .text | .record _, .json => true
  | .record r, .record q => r != q
  | _, _ => false

/-- Whether unions inside of a shape can be told apart: tagged ones by their labels, others by the
form of the values. -/
def separated : Shape → Bool
  | .list item => item.separated
  | .map value => value.separated
  | .tagged variants => distinctLabels variants
  | .either first second => first.separated && second.separated && first.apart second
  | _ => true

/-- Whether the last variant of every union inside of a shape keeps documents as they are. -/
def settled : Shape → Bool
  | .list item => item.settled
  | .map value => value.settled
  | .either first second => first.settled && (second == .text || second == .json)
  | _ => true

end Shape

/-- Whether a field, if it may be left out for a text of its own, is the one that names the
variant. -/
def Field.constantIsTag (f : Field) : Bool :=
  f.need != .constant || f.name == "type" && match f.shape with
    | .tag _ => true
    | _ => false

namespace Record

theorem fields_nodup (r : Record) : (r.fields.map (·.name)).Nodup := by
  cases r <;> decide

theorem fields_separated {r : Record} {f : Field} (member : f ∈ r.fields) :
    f.shape.separated = true := by
  have all : r.fields.all (·.shape.separated) = true := by cases r <;> decide
  exact List.all_eq_true.mp all f member

theorem fields_settled {r : Record} {f : Field} (member : f ∈ r.fields) :
    f.shape.settled = true := by
  have all : r.fields.all (·.shape.settled) = true := by cases r <;> decide
  exact List.all_eq_true.mp all f member

/-- A field that may be left out for a text of its own is the one that names the variant. -/
theorem constant_field {r : Record} {f : Field} (member : f ∈ r.fields)
    (constant : f.need = .constant) :
    ∃ label, f = variant label := by
  have all : r.fields.all Field.constantIsTag = true := by cases r <;> decide
  have tag := List.all_eq_true.mp all f member
  obtain ⟨name, shape, need⟩ := f
  subst constant
  cases shape with
  | tag label =>
    have name_type : name = "type" := by simpa [Field.constantIsTag] using tag
    exact ⟨label, by rw [name_type]; rfl⟩
  | _ => simp [Field.constantIsTag] at tag

/-- The label of a variant stands in its declaration. -/
theorem variant_mem_fields {r : Record} {label : String} (named : r.label? = some label) :
    variant label ∈ r.fields := by
  obtain ⟨f, member, found⟩ := List.exists_of_findSome?_eq_some named
  split at found
  · rename_i l shape constant
    obtain ⟨k, rfl⟩ := constant_field member constant
    cases found
    cases shape
    exact member
  · contradiction

end Record

theorem WireType.separated (t : WireType) : t.shape.separated = true := by
  rcases t with r | e | a
  · rfl
  · rfl
  · cases a <;> decide

/-- Of all wire types only the answer to a query has variants that both change documents. -/
theorem WireType.settled_iff (t : WireType) :
    t.shape.settled = true ↔ t ≠ .alias .queryResponse := by
  rcases t with r | e | a
  · simp [shape, Shape.settled]
  · simp [shape, Shape.settled]
  · cases a <;> decide

end AgentWire
