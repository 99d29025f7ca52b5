import AgentWire.Proofs.Normal

/-! The doubles of documents and values. A value holds no double that its document does not hold,
and its normal form holds none that the value does not hold. -/
namespace AgentWire

open List (Forall₂)

/-- A double stands somewhere in a document. -/
inductive Json.Holds (x : Float) : Json → Prop where
  | num : Holds x (.num x)
  | item {items : List Json} {y : Json} (inside : y ∈ items) (deeper : Holds x y) :
      Holds x (.arr items)
  | member {members : List (String × Json)} {m : String × Json} (inside : m ∈ members)
      (deeper : Holds x m.2) :
      Holds x (.obj members)

/-- A double stands in one of the documents that a value has kept. -/
inductive Value.Holds (x : Float) : Value → Prop where
  | json {j : Json} (deeper : j.Holds x) : Holds x (.json j)
  | item {items : List Value} {v : Value} (inside : v ∈ items) (deeper : Holds x v) :
      Holds x (.list items)
  | entry {entries : List (String × Value)} {e : String × Value} (inside : e ∈ entries)
      (deeper : Holds x e.2) :
      Holds x (.map entries)
  | field {r : Record} {fields : List (String × Value)} {e : String × Value} (inside : e ∈ fields)
      (deeper : Holds x e.2) : Holds x (.record r fields)

theorem Json.finite_iff {j : Json} : j.Finite ↔ ∀ x, j.Holds x → x.isFinite = true := by
  constructor
  · intro finite x holds
    induction holds with
    | num => exact finite
    | item inside _ ih => exact ih (Json.everywhere_items finite inside)
    | member inside _ ih => exact ih (Json.everywhere_members finite inside)
  · intro each
    induction j using Json.by_parts with
    | whole j items_ih members_ih =>
      cases j with
      | num x => exact each x .num
      | arr items =>
        refine Json.everywhere_arr.mpr ⟨rfl, fun y inside => items_ih y inside ?_⟩
        intro x holds
        exact each x (.item inside holds)
      | obj members =>
        refine Json.everywhere_obj.mpr ⟨rfl, fun m inside => members_ih m inside ?_⟩
        intro x holds
        exact each x (.member inside holds)
      | _ => rfl

theorem not_holds_of_leaf {s : Shape} {d : Json} {v : Value} {x : Float} (leaf : s.isLeaf = true)
    (reads : readShape d s = .ok v) : ¬ d.Holds x ∧ ¬ v.Holds x := by
  cases s with
  | text =>
    obtain ⟨_, rfl, rfl⟩ := read_text_iff.mp reads
    constructor <;> intro holds <;> cases holds
  | flag =>
    obtain ⟨_, rfl, rfl⟩ := read_flag_iff.mp reads
    constructor <;> intro holds <;> cases holds
  | integer =>
    obtain ⟨_, rfl, rfl⟩ := read_integer_iff.mp reads
    constructor <;> intro holds <;> cases holds
  | natural =>
    obtain ⟨_, _, rfl, rfl⟩ := read_natural_iff.mp reads
    constructor <;> intro holds <;> cases holds
  | choice e =>
    obtain ⟨_, _, rfl, rfl⟩ := read_choice_iff.mp reads
    constructor <;> intro holds <;> cases holds
  | operator e =>
    obtain ⟨w, rfl, rfl⟩ := read_operator_iff.mp reads
    constructor <;> intro holds
    · cases holds
    · split at holds <;> cases holds
  | tag label =>
    obtain ⟨rfl, rfl⟩ := read_tag_iff.mp reads
    constructor <;> intro holds <;> cases holds
  | names =>
    obtain ⟨words, _, rfl, rfl⟩ := read_names_iff.mp reads
    constructor
    · intro holds
      cases holds with
      | item inside deeper =>
        obtain ⟨w, _, rfl⟩ := List.mem_map.mp inside
        cases deeper
    · intro holds
      cases holds with
      | item inside deeper =>
        obtain ⟨w, _, rfl⟩ := List.mem_map.mp inside
        cases deeper
  | _ => contradiction

/-- The doubles of a value come from its document. -/
theorem holds_of_read {s : Shape} {d : Json} {v : Value} {x : Float} (reads : readShape d s = .ok v)
    (holds : v.Holds x) : d.Holds x := by
  induction s, d using Shape.descend generalizing v with
  | json d =>
    cases read_json.symm.trans reads
    cases holds with
    | json deeper => exact deeper
  | list item d ih =>
    obtain ⟨items, vs, rfl, rfl, all⟩ := read_list_iff.mp reads
    cases holds with
    | item inside deeper =>
      obtain ⟨y, member, here⟩ := forall₂_partner all.flip inside
      exact .item member (ih y member here deeper)
  | map value d ih =>
    obtain ⟨members, entries, rfl, rfl, all⟩ := read_map_iff.mp reads
    cases holds with
    | entry inside deeper =>
      obtain ⟨m, member, here⟩ := forall₂_partner all.flip inside
      exact .member member (ih m member here.2 deeper)
  | record r d ih =>
    obtain ⟨members, entries, rfl, rfl, all, _⟩ := read_record_iff.mp reads
    cases holds with
    | @field _ _ e inside deeper =>
      obtain ⟨f, declared, _, field⟩ := forall₂_partner all.flip inside
      generalize e.2 = v at field deeper
      cases field with
      | omitted _ _ => cases deeper
      | implied _ constant =>
        obtain ⟨label, rfl⟩ := Record.constant_field declared constant
        cases deeper
      | skipped _ _ => cases deeper
      | given found _ inner =>
        exact .member (Json.mem_of_lookup found) (ih f declared _ found inner deeper)
  | tagged variants d ih =>
    obtain ⟨label, r, tag, found, inner⟩ := read_tagged_iff.mp reads
    exact ih r (List.mem_of_find?_eq_some found) inner holds
  | either first second d first_ih second_ih =>
    rcases read_either_iff.mp reads with here | ⟨_, here⟩
    · exact first_ih here holds
    · exact second_ih here holds
  | _ => exact absurd holds (not_holds_of_leaf rfl reads).2

/-- The doubles of a normal form are those of the value. -/
theorem holds_normal {s : Shape} {d : Json} {v : Value} {x : Float} (separated : s.separated = true)
    (reads : readShape d s = .ok v) (holds : (normal s d).Holds x) : v.Holds x := by
  induction s, d using Shape.descend generalizing v with
  | json d =>
    cases read_json.symm.trans reads
    rw [normal.eq_def] at holds
    exact .json holds
  | list item d ih =>
    obtain ⟨items, vs, rfl, rfl, all⟩ := read_list_iff.mp reads
    rw [normal] at holds
    cases holds with
    | item inside deeper =>
      obtain ⟨y, member, rfl⟩ := List.mem_map.mp inside
      obtain ⟨w, listed, here⟩ := forall₂_partner all member
      exact .item listed (ih y member separated here deeper)
  | map value d ih =>
    obtain ⟨members, entries, rfl, rfl, all⟩ := read_map_iff.mp reads
    rw [normal] at holds
    cases holds with
    | member inside deeper =>
      obtain ⟨m, member, rfl⟩ := List.mem_map.mp inside
      obtain ⟨e, listed, here⟩ := forall₂_partner all member
      exact .entry listed (ih m member separated here.2 deeper)
  | record r d ih =>
    obtain ⟨members, entries, rfl, rfl, all, _⟩ := read_record_iff.mp reads
    rw [normal, normalMembers] at holds
    cases holds with
    | @member _ m inside deeper =>
      obtain ⟨f, declared, there⟩ := List.mem_filterMap.mp inside
      obtain ⟨e, listed, _, field⟩ := forall₂_partner all declared
      -- A member that the form adds is a label, which holds no double.
      obtain ⟨_, ⟨label, same⟩ | ⟨y, found, same⟩⟩ := normalField_eq_some there
      · rw [same] at deeper
        cases deeper
      · rw [same] at deeper
        refine .field listed ?_
        generalize e.2 = v at field
        cases field with
        | omitted missing _ => cases missing.symm.trans found
        | implied missing _ => cases missing.symm.trans found
        | skipped here skipped =>
          rw [normalField_skipped here skipped] at there
          cases there
        | given here _ inner =>
          cases here.symm.trans found
          exact ih f declared y found (Record.fields_separated declared) inner deeper
  | tagged variants d ih =>
    obtain ⟨label, r, tag, found, inner⟩ := read_tagged_iff.mp reads
    rw [normal_tagged tag found] at holds
    exact ih r (List.mem_of_find?_eq_some found) rfl inner holds
  | either first second d first_ih second_ih =>
    simp only [Shape.separated, Bool.and_eq_true] at separated
    obtain ⟨⟨first_separated, second_separated⟩, _⟩ := separated
    rcases read_either_iff.mp reads with here | ⟨none, here⟩
    · rw [normal_first first_separated here] at holds
      exact first_ih first_separated here holds
    · rw [normal_second first_separated none] at holds
      exact second_ih second_separated here holds
  | _ =>
    rw [normal.eq_def] at holds
    exact absurd holds (not_holds_of_leaf rfl reads).1

/-- A value without infinite and undefined doubles has a normal form without them, whatever its
document holds where nothing is read. -/
theorem finite_normal_of_read {s : Shape} {d : Json} {v : Value} (separated : s.separated = true)
    (reads : readShape d s = .ok v) (finite : ∀ x, v.Holds x → x.isFinite = true) :
    (normal s d).Finite := by
  rw [Json.finite_iff]
  intro x holds
  exact finite x (holds_normal separated reads holds)

end AgentWire
