import AgentWire.Proofs.Declarations
import AgentWire.Wire.Codec
import Mathlib.Data.List.Forall2

/-! What reading a document yields, shape by shape. The readers of parts are gone from these
statements: a reading succeeds exactly when the readings of the parts do, and then its value is put
together from theirs. -/
namespace AgentWire

open List (Forall₂)

/-! The equations of the readers of parts. -/

theorem itemParts_cons (x : Json) (rest : List Json) :
    itemParts (x :: rest) = ⟨x, readShape x⟩ :: itemParts rest := rfl

theorem memberParts_cons (m : String × Json) (rest : List (String × Json)) :
    memberParts (m :: rest) = (m.1, ⟨m.2, readShape m.2⟩) :: memberParts rest := rfl

theorem readItemsFrom_cons (start : Nat) (s : Shape) (p : Part) (rest : List Part) :
    readItemsFrom start s (p :: rest) =
      (p.read s).under (.index start) :: readItemsFrom (start + 1) s rest := rfl

theorem memberParts_eq (members : List (String × Json)) :
    memberParts members = members.map fun m => (m.1, ⟨m.2, readShape m.2⟩) := by
  induction members with
  | nil => rfl
  | cons m rest ih => rw [memberParts_cons, ih, List.map_cons]

theorem partOf_memberParts (key : String) (members : List (String × Json)) :
    partOf key (memberParts members) = (Json.lookup key members).map fun x => ⟨x, readShape x⟩ := by
  induction members with
  | nil => rfl
  | cons m rest ih =>
    obtain ⟨k, x⟩ := m
    rw [memberParts_cons, Json.lookup_cons]
    show (if k = key then some _ else partOf key (memberParts rest)) = _
    by_cases here : k = key
    · rw [if_pos here, if_pos here]
      rfl
    · rw [if_neg here, if_neg here, ih]

theorem readShape_eq (d : Json) :
    readShape d = readWith d (itemParts d.items) (memberParts d.members) := by
  cases d <;> rfl

namespace Reading

theorem fail_ne_ok {c : Cause} {v : Value} : fail c ≠ .ok v := nofun

theorem mismatch_ne_ok {e : Expected} {d : Json} {v : Value} : mismatch e d ≠ .ok v := nofun

theorem under_eq_ok_iff {s : Step} {r : Reading} {v : Value} : r.under s = .ok v ↔ r = .ok v := by
  cases r with
  | ok w => exact Iff.rfl
  | error issues => exact iff_of_false nofun nofun

theorem collect_eq_ok_iff {rs : List Reading} {vs : List Value} :
    collect rs = .ok vs ↔ Forall₂ (fun r v => r = .ok v) rs vs := by
  induction rs generalizing vs with
  | nil => cases vs <;> simp [collect]
  | cons r rest ih =>
    rw [List.forall₂_cons_left_iff]
    cases r with
    | error issues => cases later : collect rest <;> simp [collect, later]
    | ok v =>
      cases later : collect rest with
      | error issues =>
        have none : ∀ more, ¬ Forall₂ (fun r v => r = .ok v) rest more := by
          intro more all
          rw [← ih, later] at all
          contradiction
        simp [collect, later, none]
      | ok more =>
        simp only [collect, later, Except.ok.injEq]
        constructor
        · rintro rfl
          exact ⟨v, more, rfl, ih.mp later, rfl⟩
        · rintro ⟨w, others, rfl, all, rfl⟩
          have same := (ih.mpr all).symm.trans later
          cases same
          rfl

end Reading

/-! Two lists side by side. -/

theorem forall₂_partner {α β : Type} {R : α → β → Prop} {l : List α} {u : List β} {a : α}
    (all : Forall₂ R l u) (member : a ∈ l) : ∃ b ∈ u, R a b := by
  induction all with
  | nil => simp at member
  | cons here _ ih =>
    rcases List.mem_cons.mp member with rfl | later
    · exact ⟨_, by simp, here⟩
    · obtain ⟨b, inside, related⟩ := ih later
      exact ⟨b, by simp [inside], related⟩

theorem exists_forall₂ {α β : Type} {R : α → β → Prop} {l : List α} (each : ∀ a ∈ l, ∃ b, R a b) :
    ∃ u, Forall₂ R l u := by
  induction l with
  | nil => exact ⟨[], .nil⟩
  | cons a rest ih =>
    obtain ⟨b, here⟩ := each a (by simp)
    obtain ⟨u, later⟩ := ih fun c inside => each c (by simp [inside])
    exact ⟨b :: u, .cons here later⟩

theorem map_eq_of_forall₂ {α β γ : Type} {R : α → β → Prop} {l : List α} {u : List β} {g : β → γ}
    {h : α → γ} (all : Forall₂ R l u) (each : ∀ a ∈ l, ∀ b, R a b → g b = h a) :
    u.map g = l.map h := by
  induction all with
  | nil => rfl
  | cons here _ ih =>
    rw [List.map_cons, List.map_cons, each _ (by simp) _ here,
      ih fun a inside => each a (by simp [inside])]

theorem forall₂_map_left_of {α β γ : Type} {R : α → β → Prop} {S : γ → β → Prop} {l : List α}
    {u : List β} {h : α → γ} (all : Forall₂ R l u) (each : ∀ a ∈ l, ∀ b, R a b → S (h a) b) :
    Forall₂ S (l.map h) u := by
  induction all with
  | nil => exact .nil
  | cons here _ ih =>
    exact .cons (each _ (by simp) _ here) (ih fun a inside => each a (by simp [inside]))

/-- Values under the names of a list, entry by entry. -/
theorem forall₂_zip_names {α : Type} {R : α → Value → Prop} {f : α → String} {l : List α}
    {entries : List (String × Value)} :
    (∃ vs, entries = (l.map f).zip vs ∧ Forall₂ R l vs) ↔
      Forall₂ (fun a e => e.1 = f a ∧ R a e.2) l entries := by
  induction l generalizing entries with
  | nil => cases entries <;> simp
  | cons a rest ih =>
    cases entries with
    | nil => simp [List.forall₂_cons_left_iff]
    | cons e more =>
      obtain ⟨k, v⟩ := e
      rw [List.forall₂_cons, ← ih]
      constructor
      · rintro ⟨vs, same, all⟩
        cases all with
        | cons here later =>
          simp only [List.map_cons, List.zip_cons_cons, List.cons.injEq, Prod.mk.injEq] at same
          obtain ⟨⟨rfl, rfl⟩, rfl⟩ := same
          exact ⟨⟨rfl, here⟩, _, rfl, later⟩
      · rintro ⟨⟨rfl, here⟩, vs, rfl, later⟩
        exact ⟨v :: vs, rfl, .cons here later⟩

theorem collect_items_iff {start : Nat} {s : Shape} {items : List Json} {vs : List Value} :
    Reading.collect (readItemsFrom start s (itemParts items)) = .ok vs ↔
      Forall₂ (fun x v => readShape x s = .ok v) items vs := by
  rw [Reading.collect_eq_ok_iff]
  induction items generalizing start vs with
  | nil => exact List.forall₂_nil_left_iff.trans List.forall₂_nil_left_iff.symm
  | cons x rest ih =>
    simp only [itemParts_cons, readItemsFrom_cons, List.forall₂_cons_left_iff,
      Reading.under_eq_ok_iff, ih]

theorem collect_members_iff {s : Shape} {members : List (String × Json)} {vs : List Value} :
    Reading.collect ((memberParts members).map fun (k, p) => (p.read s).under (.key k)) = .ok vs ↔
      Forall₂ (fun m v => readShape m.2 s = .ok v) members vs := by
  rw [Reading.collect_eq_ok_iff, memberParts_eq, List.map_map, List.forall₂_map_left_iff]
  simp only [Function.comp_apply, Reading.under_eq_ok_iff]

/-! The value at a field. -/

/-- Whether a field that may be left out is given as null, which is the same. -/
def Field.skips (f : Field) (x : Json) : Prop :=
  f.need = .optional ∧ x.kind = .null

instance (f : Field) (x : Json) : Decidable (f.skips x) := inferInstanceAs (Decidable (_ ∧ _))

theorem skips_opt_iff {name : String} {s : Shape} {x : Json} :
    (opt name s).skips x ↔ x = .null := by
  rw [Field.skips]
  cases x <;> simp [opt, Json.kind]

theorem req_not_skips (name : String) (shape : Shape) (x : Json) : ¬ (req name shape).skips x := by
  rintro ⟨optional, _⟩
  cases optional

theorem variant_not_skips (label : String) (x : Json) : ¬ (variant label).skips x := by
  rintro ⟨optional, _⟩
  cases optional

/-- The value of a field that is left out, if its shape gives one. -/
def Shape.impliedValue : Shape → Value
  | .tag label => .text label
  | _ => .absent

/-- How a declared field gets its value from the members of an object. -/
inductive FieldReads (members : List (String × Json)) (f : Field) : Value → Prop where
  | omitted : Json.lookup f.name members = none → f.need = .optional → FieldReads members f .absent
  | implied : Json.lookup f.name members = none → f.need = .constant →
      FieldReads members f f.shape.impliedValue
  | skipped {x : Json} :
      Json.lookup f.name members = some x → f.skips x → FieldReads members f .absent
  | given {x : Json} {v : Value} : Json.lookup f.name members = some x → ¬ f.skips x →
      readShape x f.shape = .ok v → FieldReads members f v

theorem FieldReads.name_mem {members : List (String × Json)} {f : Field} {v : Value}
    (reads : FieldReads members f v) (required : f.need = .required) :
    f.name ∈ members.map (·.1) := by
  cases reads with
  | omitted _ optional => simp [required] at optional
  | implied _ constant => simp [required] at constant
  | skipped found _ => exact List.mem_map_of_mem (Json.mem_of_lookup found)
  | given found _ _ => exact List.mem_map_of_mem (Json.mem_of_lookup found)

theorem FieldReads.read {members : List (String × Json)} {f : Field} {v : Value} {x : Json}
    (reads : FieldReads members f v) (found : Json.lookup f.name members = some x)
    (kept : ¬ f.skips x) :
    readShape x f.shape = .ok v := by
  cases reads with
  | omitted none _ => simp [none] at found
  | implied none _ => simp [none] at found
  | skipped here skipped =>
    cases here.symm.trans found
    exact absurd skipped kept
  | given here _ inner =>
    cases here.symm.trans found
    exact inner

theorem FieldReads.eq_absent {members : List (String × Json)} {f : Field} {v : Value}
    (reads : FieldReads members f v) (optional : f.need = .optional)
    (missing : Json.lookup f.name members = none) : v = .absent := by
  cases reads with
  | omitted _ _ => rfl
  | implied _ constant => simp [optional] at constant
  | skipped found _ => simp [found] at missing
  | given found _ _ => simp [found] at missing

/-- An optional field that is present was given. -/
theorem FieldReads.exists_given {members : List (String × Json)} {f : Field} {v : Value}
    (reads : FieldReads members f v) (optional : f.need = .optional)
    (present : v.isPresent = true) :
    ∃ x, Json.lookup f.name members = some x ∧ readShape x f.shape = .ok v := by
  cases reads with
  | omitted _ _ => contradiction
  | implied _ constant => simp [optional] at constant
  | skipped _ _ => contradiction
  | given found _ inner => exact ⟨_, found, inner⟩

/-- A field that is there and not skipped is read at its shape. -/
theorem readField_given {members : List (String × Json)} {f : Field} {x : Json}
    (found : Json.lookup f.name members = some x) (kept : ¬ f.skips x) :
    readField (memberParts members) f = (readShape x f.shape).under (.key f.name) := by
  have part := partOf_memberParts f.name members
  rw [found] at part
  obtain ⟨name, shape, need⟩ := f
  cases need with
  | required => simp [readField, part]
  | constant => simp [readField, part]
  | optional =>
    cases x with
    | null => exact absurd ⟨rfl, rfl⟩ kept
    | _ => simp [readField, part]

theorem readField_skipped {members : List (String × Json)} {f : Field} {x : Json}
    (found : Json.lookup f.name members = some x) (skipped : f.skips x) :
    readField (memberParts members) f = .ok .absent := by
  have part := partOf_memberParts f.name members
  rw [found] at part
  obtain ⟨optional, null⟩ := skipped
  cases x <;> simp [readField, part, optional, Json.kind] at null ⊢

theorem readField_none {members : List (String × Json)} {f : Field}
    (missing : Json.lookup f.name members = none) :
    readField (memberParts members) f = match f.need with
      | .required => .error ⟨⟨[.key f.name], .missing⟩, []⟩
      | .optional => .ok .absent
      | .constant => .ok f.shape.impliedValue := by
  have part := partOf_memberParts f.name members
  rw [missing] at part
  obtain ⟨name, shape, need⟩ := f
  cases need with
  | required => simp [readField, part]
  | optional => simp [readField, part]
  | constant => cases shape <;> simp [readField, part, Shape.impliedValue]

theorem readField_eq_ok_iff {members : List (String × Json)} {f : Field} {v : Value} :
    readField (memberParts members) f = .ok v ↔ FieldReads members f v := by
  cases found : Json.lookup f.name members with
  | none =>
    rw [readField_none found]
    constructor
    · intro h
      cases need : f.need with
      | required => simp [need] at h
      | optional =>
        simp only [need, Except.ok.injEq] at h
        exact h ▸ .omitted found need
      | constant =>
        simp only [need, Except.ok.injEq] at h
        exact h ▸ .implied found need
    · intro h
      cases h with
      | omitted _ optional => rw [optional]
      | implied _ constant => rw [constant]
      | skipped here _ => simp [here] at found
      | given here _ _ => simp [here] at found
  | some x =>
    constructor
    · intro h
      by_cases skipped : f.skips x
      · rw [readField_skipped found skipped] at h
        cases h
        exact .skipped found skipped
      · rw [readField_given found skipped, Reading.under_eq_ok_iff] at h
        exact .given found skipped h
    · intro h
      cases h with
      | omitted none _ => simp [none] at found
      | implied none _ => simp [none] at found
      | skipped here skipped => exact readField_skipped here skipped
      | given here kept reads => rw [readField_given here kept, Reading.under_eq_ok_iff, reads]

/-! The value at a shape. -/

section Shapes

variable {d : Json} {v : Value}

theorem read_text_iff : readShape d .text = .ok v ↔ ∃ s, d = .str s ∧ v = .text s := by
  cases d with
  | str s =>
    have reads : readShape (.str s) .text = .ok (.text s) := rfl
    simp [reads, eq_comm]
  | _ => exact iff_of_false Reading.mismatch_ne_ok (by simp)

theorem read_flag_iff : readShape d .flag = .ok v ↔ ∃ b, d = .bool b ∧ v = .flag b := by
  cases d with
  | bool b =>
    have reads : readShape (.bool b) .flag = .ok (.flag b) := rfl
    simp [reads, eq_comm]
  | _ => exact iff_of_false Reading.mismatch_ne_ok (by simp)

theorem read_integer_iff : readShape d .integer = .ok v ↔ ∃ i, d = .int i ∧ v = .integer i := by
  cases d with
  | int i =>
    have reads : readShape (.int i) .integer = .ok (.integer i) := rfl
    simp [reads, eq_comm]
  | _ => exact iff_of_false Reading.mismatch_ne_ok (by simp)

theorem read_natural_iff :
    readShape d .natural = .ok v ↔ ∃ i, (0 ≤ i ∧ i < naturalEnd) ∧ d = .int i ∧ v = .integer i := by
  cases d with
  | int i =>
    by_cases range : 0 ≤ i ∧ i < naturalEnd
    · have reads : readShape (.int i) .natural = .ok (.integer i) := if_pos range
      rw [reads, Except.ok.injEq]
      constructor
      · intro same
        exact ⟨i, range, rfl, same.symm⟩
      · rintro ⟨_, _, same, rfl⟩
        cases same
        rfl
    · have reads : readShape (.int i) .natural = .mismatch .unsigned (.int i) := if_neg range
      rw [reads]
      refine iff_of_false Reading.mismatch_ne_ok ?_
      rintro ⟨_, inside, same, _⟩
      cases same
      exact range inside
  | _ => exact iff_of_false Reading.mismatch_ne_ok (by simp)

@[simp] theorem read_json : readShape d .json = .ok (.json d) := by
  cases d <;> rfl

theorem read_choice_iff {e : Enumeration} :
    readShape d (.choice e) = .ok v ↔ ∃ w ∈ e.words, d = .str w ∧ v = .member e w := by
  cases d with
  | str w =>
    by_cases known : w ∈ e.words
    · have reads : readShape (.str w) (.choice e) = .ok (.member e w) := if_pos known
      simp [reads, known, eq_comm]
    · have reads : readShape (.str w) (.choice e) =
          .fail (.unrecognised (some (.notAmong e.words))) :=
        if_neg known
      rw [reads]
      refine iff_of_false Reading.fail_ne_ok ?_
      rintro ⟨_, inside, same, _⟩
      cases same
      exact known inside
  | _ => exact iff_of_false Reading.mismatch_ne_ok (by simp)

theorem read_operator_iff {e : Enumeration} : readShape d (.operator e) = .ok v ↔
    ∃ w, d = .str w ∧ v = if w ∈ e.words then .member e w else .text w := by
  cases d with
  | str w =>
    have reads : readShape (.str w) (.operator e) =
        .ok (if w ∈ e.words then .member e w else .text w) := rfl
    simp [reads, eq_comm]
  | _ => exact iff_of_false Reading.mismatch_ne_ok (by simp)

theorem read_tag_iff {label : String} :
    readShape d (.tag label) = .ok v ↔ d = .str label ∧ v = .text label := by
  cases d with
  | str s =>
    by_cases same : s = label
    · subst same
      have reads : readShape (.str s) (.tag s) = .ok (.text s) := if_pos rfl
      simp [reads, eq_comm]
    · have reads : readShape (.str s) (.tag label) =
          .fail (.unrecognised (some (.notAmong [label]))) :=
        if_neg same
      rw [reads]
      exact iff_of_false Reading.fail_ne_ok (by simp [same])
  | _ => exact iff_of_false Reading.mismatch_ne_ok (by simp)

theorem forall₂_text_iff {items : List Json} {vs : List Value} :
    Forall₂ (fun x v => readShape x .text = .ok v) items vs ↔
      ∃ words : List String, items = words.map .str ∧ vs = words.map .text := by
  constructor
  · intro all
    induction all with
    | nil => exact ⟨[], rfl, rfl⟩
    | cons here _ ih =>
      obtain ⟨w, rfl, rfl⟩ := read_text_iff.mp here
      obtain ⟨words, rfl, rfl⟩ := ih
      exact ⟨w :: words, rfl, rfl⟩
  · rintro ⟨words, rfl, rfl⟩
    rw [List.forall₂_map_left_iff, List.forall₂_map_right_iff, List.forall₂_same]
    exact fun w _ => read_text_iff.mpr ⟨w, rfl, rfl⟩

theorem readNames_eq_ok_iff {rs : List Reading} :
    readNames d rs = .ok v ↔ ∃ vs, Reading.collect rs = .ok vs ∧ vs ≠ [] ∧ v = .list vs := by
  unfold readNames
  cases collected : Reading.collect rs with
  | error issues => simp
  | ok vs => cases vs <;> simp [eq_comm]

theorem read_names_iff : readShape d .names = .ok v ↔
    ∃ words : List String, words ≠ [] ∧ d = .arr (words.map .str) ∧
      v = .list (words.map .text) := by
  cases d with
  | arr items =>
    have reads : readShape (.arr items) .names =
        readNames (.arr items) (readItemsFrom 0 .text (itemParts items)) := rfl
    simp only [reads, readNames_eq_ok_iff, collect_items_iff, forall₂_text_iff, Json.arr.injEq]
    constructor
    · rintro ⟨_, ⟨words, rfl, rfl⟩, some, rfl⟩
      exact ⟨words, by simpa using some, rfl, rfl⟩
    · rintro ⟨words, some, rfl, rfl⟩
      exact ⟨_, ⟨words, rfl, rfl⟩, by simpa using some, rfl⟩
  | _ => exact iff_of_false Reading.mismatch_ne_ok (by simp)

theorem read_list_iff {item : Shape} : readShape d (.list item) = .ok v ↔
    ∃ items vs, d = .arr items ∧ v = .list vs ∧
      Forall₂ (fun x v => readShape x item = .ok v) items vs := by
  cases d with
  | arr items =>
    have reads : readShape (.arr items) (.list item) =
        (Reading.collect (readItemsFrom 0 item (itemParts items))).map .list := rfl
    simp only [reads, map_eq_ok_iff, collect_items_iff, Json.arr.injEq]
    constructor
    · rintro ⟨vs, all, rfl⟩
      exact ⟨items, vs, rfl, rfl, all⟩
    · rintro ⟨_, vs, rfl, rfl, all⟩
      exact ⟨vs, all, rfl⟩
  | _ => exact iff_of_false Reading.mismatch_ne_ok (by simp)

theorem read_map_iff {value : Shape} : readShape d (.map value) = .ok v ↔
    ∃ members entries, d = .obj members ∧ v = .map entries ∧
      Forall₂ (fun m e => e.1 = m.1 ∧ readShape m.2 value = .ok e.2) members entries := by
  cases d with
  | obj members =>
    have names : (memberParts members).map (·.1) = members.map (·.1) := by
      simp [memberParts_eq, Function.comp_def]
    have reads : readShape (.obj members) (.map value) =
        (Reading.collect
          ((memberParts members).map fun (k, p) => (p.read value).under (.key k))).map fun vs =>
            .map (((memberParts members).map (·.1)).zip vs) := rfl
    simp only [reads, map_eq_ok_iff, collect_members_iff, Json.obj.injEq, names]
    constructor
    · rintro ⟨vs, all, rfl⟩
      exact ⟨members, _, rfl, rfl, forall₂_zip_names.mp ⟨vs, rfl, all⟩⟩
    · rintro ⟨_, entries, rfl, rfl, all⟩
      obtain ⟨vs, rfl, each⟩ :=
        (forall₂_zip_names (R := fun (m : String × Json) v => readShape m.2 value = .ok v)).mpr all
      exact ⟨vs, each, rfl⟩
  | _ => exact iff_of_false Reading.mismatch_ne_ok (by simp)

theorem undeclared_eq_nil_iff {r : Record} {members : List (String × Json)} :
    undeclared r (memberParts members) = [] ↔ ∀ m ∈ members, m.1 ∈ r.fields.map (·.name) := by
  rw [undeclared, List.map_eq_nil_iff, List.filter_eq_nil_iff, memberParts_eq, List.forall_mem_map]
  refine forall₂_congr fun m _ => ?_
  rw [Bool.not_eq_true', Bool.not_eq_false, List.any_eq_true, List.mem_map]
  simp only [decide_eq_true_eq]

theorem readRecord_eq_ok_iff {r : Record} {members : List (String × Json)} :
    readRecord r (memberParts members) = .ok v ↔ ∃ entries, v = .record r entries ∧
      Forall₂ (fun f e => e.1 = f.name ∧ FieldReads members f e.2) r.fields entries ∧
      (r.closed = true → ∀ m ∈ members, m.1 ∈ r.fields.map (·.name)) := by
  have extra : (if r.closed = true then undeclared r (memberParts members) else []) = [] ↔
      (r.closed = true → ∀ m ∈ members, m.1 ∈ r.fields.map (·.name)) := by
    rw [← undeclared_eq_nil_iff]
    cases r.closed <;> simp
  have fields : ∀ vs, Reading.collect (r.fields.map (readField (memberParts members))) = .ok vs ↔
      Forall₂ (fun f v => FieldReads members f v) r.fields vs := by
    intro vs
    simp only [Reading.collect_eq_ok_iff, List.forall₂_map_left_iff, readField_eq_ok_iff]
  rw [← extra]
  unfold readRecord
  cases collected : Reading.collect (r.fields.map (readField (memberParts members))) with
  | error issues =>
    have none : ∀ vs, ¬ Forall₂ (fun f v => FieldReads members f v) r.fields vs := by
      intro vs all
      rw [← fields, collected] at all
      contradiction
    constructor
    · intro h
      contradiction
    · rintro ⟨entries, _, all, _⟩
      obtain ⟨vs, _, each⟩ := forall₂_zip_names.mpr all
      exact absurd each (none vs)
  | ok vs =>
    cases extras : (if r.closed = true then undeclared r (memberParts members) else []) with
    | cons first more => simp
    | nil =>
      simp only [Except.ok.injEq, and_true]
      constructor
      · rintro rfl
        exact ⟨_, rfl, forall₂_zip_names.mp ⟨vs, rfl, (fields vs).mp collected⟩⟩
      · rintro ⟨entries, rfl, all⟩
        obtain ⟨ws, rfl, each⟩ := forall₂_zip_names.mpr all
        have same := collected.symm.trans ((fields ws).mpr each)
        cases same
        rfl

theorem readShape_record (r : Record) (members : List (String × Json)) :
    readShape (.obj members) (.record r) = readRecord r (memberParts members) := rfl

theorem read_record_iff {r : Record} : readShape d (.record r) = .ok v ↔
    ∃ members entries, d = .obj members ∧ v = .record r entries ∧
      Forall₂ (fun f e => e.1 = f.name ∧ FieldReads members f e.2) r.fields entries ∧
      (r.closed = true → ∀ m ∈ members, m.1 ∈ r.fields.map (·.name)) := by
  cases d with
  | obj members =>
    rw [readShape_record, readRecord_eq_ok_iff]
    constructor
    · rintro ⟨entries, same, all, known⟩
      exact ⟨members, entries, rfl, same, all, known⟩
    · rintro ⟨_, entries, same, rest⟩
      cases same
      exact ⟨entries, rest⟩
  | _ => exact iff_of_false Reading.mismatch_ne_ok (by simp)

/-- A tagged object is read as the variant its label names, and its issues are one label further
in. -/
theorem readShape_tagged {variants : List Record} {members : List (String × Json)} :
    readShape (.obj members) (.tagged variants) = match Json.lookup "type" members with
      | none => .fail .untagged
      | some (.str label) => match variantOf label variants with
        | some r => (readShape (.obj members) (.record r)).under (.key label)
        | none => .fail (.unrecognised (some (.unknownTag (.str label))))
      | some tag => .fail (.unrecognised (some (.unknownTag tag))) := by
  show readTagged variants (memberParts members) = _
  rw [readTagged, partOf_memberParts]
  cases Json.lookup "type" members with
  | none => rfl
  | some tag => cases tag <;> rfl

theorem read_tagged_iff {variants : List Record} : readShape d (.tagged variants) = .ok v ↔
    ∃ label r, Json.lookup "type" d.members = some (.str label) ∧
      variantOf label variants = some r ∧
      readShape d (.record r) = .ok v := by
  cases d with
  | obj members =>
    rw [readShape_tagged]
    show _ ↔ ∃ label r, Json.lookup "type" members = _ ∧ _
    cases Json.lookup "type" members with
    | none => exact iff_of_false Reading.fail_ne_ok (by simp)
    | some tag =>
      cases tag with
      | str label =>
        dsimp only
        cases named : variantOf label variants with
        | none => exact iff_of_false Reading.fail_ne_ok (by simp [named])
        | some r => simp [Reading.under_eq_ok_iff, named]
      | _ => exact iff_of_false Reading.fail_ne_ok (by simp)
  | _ =>
    refine iff_of_false Reading.mismatch_ne_ok ?_
    rintro ⟨_, _, tag, _⟩
    cases tag

theorem readShape_either (d : Json) (first second : Shape) : readShape d (.either first second) =
    match readShape d first with
    | .ok v => .ok v
    | .error _ => match readShape d second with
      | .ok v => .ok v
      | .error _ => .fail (.unrecognised none) := by
  cases d <;> rfl

/-- The second shape counts only where the first one fails. -/
theorem read_either_iff {first second : Shape} : readShape d (.either first second) = .ok v ↔
    readShape d first = .ok v ∨ (∀ w, readShape d first ≠ .ok w) ∧ readShape d second = .ok v := by
  rw [readShape_either]
  cases readShape d first with
  | ok w => simp
  | error issues =>
    cases readShape d second with
    | ok w => simp
    | error more => exact iff_of_false Reading.fail_ne_ok (by simp)

end Shapes

end AgentWire
