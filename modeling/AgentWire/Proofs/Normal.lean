import AgentWire.Proofs.IssueCauses
import AgentWire.Proofs.Writing

/-! The normal form of a document at a shape, from the declarations alone: objects lose what is
undeclared or absent and get their fields in declared order, and nothing else changes. Writing what
was read gives this form. -/
namespace AgentWire

open List (Forall₂)

/-- The member that a field stands for when it is left out. -/
def Field.impliedMember (f : Field) : Option (String × Json) :=
  match f.need, f.shape with
  | .constant, .tag label => some (f.name, .str label)
  | _, _ => none

mutual
/-- The normal form of a document at a shape. What does not fit the shape stays as it is. -/
def normal : Shape → Json → Json
  | .list item, d => match d with
    | .arr items => .arr (items.map fun x => normal item x)
    | _ => d
  | .map value, d => match d with
    | .obj members => .obj (members.map fun m => (m.1, normal value m.2))
    | _ => d
  | .record r, d => match d with
    | .obj members => .obj (normalMembers r members)
    | _ => d
  | .tagged variants, d => match d with
    | .obj members => match Json.lookup "type" members with
      | some (.str label) => match variantOf label variants with
        | some r => .obj (normalMembers r members)
        | none => d
      | _ => d
    | _ => d
  | .either first second, d => if (faults first d).isEmpty then normal first d else normal second d
  | _, d => d
termination_by s d => (sizeOf d, sizeOf s)
decreasing_by
  · decreasing_tactic
  · exact .left _ _ (Json.sizeOf_member (d := .obj members) ‹m ∈ members›)
  all_goals decreasing_tactic

/-- The declared fields that are there, in their declared order. -/
def normalMembers (r : Record) (members : List (String × Json)) : List (String × Json) :=
  r.fields.filterMap fun f => normalField f members
termination_by (sizeOf members, 1)

def normalField (f : Field) (members : List (String × Json)) : Option (String × Json) :=
  match _found : Json.lookup f.name members with
  | none => f.impliedMember
  | some x => if f.skips x then none else some (f.name, normal f.shape x)
termination_by (sizeOf members, 0)
decreasing_by
  exact .left _ _ (Json.sizeOf_lookup ‹_›)
end

section Equations

variable {f : Field} {members : List (String × Json)} {x : Json}

theorem normalField_none (missing : Json.lookup f.name members = none) :
    normalField f members = f.impliedMember := by
  rw [normalField]
  split
  · rfl
  · rename_i found
    simp [missing] at found

theorem normalField_skipped (found : Json.lookup f.name members = some x) (skipped : f.skips x) :
    normalField f members = none := by
  rw [normalField]
  split
  · rename_i missing
    simp [missing] at found
  · rename_i here
    cases found.symm.trans here
    exact if_pos skipped

theorem normalField_given (found : Json.lookup f.name members = some x) (kept : ¬ f.skips x) :
    normalField f members = some (f.name, normal f.shape x) := by
  rw [normalField]
  split
  · rename_i missing
    simp [missing] at found
  · rename_i here
    cases found.symm.trans here
    exact if_neg kept

/-- A member of a normal form is a label or the normal form of what was given. -/
theorem normalField_eq_some {m : String × Json} (here : normalField f members = some m) :
    m.1 = f.name ∧ ((∃ label, m.2 = .str label) ∨
      ∃ x, Json.lookup f.name members = some x ∧ m.2 = normal f.shape x) := by
  cases found : Json.lookup f.name members with
  | none =>
    rw [normalField_none found, Field.impliedMember] at here
    split at here
    · cases here
      exact ⟨rfl, .inl ⟨_, rfl⟩⟩
    · contradiction
  | some x =>
    by_cases skipped : f.skips x
    · rw [normalField_skipped found skipped] at here
      contradiction
    · rw [normalField_given found skipped] at here
      cases here
      exact ⟨rfl, .inr ⟨x, rfl, rfl⟩⟩

/-- A tagged object has the normal form of the variant its label names. -/
theorem normal_tagged {variants : List Record} {r : Record} {label : String} {d : Json}
    (tag : Json.lookup "type" d.members = some (.str label))
    (found : variantOf label variants = some r) :
    normal (.tagged variants) d = normal (.record r) d := by
  rw [normal.eq_def, normal.eq_def (.record r)]
  cases d with
  | obj members => simp only [show Json.lookup "type" members = some (.str label) from tag, found]
  | _ => simp [Json.members, Json.lookup] at tag

/-- A union has the normal form of its first shape where that one can be read. -/
theorem normal_first {first second : Shape} {d : Json} {v : Value}
    (separated : first.separated = true) (reads : readShape d first = .ok v) :
    normal (.either first second) d = normal first d := by
  have none := (faults_eq_nil_iff separated).mpr (belongs_of_read reads)
  rw [normal, none]
  rfl

theorem normal_second {first second : Shape} {d : Json} (separated : first.separated = true)
    (fails : ∀ v, readShape d first ≠ .ok v) :
    normal (.either first second) d = normal second d := by
  have some : ¬ (faults first d).isEmpty = true := by
    rw [List.isEmpty_iff, faults_eq_nil_iff separated]
    intro belongs
    obtain ⟨v, reads⟩ := read_of_belongs belongs separated
    exact fails v reads
  rw [normal, if_neg some]

end Equations

/-! What holds everywhere in a document holds everywhere in its normal form, if it is a matter of
the leaves and of the keys of each object. -/

theorem normalMembers_nodup (r : Record) (members : List (String × Json)) :
    ((normalMembers r members).map (·.1)).Nodup := by
  have names : ∀ fields : List Field,
      ((fields.filterMap fun f => normalField f members).map (·.1)).Sublist
        (fields.map (·.name)) := by
    intro fields
    induction fields with
    | nil => exact .slnil
    | cons f rest ih =>
      rw [List.filterMap_cons, List.map_cons]
      cases here : normalField f members with
      | none => exact ih.cons _
      | some m =>
        rw [← (normalField_eq_some here).1]
        exact ih.cons_cons _
  rw [normalMembers]
  exact r.fields_nodup.sublist (names r.fields)

section Everywhere

variable {test : Json → Bool}

theorem everywhere_normal {s : Shape} {d : Json} (texts : ∀ s, test (.str s) = true)
    (arrays : ∀ items, test (.arr items) = true)
    (objects : ∀ members, (members.map (·.1)).Nodup → test (.obj members) = true)
    (keys : ∀ members others, members.map (·.1) = others.map (·.1) → test (.obj members) = true →
      test (.obj others) = true)
    (holds : d.everywhere test = true) : (normal s d).everywhere test = true := by
  induction s, d using Shape.descend with
  | list item d ih =>
    rw [normal.eq_def]
    cases d with
    | arr items =>
      refine Json.everywhere_arr.mpr ⟨arrays _, fun y member => ?_⟩
      obtain ⟨x, inside, rfl⟩ := List.mem_map.mp member
      exact ih x inside (Json.everywhere_items holds inside)
    | _ => exact holds
  | map value d ih =>
    rw [normal.eq_def]
    cases d with
    | obj members =>
      have here := (Json.everywhere_obj.mp holds).1
      refine Json.everywhere_obj.mpr ⟨keys members _ (by rw [List.map_map]; rfl) here,
        fun y member => ?_⟩
      obtain ⟨m, inside, rfl⟩ := List.mem_map.mp member
      exact ih m inside (Json.everywhere_members holds inside)
    | _ => exact holds
  | record r d ih =>
    rw [normal.eq_def]
    cases d with
    | obj members =>
      refine Json.everywhere_obj.mpr ⟨objects _ (normalMembers_nodup r members), fun m member => ?_⟩
      rw [normalMembers, List.mem_filterMap] at member
      obtain ⟨f, inside, here⟩ := member
      obtain ⟨_, ⟨label, same⟩ | ⟨x, found, same⟩⟩ := normalField_eq_some here
      · rw [same]
        exact texts label
      · rw [same]
        exact ih f inside x found (Json.everywhere_members holds (Json.mem_of_lookup found))
    | _ => exact holds
  | tagged variants d ih =>
    rw [normal.eq_def]
    cases d with
    | obj members =>
      dsimp only
      split
      · split
        · rename_i r found
          have record := ih r (List.mem_of_find?_eq_some found) holds
          rwa [normal] at record
        · exact holds
      · exact holds
    | _ => exact holds
  | either first second d first_ih second_ih =>
    rw [normal]
    split
    · exact first_ih holds
    · exact second_ih holds
  | _ => rw [normal.eq_def]; exact holds

end Everywhere

theorem finite_normal {s : Shape} {d : Json} (finite : d.Finite) : (normal s d).Finite := by
  apply everywhere_normal _ _ _ _ finite <;> intros <;> rfl

theorem distinct_normal {s : Shape} {d : Json} (distinct : d.Distinct) : (normal s d).Distinct := by
  apply everywhere_normal _ _ _ _ distinct
  · intro text
    rfl
  · intro items
    rfl
  · intro members nodup
    exact decide_eq_true nodup
  · intro members others same here
    rw [Json.members, ← same]
    exact here

theorem withoutNonFiniteItems_eq (items : List Json) :
    Json.withoutNonFiniteItems items = items.map Json.withoutNonFinite := by
  induction items with
  | nil => rfl
  | cons x rest ih => rw [Json.withoutNonFiniteItems, ih, List.map_cons]

theorem withoutNonFiniteMembers_eq (members : List (String × Json)) :
    Json.withoutNonFiniteMembers members = members.map fun m => (m.1, m.2.withoutNonFinite) := by
  induction members with
  | nil => rfl
  | cons m rest ih => rw [Json.withoutNonFiniteMembers, ih, List.map_cons]

theorem withoutNonFinite_of_finite {d : Json} (finite : d.Finite) : d.withoutNonFinite = d := by
  induction d using Json.by_parts with
  | whole d each_item each_member =>
    cases d with
    | num x => exact if_pos finite
    | arr items =>
      have same : ∀ x ∈ items, x.withoutNonFinite = x := by
        intro x inside
        exact each_item x inside (Json.everywhere_items finite inside)
      rw [Json.withoutNonFinite, withoutNonFiniteItems_eq, List.map_congr_left same, List.map_id']
    | obj members =>
      have same : ∀ m ∈ members, (m.1, m.2.withoutNonFinite) = m := by
        intro m inside
        rw [each_member m inside (Json.everywhere_members finite inside)]
      rw [Json.withoutNonFinite, withoutNonFiniteMembers_eq, List.map_congr_left same, List.map_id']
    | _ => rfl

theorem withoutNonFinite_finite (d : Json) : d.withoutNonFinite.Finite := by
  induction d using Json.by_parts with
  | whole d items_ih members_ih =>
    cases d with
    | num x =>
      rw [Json.withoutNonFinite]
      split
      · assumption
      · rfl
    | arr items =>
      have each : ∀ y ∈ Json.withoutNonFiniteItems items, y.Finite := by
        rw [withoutNonFiniteItems_eq]
        intro y inside
        obtain ⟨x, member, rfl⟩ := List.mem_map.mp inside
        exact items_ih x member
      exact Json.everywhere_arr.mpr ⟨rfl, each⟩
    | obj members =>
      have each : ∀ n ∈ Json.withoutNonFiniteMembers members, n.2.Finite := by
        rw [withoutNonFiniteMembers_eq]
        intro n inside
        obtain ⟨m, member, rfl⟩ := List.mem_map.mp inside
        exact members_ih m member
      exact Json.everywhere_obj.mpr ⟨rfl, each⟩
    | _ => rfl

theorem withoutNonFinite_distinct {d : Json} (distinct : d.Distinct) :
    d.withoutNonFinite.Distinct := by
  induction d using Json.by_parts with
  | whole d items_ih members_ih =>
    cases d with
    | num x =>
      rw [Json.withoutNonFinite]
      split <;> rfl
    | arr items =>
      have each : ∀ y ∈ Json.withoutNonFiniteItems items, y.Distinct := by
        rw [withoutNonFiniteItems_eq]
        intro y inside
        obtain ⟨x, member, rfl⟩ := List.mem_map.mp inside
        exact items_ih x member (Json.everywhere_items distinct member)
      exact Json.everywhere_arr.mpr ⟨rfl, each⟩
    | obj members =>
      have each : ∀ n ∈ Json.withoutNonFiniteMembers members, n.2.Distinct := by
        rw [withoutNonFiniteMembers_eq]
        intro n inside
        obtain ⟨m, member, rfl⟩ := List.mem_map.mp inside
        exact members_ih m member (Json.everywhere_members distinct member)
      have keys : ((Json.withoutNonFiniteMembers members).map (·.1)).Nodup := by
        rw [withoutNonFiniteMembers_eq, List.map_map]
        exact distinct.nodup
      exact Json.everywhere_obj.mpr ⟨decide_eq_true keys, each⟩
    | _ => rfl

/-! Writing what was read. -/

/-- The fields of a record are written as they stand in the normal form. -/
theorem writeFields_eq {r : Record} {members : List (String × Json)} {fields : List Field}
    {entries : List (String × Value)} (declared : ∀ f ∈ fields, f ∈ r.fields)
    (reads : Forall₂ (fun f e => e.1 = f.name ∧ FieldReads members f e.2) fields entries)
    (each : ∀ f ∈ fields, ∀ x v, Json.lookup f.name members = some x → readShape x f.shape = .ok v →
      encodeAt v f.shape = normal f.shape x) :
    writeFields fields (writtenEntries entries) =
      fields.filterMap fun f => normalField f members := by
  induction reads with
  | nil => rfl
  | @cons f e fields entries here _ ih =>
    obtain ⟨name, field⟩ := here
    rw [List.forall_mem_cons] at declared each
    rw [writeFields_cons, List.filterMap_cons, ih declared.2 each.2, name]
    generalize e.2 = v at field
    cases field with
    | omitted missing optional =>
      simp [normalField_none missing, Field.impliedMember, optional, Value.isPresent]
    | implied missing constant =>
      obtain ⟨label, rfl⟩ := Record.constant_field declared.1 constant
      simp only [normalField_none missing]
      rfl
    | skipped found skipped => simp [normalField_skipped found skipped, Value.isPresent]
    | given found kept inner =>
      rw [normalField_given found kept, if_pos (isPresent_of_read inner), each.1 _ _ found inner]

/-- What a normal form holds for a field is finite if the normal form is. -/
theorem finite_field {r : Record} {f : Field} {members : List (String × Json)} {x : Json}
    (finite : (Json.obj (normalMembers r members)).Finite) (declared : f ∈ r.fields)
    (found : Json.lookup f.name members = some x) : (normal f.shape x).Finite := by
  by_cases skipped : f.skips x
  · have null : x.Finite := by
      cases x with
      | null => rfl
      | _ => cases skipped.2
    exact finite_normal null
  · have inside : (f.name, normal f.shape x) ∈ normalMembers r members := by
      rw [normalMembers]
      exact List.mem_filterMap.mpr ⟨f, declared, normalField_given found skipped⟩
    exact Json.everywhere_members finite inside

theorem encode_normal {s : Shape} {d : Json} {v : Value} (separated : s.separated = true)
    (finite : (normal s d).Finite) (reads : readShape d s = .ok v) : encodeAt v s = normal s d := by
  induction s, d using Shape.descend generalizing v with
  | json d =>
    cases read_json.symm.trans reads
    rw [normal.eq_def]
    rfl
  | list item d ih =>
    obtain ⟨items, vs, rfl, rfl, all⟩ := read_list_iff.mp reads
    have same : vs.map (fun v => encodeAt v item) = items.map fun x => normal item x := by
      apply map_eq_of_forall₂ all
      intro x inside v here
      rw [normal] at finite
      exact ih x inside separated (Json.everywhere_items finite (List.mem_map_of_mem inside)) here
    rw [encodeAt_list, same, normal]
  | map value d ih =>
    obtain ⟨members, entries, rfl, rfl, all⟩ := read_map_iff.mp reads
    have same : entries.map (fun e => (e.1, encodeAt e.2 value)) =
        members.map fun m => (m.1, normal value m.2) := by
      apply map_eq_of_forall₂ all
      intro m inside e here
      rw [normal] at finite
      have part := Json.everywhere_members finite (List.mem_map_of_mem inside)
      rw [here.1, ih m inside separated part here.2]
    rw [encodeAt_map, same, normal]
  | record r d ih =>
    obtain ⟨members, entries, rfl, rfl, all, _⟩ := read_record_iff.mp reads
    have fields : writeFields r.fields (writtenEntries entries) =
        r.fields.filterMap fun f => normalField f members := by
      apply writeFields_eq (fun f member => member) all
      intro f member x v found inner
      rw [normal] at finite
      exact ih f member x found (Record.fields_separated member)
        (finite_field finite member found) inner
    -- A record is written without infinite and undefined doubles, and here there are none.
    rw [normal, normalMembers, ← fields] at finite ⊢
    exact withoutNonFinite_of_finite finite
  | tagged variants d ih =>
    obtain ⟨label, r, tag, found, inner⟩ := read_tagged_iff.mp reads
    obtain ⟨members, entries, rfl, rfl, _⟩ := read_record_iff.mp inner
    rw [normal_tagged tag found] at finite ⊢
    rw [encodeAt_tagged]
    exact ih r (List.mem_of_find?_eq_some found) rfl finite inner
  | either first second d first_ih second_ih =>
    simp only [Shape.separated, Bool.and_eq_true] at separated
    obtain ⟨⟨first_separated, second_separated⟩, apart⟩ := separated
    rw [encodeAt_either]
    rcases read_either_iff.mp reads with here | ⟨none, here⟩
    · rw [normal_first first_separated here] at finite ⊢
      rw [if_pos (admits_of_read here)]
      exact first_ih first_separated finite here
    · rw [normal_second first_separated none] at finite ⊢
      rw [not_admits_of_apart apart here, if_neg Bool.false_ne_true]
      exact second_ih second_separated finite here
  | _ =>
    rw [← encode_of_read separated reads, encode_leaf rfl reads, normal.eq_def]

theorem encode_read {s : Shape} {d : Json} {v : Value} (separated : s.separated = true)
    (finite : d.Finite) (reads : readShape d s = .ok v) : encodeAt v s = normal s d :=
  encode_normal separated (finite_normal finite) reads

/-- Writing a decoded value gives the normal form of the document. -/
theorem encode_decoded (t : WireType) (d : Json) (v : Value) (finite : d.Finite)
    (decoded : decode t.shape d = .ok v) : encodeAt v t.shape = normal t.shape d :=
  encode_read t.separated finite (decode_eq_ok_iff.mp decoded)

/-- A comparison without its label, with a key too many and its fields in another order. -/
def looseComparison : Json :=
  .obj [("value", .obj [("value", .num 1.5), ("type", .str "scalar"),
    ("value_type", .str "Float")]),
    ("note", .null), ("operator", .str "near"),
    ("column", .obj [("path", .null), ("name", .str "Price"), ("column_type", .str "Float")])]

def comparison : Value :=
  .record .applyBinaryComparison [("type", .text "binary_op"),
    ("column", .record .comparisonColumn
      [("column_type", .text "Float"), ("name", .text "Price"), ("path", .absent)]),
    ("operator", .text "near"),
    ("value", .record .scalarComparisonValue
      [("type", .text "scalar"), ("value", .json (.num 1.5)), ("value_type", .text "Float")])]

def tidyComparison : Json :=
  .obj [("type", .str "binary_op"),
    ("column", .obj [("column_type", .str "Float"), ("name", .str "Price")]),
    ("operator", .str "near"),
    ("value", .obj [("type", .str "scalar"), ("value", .num 1.5), ("value_type", .str "Float")])]

theorem encode_decoded_comparison :
    looseComparison.Finite ∧ decode (.record .applyBinaryComparison) looseComparison =
      .ok comparison ∧
      encodeAt comparison (.record .applyBinaryComparison) = tidyComparison := by
  have finite : looseComparison.Finite := by decide
  have decoded : decode (.record .applyBinaryComparison) looseComparison = .ok comparison := rfl
  have tidy : normal (.record .applyBinaryComparison) looseComparison = tidyComparison := by
    rw [looseComparison, tidyComparison]
    generalize (1.5 : Float) = x
    cbv
  refine ⟨finite, decoded, ?_⟩
  rw [← tidy]
  exact encode_decoded (.record .applyBinaryComparison) looseComparison comparison finite decoded

end AgentWire
