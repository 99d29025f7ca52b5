import AgentWire.Proofs.ResultSets
import AgentWire.Proofs.Writing
import Mathlib.Data.List.Perm.Subperm

/-! Equality by value, key by key. Objects, maps and records are equal when every key leads to equal
values in both or to nothing in both; the order of their members has no part in it. -/
namespace AgentWire

open List (Forall₂)

/-! Two tables side by side. -/

section Tables

variable {α β : Type} {R : α → β → Prop} {l : List (String × α)} {u : List (String × β)}

theorem lookup_eq_none_iff_keys {key : String} : l.lookup key = none ↔ key ∉ l.map (·.1) := by
  simp only [List.lookup_eq_none_iff, List.mem_map, not_exists, not_and, bne_iff_ne, ne_eq]
  exact forall₂_congr fun _ _ => ⟨Ne.symm, Ne.symm⟩

theorem lookup_eq_some_iff_mem {m : String × α} (distinct : (l.map (·.1)).Nodup) :
    l.lookup m.1 = some m.2 ↔ m ∈ l := by
  induction l with
  | nil => exact iff_of_false (fun found => by cases found) List.not_mem_nil
  | cons n rest ih =>
    rw [List.map_cons, List.nodup_cons] at distinct
    rw [List.lookup_cons, List.mem_cons]
    by_cases here : m.1 = n.1
    · have missing : m ∉ rest := fun later => distinct.1 (List.mem_map.mpr ⟨m, later, here⟩)
      simp only [here, beq_self_eq_true, Option.some.injEq, missing, or_false]
      exact ⟨fun same => Prod.ext here same.symm, fun same => congrArg Prod.snd same.symm⟩
    · have other : m ≠ n := fun same => here (congrArg Prod.fst same)
      simp only [beq_eq_false_iff_ne.mpr here, ih distinct.2, other, false_or]

/-- Two tables of one length in which every entry has a counterpart have the same keys. -/
theorem keys_perm_of_counterparts (distinct : (l.map (·.1)).Nodup) (length : l.length = u.length)
    (each : ∀ m ∈ l, ∃ y, u.lookup m.1 = some y ∧ R m.2 y) : (l.map (·.1)).Perm (u.map (·.1)) := by
  refine (List.subperm_of_subset distinct ?_).perm_of_length_le ?_
  · intro key inside
    obtain ⟨m, member, rfl⟩ := List.mem_map.mp inside
    obtain ⟨y, found, _⟩ := each m member
    by_contra missing
    rw [lookup_eq_none_iff_keys.mpr missing] at found
    cases found
  · simp [length]

theorem lookup_related {key : String} (present : key ∈ l.map (·.1) ↔ key ∈ u.map (·.1))
    (each : ∀ x y, l.lookup key = some x → u.lookup key = some y → R x y) :
    Option.Rel R (l.lookup key) (u.lookup key) := by
  have missing : l.lookup key = none ↔ u.lookup key = none := by
    rw [lookup_eq_none_iff_keys, lookup_eq_none_iff_keys, present]
  cases here : l.lookup key with
  | none =>
    rw [missing.mp here]
    exact .none
  | some x =>
    cases there : u.lookup key with
    | none => cases (missing.mpr there).symm.trans here
    | some y => exact .some (each x y here there)

theorem keys_of_lookups (distinct : (l.map (·.1)).Nodup) (others : (u.map (·.1)).Nodup)
    (each : ∀ key, Option.Rel R (l.lookup key) (u.lookup key)) :
    (l.map (·.1)).Perm (u.map (·.1)) := by
  refine (List.perm_ext_iff_of_nodup distinct others).mpr fun key => ?_
  rw [← not_iff_not, ← lookup_eq_none_iff_keys, ← lookup_eq_none_iff_keys]
  have related := each key
  generalize l.lookup key = x at related ⊢
  generalize u.lookup key = y at related ⊢
  cases related <;> simp

theorem counterparts_iff (distinct : (l.map (·.1)).Nodup) (others : (u.map (·.1)).Nodup) :
    (l.length = u.length ∧ ∀ m ∈ l, ∃ y, u.lookup m.1 = some y ∧ R m.2 y) ↔
      ∀ key, Option.Rel R (l.lookup key) (u.lookup key) := by
  constructor
  · rintro ⟨length, each⟩ key
    refine lookup_related (keys_perm_of_counterparts distinct length each).mem_iff ?_
    intro x y here there
    obtain ⟨z, found, related⟩ := each (key, x) ((lookup_eq_some_iff_mem distinct).mp here)
    cases found.symm.trans there
    exact related
  · intro each
    refine ⟨by simpa using (keys_of_lookups distinct others each).length_eq, fun m member => ?_⟩
    have related := each m.1
    rw [(lookup_eq_some_iff_mem distinct).mpr member] at related
    generalize u.lookup m.1 = y at related ⊢
    cases related with
    | some here => exact ⟨_, rfl, here⟩

end Tables

theorem Json.lookup_eq (key : String) (members : List (String × Json)) :
    lookup key members = members.lookup key := by
  induction members with
  | nil => rfl
  | cons m rest ih =>
    rw [lookup_cons, List.lookup_cons, ih]
    by_cases here : m.1 = key
    · simp [here]
    · simp [here, beq_eq_false_iff_ne.mpr (Ne.symm here)]

theorem Value.lookup_eq (key : String) (entries : List (String × Value)) :
    lookup key entries = entries.lookup key := by
  induction entries with
  | nil => rfl
  | cons e rest ih =>
    obtain ⟨k, v⟩ := e
    rw [lookup, List.lookup_cons, ih]
    by_cases here : k = key
    · simp [here]
    · simp [here, beq_eq_false_iff_ne.mpr (Ne.symm here)]

theorem getD_map_iff {α : Type} {p : α → Bool} {x : Option α} :
    (x.map p).getD false = true ↔ ∃ y, x = some y ∧ p y = true := by
  cases x <;> simp

namespace Json

theorem lookup_related {R : Json → Json → Prop} {members others : List (String × Json)}
    {key : String} (present : key ∈ members.map (·.1) ↔ key ∈ others.map (·.1))
    (each : ∀ x y, lookup key members = some x → lookup key others = some y → R x y) :
    Option.Rel R (lookup key members) (lookup key others) := by
  rw [lookup_eq, lookup_eq] at *
  exact AgentWire.lookup_related present each

theorem sameItems_iff {items others : List Json} :
    sameItems items others = true ↔ Forall₂ (fun x y => x.same y = true) items others := by
  induction items generalizing others with
  | nil => cases others <;> simp [sameItems]
  | cons x rest ih => cases others <;> simp [sameItems, ih]

theorem sameMembers_iff {members others : List (String × Json)} :
    sameMembers members others = true ↔
      ∀ m ∈ members, ∃ y, others.lookup m.1 = some y ∧ m.2.same y = true := by
  induction members with
  | nil => simp [sameMembers]
  | cons m rest ih =>
    rw [sameMembers, Bool.and_eq_true, getD_map_iff, lookup_eq, ih, List.forall_mem_cons]

theorem same_arr_iff {items others : List Json} :
    (arr items).same (arr others) = true ↔ Forall₂ (fun x y => x.same y = true) items others := by
  rw [same, sameItems_iff]

theorem same_obj_iff {members others : List (String × Json)} (distinct : (members.map (·.1)).Nodup)
    (others_distinct : (others.map (·.1)).Nodup) : (obj members).same (obj others) = true ↔
      ∀ key, Option.Rel (fun x y => x.same y = true) (lookup key members) (lookup key others) := by
  rw [same, Bool.and_eq_true, beq_iff_eq, sameMembers_iff]
  simp only [lookup_eq]
  exact counterparts_iff (R := fun x y => x.same y = true) distinct others_distinct

end Json

namespace Value

theorem sameItems_iff {items others : List Value} :
    sameItems items others = true ↔ Forall₂ (fun v w => v.same w = true) items others := by
  induction items generalizing others with
  | nil => cases others <;> simp [sameItems]
  | cons x rest ih => cases others <;> simp [sameItems, ih]

theorem sameEntries_iff {entries others : List (String × Value)} :
    sameEntries entries others = true ↔
      ∀ e ∈ entries, ∃ w, others.lookup e.1 = some w ∧ e.2.same w = true := by
  induction entries with
  | nil => simp [sameEntries]
  | cons e rest ih =>
    rw [sameEntries, Bool.and_eq_true, getD_map_iff, lookup_eq, ih, List.forall_mem_cons]

theorem same_list_iff {items others : List Value} :
    (list items).same (list others) = true ↔ Forall₂ (fun v w => v.same w = true) items others := by
  rw [same, sameItems_iff]

section Entries

variable {entries others : List (String × Value)} (distinct : (entries.map (·.1)).Nodup)
  (others_distinct : (others.map (·.1)).Nodup)

include distinct others_distinct

theorem same_map_iff : (map entries).same (map others) = true ↔
    ∀ key, Option.Rel (fun v w => v.same w = true) (lookup key entries) (lookup key others) := by
  rw [same, Bool.and_eq_true, beq_iff_eq, sameEntries_iff]
  simp only [lookup_eq]
  exact counterparts_iff (R := fun v w => v.same w = true) distinct others_distinct

theorem same_record_iff {r : Record} : (record r entries).same (record r others) = true ↔
    ∀ key, Option.Rel (fun v w => v.same w = true) (lookup key entries) (lookup key others) := by
  have as_map : (record r entries).same (record r others) = (map entries).same (map others) := by
    simp [same]
  rw [as_map, same_map_iff distinct others_distinct]

end Entries

end Value

/-! Values that were read. -/

/-- Texts, integers and booleans are equal as values when they are equal as documents. -/
theorem same_leaf_iff {s : Shape} {d other : Json} {v w : Value} (leaf : s.isLeaf = true)
    (reads : readShape d s = .ok v) (other_reads : readShape other s = .ok w) :
    v.same w = true ↔ d.same other = true := by
  cases s with
  | text =>
    obtain ⟨_, rfl, rfl⟩ := read_text_iff.mp reads
    obtain ⟨_, rfl, rfl⟩ := read_text_iff.mp other_reads
    exact Iff.rfl
  | flag =>
    obtain ⟨b, rfl, rfl⟩ := read_flag_iff.mp reads
    obtain ⟨c, rfl, rfl⟩ := read_flag_iff.mp other_reads
    cases b <;> cases c <;> decide
  | integer =>
    obtain ⟨_, rfl, rfl⟩ := read_integer_iff.mp reads
    obtain ⟨_, rfl, rfl⟩ := read_integer_iff.mp other_reads
    exact Iff.rfl
  | natural =>
    obtain ⟨_, _, rfl, rfl⟩ := read_natural_iff.mp reads
    obtain ⟨_, _, rfl, rfl⟩ := read_natural_iff.mp other_reads
    exact Iff.rfl
  | choice e =>
    obtain ⟨_, _, rfl, rfl⟩ := read_choice_iff.mp reads
    obtain ⟨_, _, rfl, rfl⟩ := read_choice_iff.mp other_reads
    simp [Value.same, Json.same]
  | operator e =>
    obtain ⟨a, rfl, rfl⟩ := read_operator_iff.mp reads
    obtain ⟨b, rfl, rfl⟩ := read_operator_iff.mp other_reads
    by_cases known : a ∈ e.words
    · by_cases other : b ∈ e.words
      · simp [known, other, Value.same, Json.same]
      · have different : a ≠ b := fun same => other (same ▸ known)
        simp [known, other, different, Value.same, Json.same]
    · by_cases other : b ∈ e.words
      · have different : a ≠ b := fun same => known (same ▸ other)
        simp [known, other, different, Value.same, Json.same]
      · simp [known, other, Value.same, Json.same]
  | tag label =>
    obtain ⟨rfl, rfl⟩ := read_tag_iff.mp reads
    obtain ⟨rfl, rfl⟩ := read_tag_iff.mp other_reads
    exact Iff.rfl
  | names =>
    obtain ⟨words, _, rfl, rfl⟩ := read_names_iff.mp reads
    obtain ⟨others, _, rfl, rfl⟩ := read_names_iff.mp other_reads
    rw [Value.same_list_iff, Json.same_arr_iff, List.forall₂_map_left_iff,
      List.forall₂_map_right_iff, List.forall₂_map_left_iff, List.forall₂_map_right_iff]
    exact Iff.rfl
  | _ => contradiction

theorem FieldReads.unique {members : List (String × Json)} {f : Field} {v w : Value}
    (here : FieldReads members f v) (there : FieldReads members f w) : v = w :=
  Except.ok.inj ((readField_eq_ok_iff.mpr here).symm.trans (readField_eq_ok_iff.mpr there))

theorem names_of_fields {P : Field → Value → Prop} {fields : List Field}
    {entries : List (String × Value)}
    (all : Forall₂ (fun f e => e.1 = f.name ∧ P f e.2) fields entries) :
    entries.map (·.1) = fields.map (·.name) :=
  map_eq_of_forall₂ all fun _ _ _ here => here.1

def SameRead (s : Shape) (d other : Json) : Prop :=
  ∀ v w, readShape d s = .ok v → readShape other s = .ok w → v.same w = true

theorem sameRead_iff {s : Shape} {d other : Json} {v w : Value} (reads : readShape d s = .ok v)
    (other_reads : readShape other s = .ok w) : SameRead s d other ↔ v.same w = true := by
  constructor
  · intro same
    exact same v w reads other_reads
  · intro same v' w' here there
    cases reads.symm.trans here
    cases other_reads.symm.trans there
    exact same

/-- Two lists are equal when the documents of their items have equal values. -/
theorem same_items_iff {item : Shape} {items others : List Json} {vs ws : List Value}
    (here : Forall₂ (fun x v => readShape x item = .ok v) items vs)
    (there : Forall₂ (fun x v => readShape x item = .ok v) others ws) :
    (Value.list vs).same (.list ws) = true ↔ Forall₂ (SameRead item) items others := by
  rw [Value.same_list_iff]
  induction here generalizing others ws with
  | nil => cases there <;> simp
  | cons reads _ ih =>
    cases there with
    | nil => simp
    | cons other_reads later =>
      rw [List.forall₂_cons, List.forall₂_cons, sameRead_iff reads other_reads, ih later]

section Entries

variable {value : Shape} {members others : List (String × Json)}
  {entries more : List (String × Value)}

/-- Two maps are equal when the documents under each key have equal values. -/
theorem same_entries_iff
    (here : Forall₂ (fun m e => e.1 = m.1 ∧ readShape m.2 value = .ok e.2) members entries)
    (there : Forall₂ (fun m e => e.1 = m.1 ∧ readShape m.2 value = .ok e.2) others more)
    (distinct : (members.map (·.1)).Nodup) (others_distinct : (others.map (·.1)).Nodup) :
    (Value.map entries).same (.map more) = true ↔
      ∀ key, Option.Rel (SameRead value) (Json.lookup key members) (Json.lookup key others) := by
  have names : entries.map (·.1) = members.map (·.1) :=
    map_eq_of_forall₂ here fun _ _ _ related => related.1
  have more_names : more.map (·.1) = others.map (·.1) :=
    map_eq_of_forall₂ there fun _ _ _ related => related.1
  rw [Value.same_map_iff (names ▸ distinct) (more_names ▸ others_distinct)]
  refine forall_congr' fun key => ?_
  have parts : Option.Rel (fun x v => readShape x value = .ok v) _ _ := lookup_partner key here
  have other_parts : Option.Rel (fun x v => readShape x value = .ok v) _ _ :=
    lookup_partner key there
  generalize Json.lookup key members = x at parts ⊢
  generalize Json.lookup key others = y at other_parts ⊢
  generalize Value.lookup key entries = v at parts ⊢
  generalize Value.lookup key more = w at other_parts ⊢
  cases parts with
  | none => cases other_parts <;> simp
  | some reads =>
    cases other_parts with
    | none => simp
    | some other_reads =>
      rw [Option.rel_some_some, Option.rel_some_some, sameRead_iff reads other_reads]

end Entries

section Records

variable {r : Record} {members others : List (String × Json)} {entries more : List (String × Value)}

theorem lookup_field {f : Field} {v : Value}
    (all : Forall₂ (fun f e => e.1 = f.name ∧ FieldReads members f e.2) r.fields entries)
    (declared : f ∈ r.fields) (reads : FieldReads members f v) :
    Value.lookup f.name entries = some v := by
  have distinct : (entries.map (·.1)).Nodup := names_of_fields all ▸ r.fields_nodup
  obtain ⟨⟨k, w⟩, member, name, field⟩ := forall₂_partner all declared
  dsimp only at name field
  subst name
  cases field.unique reads
  rw [Value.lookup_eq]
  exact (lookup_eq_some_iff_mem distinct).mpr member

/-- Two records of a kind are equal when their fields are. -/
theorem same_fields_iff (here : Forall₂ (fun f e => e.1 = f.name ∧ FieldReads members f e.2)
      r.fields entries)
    (there : Forall₂ (fun f e => e.1 = f.name ∧ FieldReads others f e.2) r.fields more) :
    (Value.record r entries).same (.record r more) = true ↔
      ∀ f ∈ r.fields, ∀ v w, FieldReads members f v → FieldReads others f w → v.same w = true := by
  have names := names_of_fields here
  have more_names := names_of_fields there
  rw [Value.same_record_iff (names ▸ r.fields_nodup) (more_names ▸ r.fields_nodup)]
  constructor
  · intro each f declared v w reads other_reads
    have related := each f.name
    rw [lookup_field here declared reads, lookup_field there declared other_reads] at related
    cases related
    assumption
  · intro each key
    by_cases named : key ∈ r.fields.map (·.name)
    · obtain ⟨f, declared, rfl⟩ := List.mem_map.mp named
      obtain ⟨e, _, _, reads⟩ := forall₂_partner here declared
      obtain ⟨g, _, _, other_reads⟩ := forall₂_partner there declared
      rw [lookup_field here declared reads, lookup_field there declared other_reads]
      exact .some (each f declared _ _ reads other_reads)
    · rw [Value.lookup_eq, Value.lookup_eq, lookup_eq_none_iff_keys.mpr (names ▸ named),
        lookup_eq_none_iff_keys.mpr (more_names ▸ named)]
      exact .none

end Records

end AgentWire
