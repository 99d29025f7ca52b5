import AgentWire.Proofs.Reading

/-! What writing a value yields, shape by shape, and which shape a union writes a value through.
Writing a value by itself yields the same. -/
namespace AgentWire

open List (Forall₂)

theorem writtenItems_eq (vs : List Value) : writtenItems vs = vs.map fun v => ⟨v, encodeAt v⟩ := by
  induction vs with
  | nil => rfl
  | cons v rest ih =>
    show ⟨v, encodeAt v⟩ :: writtenItems rest = _
    rw [ih, List.map_cons]

theorem writtenEntries_eq (entries : List (String × Value)) :
    writtenEntries entries = entries.map fun e => (e.1, ⟨e.2, encodeAt e.2⟩) := by
  induction entries with
  | nil => rfl
  | cons e rest ih =>
    show (e.1, ⟨e.2, encodeAt e.2⟩) :: writtenEntries rest = _
    rw [ih, List.map_cons]

section Shapes

variable {v : Value} {vs : List Value} {entries : List (String × Value)}

theorem encodeAt_list {item : Shape} :
    encodeAt (.list vs) (.list item) = .arr (vs.map fun v => encodeAt v item) := by
  show Json.arr ((writtenItems vs).map (·.write item)) = _
  rw [writtenItems_eq, List.map_map]
  rfl

theorem encodeAt_names {words : List String} :
    encodeAt (.list (words.map .text)) .names = .arr (words.map .str) := by
  show Json.arr ((writtenItems (words.map .text)).map (·.write .text)) = _
  rw [writtenItems_eq, List.map_map, List.map_map]
  rfl

theorem encodeAt_map {value : Shape} :
    encodeAt (.map entries) (.map value) =
      .obj (entries.map fun e => (e.1, encodeAt e.2 value)) := by
  show Json.obj ((writtenEntries entries).map fun e => (e.1, e.2.write value)) = _
  rw [writtenEntries_eq, List.map_map]
  rfl

theorem encodeAt_tagged {variants : List Record} {r : Record} :
    encodeAt (.record r entries) (.tagged variants) = encodeAt (.record r entries) (.record r) :=
  rfl

theorem encodeAt_either {first second : Shape} : encodeAt v (.either first second) =
    if first.admits v = true then encodeAt v first else encodeAt v second := by
  cases v <;> rfl

/-- A field that is present is written at the shape of its declaration; one that is absent is
not. -/
theorem writeFields_cons {f : Field} {declared : List Field} {e : String × Value} :
    writeFields (f :: declared) (writtenEntries (e :: entries)) =
      if e.2.isPresent = true then
        (e.1, encodeAt e.2 f.shape) :: writeFields declared (writtenEntries entries)
      else writeFields declared (writtenEntries entries) := by
  obtain ⟨k, v⟩ := e
  cases v <;> rfl

end Shapes

/-! Which values a shape yields. -/

/-- A value that was read is of its shape by its outermost form. -/
theorem admits_of_read {s : Shape} {d : Json} {v : Value} (reads : readShape d s = .ok v) :
    s.admits v = true := by
  induction s with
  | text => obtain ⟨s, _, rfl⟩ := read_text_iff.mp reads; rfl
  | flag => obtain ⟨b, _, rfl⟩ := read_flag_iff.mp reads; rfl
  | integer => obtain ⟨i, _, rfl⟩ := read_integer_iff.mp reads; rfl
  | natural => obtain ⟨i, _, _, rfl⟩ := read_natural_iff.mp reads; rfl
  | json =>
    cases read_json.symm.trans reads
    rfl
  | names => obtain ⟨words, _, _, rfl⟩ := read_names_iff.mp reads; rfl
  | choice e =>
    obtain ⟨w, _, _, rfl⟩ := read_choice_iff.mp reads
    simp [Shape.admits]
  | operator e =>
    obtain ⟨w, _, rfl⟩ := read_operator_iff.mp reads
    split <;> simp [Shape.admits]
  | tag label =>
    obtain ⟨_, rfl⟩ := read_tag_iff.mp reads
    simp [Shape.admits]
  | list item _ => obtain ⟨items, vs, _, rfl, _⟩ := read_list_iff.mp reads; rfl
  | map value _ => obtain ⟨members, entries, _, rfl, _⟩ := read_map_iff.mp reads; rfl
  | record r =>
    obtain ⟨members, entries, _, rfl, _⟩ := read_record_iff.mp reads
    simp [Shape.admits]
  | tagged variants =>
    obtain ⟨label, r, _, found, inner⟩ := read_tagged_iff.mp reads
    obtain ⟨members, entries, _, rfl, _⟩ := read_record_iff.mp inner
    simpa [Shape.admits] using List.mem_of_find?_eq_some found
  | either first second first_ih second_ih =>
    rcases read_either_iff.mp reads with here | ⟨_, here⟩
    · simp [Shape.admits, first_ih here]
    · simp [Shape.admits, second_ih here]

/-- Reading never yields an absent value; only fields are absent. -/
theorem isPresent_of_read {s : Shape} {d : Json} {v : Value} (reads : readShape d s = .ok v) :
    v.isPresent = true := by
  have admitted := admits_of_read reads
  have none_admits : ∀ s : Shape, s.admits .absent = false := by
    intro s
    induction s <;> simp_all [Shape.admits]
  cases v with
  | absent => simp [none_admits] at admitted
  | _ => rfl

/-- Where two shapes are apart, a value of the second is not written through the first. -/
theorem not_admits_of_apart {first second : Shape} {d : Json} {v : Value}
    (apart : first.apart second = true) (reads : readShape d second = .ok v) :
    first.admits v = false := by
  unfold Shape.apart at apart
  split at apart
  · obtain ⟨s, _, rfl⟩ := read_text_iff.mp reads
    rfl
  · obtain ⟨s, _, rfl⟩ := read_text_iff.mp reads
    rfl
  · cases read_json.symm.trans reads
    rfl
  · obtain ⟨members, entries, _, rfl, _⟩ := read_record_iff.mp reads
    simpa [Shape.admits] using apart
  · contradiction

/-! A value by itself is written as it is through the shape that it was read at. -/

theorem encodeItems_eq (vs : List Value) : Value.encodeItems vs = vs.map Value.encode := by
  induction vs with
  | nil => rfl
  | cons v rest ih =>
    show v.encode :: Value.encodeItems rest = _
    rw [ih, List.map_cons]

theorem encodeEntries_cons {e : String × Value} {entries : List (String × Value)} :
    Value.encodeEntries (e :: entries) =
      if e.2.isPresent = true then (e.1, e.2.encode) :: Value.encodeEntries entries
      else Value.encodeEntries entries := by
  obtain ⟨k, v⟩ := e
  cases v <;> rfl

theorem encodeEntries_names (entries : List (String × Value)) :
    ((Value.encodeEntries entries).map (·.1)).Sublist (entries.map (·.1)) := by
  induction entries with
  | nil => exact .slnil
  | cons e rest ih =>
    rw [encodeEntries_cons]
    split
    · exact ih.cons_cons _
    · exact ih.cons _

theorem mem_encodeEntries {entries : List (String × Value)} {m : String × Json}
    (inside : m ∈ Value.encodeEntries entries) :
    ∃ e ∈ entries, e.2.isPresent = true ∧ m.2 = e.2.encode := by
  induction entries with
  | nil => cases inside
  | cons e rest ih =>
    rw [encodeEntries_cons] at inside
    split at inside
    · rename_i present
      rcases List.mem_cons.mp inside with rfl | later
      · exact ⟨e, List.mem_cons_self, present, rfl⟩
      · obtain ⟨other, member, found⟩ := ih later
        exact ⟨other, List.mem_cons_of_mem _ member, found⟩
    · obtain ⟨other, member, found⟩ := ih inside
      exact ⟨other, List.mem_cons_of_mem _ member, found⟩

theorem encodeEntries_present {entries : List (String × Value)}
    (present : ∀ e ∈ entries, e.2.isPresent = true) :
    Value.encodeEntries entries = entries.map fun e => (e.1, e.2.encode) := by
  induction entries with
  | nil => rfl
  | cons e rest ih =>
    rw [List.forall_mem_cons] at present
    rw [encodeEntries_cons, if_pos present.1, ih present.2, List.map_cons]

theorem encodeEntries_fields {r : Record} {members : List (String × Json)} {fields : List Field}
    {entries : List (String × Value)} (declared : ∀ f ∈ fields, f ∈ r.fields)
    (reads : Forall₂ (fun f e => e.1 = f.name ∧ FieldReads members f e.2) fields entries)
    (each : ∀ f ∈ fields, ∀ x v, Json.lookup f.name members = some x → readShape x f.shape = .ok v →
      v.encode = encodeAt v f.shape) :
    Value.encodeEntries entries = writeFields fields (writtenEntries entries) := by
  induction reads with
  | nil => rfl
  | @cons f e fields entries here _ ih =>
    rw [List.forall_mem_cons] at declared each
    have same : e.2.isPresent = true → e.2.encode = encodeAt e.2 f.shape := by
      intro present
      obtain ⟨_, field⟩ := here
      generalize e.2 = v at field present
      cases field with
      | omitted missing optional => contradiction
      | implied missing constant =>
        obtain ⟨label, rfl⟩ := Record.constant_field declared.1 constant
        rfl
      | skipped found skipped => contradiction
      | given found kept inner => exact each.1 _ _ found inner
    rw [encodeEntries_cons, writeFields_cons, ih declared.2 each.2]
    split
    · rename_i present
      rw [same present]
    · rfl

/-- Whether a shape takes texts, integers and booleans alone. -/
def Shape.isLeaf : Shape → Bool
  | .text | .flag | .integer | .natural | .names | .choice _ | .operator _ | .tag _ => true
  | .json | .list _ | .map _ | .record _ | .tagged _ | .either _ _ => false

theorem encode_leaf {s : Shape} {d : Json} {v : Value} (leaf : s.isLeaf = true)
    (reads : readShape d s = .ok v) :
    v.encode = d := by
  cases s with
  | text =>
    obtain ⟨_, rfl, rfl⟩ := read_text_iff.mp reads
    rfl
  | flag =>
    obtain ⟨_, rfl, rfl⟩ := read_flag_iff.mp reads
    rfl
  | integer =>
    obtain ⟨_, rfl, rfl⟩ := read_integer_iff.mp reads
    rfl
  | natural =>
    obtain ⟨_, _, rfl, rfl⟩ := read_natural_iff.mp reads
    rfl
  | choice e =>
    obtain ⟨_, _, rfl, rfl⟩ := read_choice_iff.mp reads
    rfl
  | operator e =>
    obtain ⟨_, rfl, rfl⟩ := read_operator_iff.mp reads
    split <;> rfl
  | tag label =>
    obtain ⟨rfl, rfl⟩ := read_tag_iff.mp reads
    rfl
  | names =>
    obtain ⟨_, _, rfl, rfl⟩ := read_names_iff.mp reads
    rw [Value.encode, encodeItems_eq, List.map_map]
    rfl
  | _ => contradiction

theorem encode_of_read {s : Shape} {d : Json} {v : Value} (separated : s.separated = true)
    (reads : readShape d s = .ok v) : v.encode = encodeAt v s := by
  induction s, d using Shape.descend generalizing v with
  | list item d ih =>
    obtain ⟨items, vs, rfl, rfl, all⟩ := read_list_iff.mp reads
    have same : ∀ v ∈ vs, v.encode = encodeAt v item := by
      intro v inside
      obtain ⟨x, member, here⟩ := forall₂_partner all.flip inside
      exact ih x member separated here
    rw [encodeAt_list, Value.encode, encodeItems_eq, List.map_congr_left same]
  | map value d ih =>
    obtain ⟨members, entries, rfl, rfl, all⟩ := read_map_iff.mp reads
    have present : ∀ e ∈ entries, e.2.isPresent = true := by
      intro e inside
      obtain ⟨m, member, here⟩ := forall₂_partner all.flip inside
      exact isPresent_of_read here.2
    have same : ∀ e ∈ entries, (e.1, e.2.encode) = (e.1, encodeAt e.2 value) := by
      intro e inside
      obtain ⟨m, member, here⟩ := forall₂_partner all.flip inside
      rw [ih m member separated here.2]
    rw [encodeAt_map, Value.encode, encodeEntries_present present, List.map_congr_left same]
  | record r d ih =>
    obtain ⟨members, entries, rfl, rfl, all, _⟩ := read_record_iff.mp reads
    have fields : Value.encodeEntries entries = writeFields r.fields (writtenEntries entries) := by
      apply encodeEntries_fields (fun f member => member) all
      intro f member x v found inner
      exact ih f member x found (Record.fields_separated member) inner
    show (Json.obj (Value.encodeEntries entries)).withoutNonFinite = _
    rw [fields]
    rfl
  | tagged variants d ih =>
    obtain ⟨label, r, tag, found, inner⟩ := read_tagged_iff.mp reads
    obtain ⟨members, entries, rfl, rfl, _⟩ := read_record_iff.mp inner
    exact ih r (List.mem_of_find?_eq_some found) rfl inner
  | either first second d first_ih second_ih =>
    simp only [Shape.separated, Bool.and_eq_true] at separated
    obtain ⟨⟨first_separated, second_separated⟩, apart⟩ := separated
    rw [encodeAt_either]
    rcases read_either_iff.mp reads with here | ⟨none, here⟩
    · rw [if_pos (admits_of_read here)]
      exact first_ih first_separated here
    · rw [not_admits_of_apart apart here, if_neg Bool.false_ne_true]
      exact second_ih second_separated here
  | names d =>
    obtain ⟨words, _, rfl, rfl⟩ := read_names_iff.mp reads
    rw [encodeAt_names, Value.encode, encodeItems_eq, List.map_map]
    rfl
  | _ => cases v <;> rfl

end AgentWire
