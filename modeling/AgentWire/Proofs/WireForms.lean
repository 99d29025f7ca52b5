import AgentWire.Proofs.Rearranging

/-! What the written form of a value tells about it. Two decoded values are equal when their written
forms are, except that a single result set can be written as several are; and a value is written
alike by itself and through its type. -/
namespace AgentWire

open List (Forall₂)

/-! Shapes that look at the form of a document alone. -/

namespace Shape

/-- Whether no number or boolean is asked for, so that equal documents are both of the shape or
neither is. -/
def numberless : Shape → Bool
  | .flag | .integer | .natural | .tagged _ => false
  | .list item => item.numberless
  | .map value => value.numberless
  | .record r => r.closed
  | .either first second => first.numberless && second.numberless
  | _ => true

/-- Whether, in every union inside of a shape, the second shape takes texts, or whatever the form of
a document keeps from the first. -/
def formal : Shape → Bool
  | .list item => item.formal
  | .map value => value.formal
  | .either first second => first.formal && (second == .text || first.numberless && second == .json)
  | _ => true

end Shape

/-- Numbers and booleans are nowhere in the closed records but in values that are kept as they
are. -/
theorem Record.fields_numberless {r : Record} {f : Field} (closed : r.closed = true)
    (member : f ∈ r.fields) :
    f.shape.numberless = true := by
  rcases closed_iff.mp closed with rfl | rfl | rfl
  all_goals exact List.all_eq_true.mp (by decide : List.all _
    (fun f : Field => f.shape.numberless) = true) f member

theorem Record.fields_formal {r : Record} {f : Field} (member : f ∈ r.fields) :
    f.shape.formal = true := by
  have all : r.fields.all (·.shape.formal) = true := by cases r <;> decide
  exact List.all_eq_true.mp all f member

theorem WireType.formal_iff (t : WireType) : t.shape.formal = true ↔ t ≠ .alias .queryResponse := by
  rcases t with r | e | a
  · simp [shape, Shape.formal]
  · simp [shape, Shape.formal]
  · cases a <;> decide

theorem forall_iff_of_forall₂ {α β : Type} {p : α → Prop} {q : β → Prop} {l : List α} {u : List β}
    (all : Forall₂ (fun x y => p x ↔ q y) l u) : (∀ x ∈ l, p x) ↔ ∀ y ∈ u, q y := by
  induction all with
  | nil => simp
  | cons here _ ih => rw [List.forall_mem_cons, List.forall_mem_cons, here, ih]

theorem forall_iff_of_rel {α β : Type} {p : α → Prop} {q : β → Prop} {x : Option α} {y : Option β}
    (related : Option.Rel (fun a b => p a ↔ q b) x y) :
    (∀ a, x = some a → p a) ↔ ∀ b, y = some b → q b := by
  cases related with
  | none => simp
  | some here => simpa using here

theorem mem_keys_iff_of_rel {R : Json → Json → Prop} {members others : List (String × Json)}
    {key : String} (related : Option.Rel R (Json.lookup key members) (Json.lookup key others)) :
    key ∈ members.map (·.1) ↔ key ∈ others.map (·.1) := by
  rw [← not_iff_not, ← Json.lookup_eq_none_iff, ← Json.lookup_eq_none_iff]
  generalize Json.lookup key members = x at related ⊢
  generalize Json.lookup key others = y at related ⊢
  cases related <;> simp

/-! Equality keeps the form. -/

namespace Json

section Same

variable {x y : Json} (same : x.same y = true)

include same

theorem same_str_iff (w : String) : x = .str w ↔ y = .str w := by
  cases x <;> cases y <;> simp_all [Json.same, quantity?]

theorem same_null_iff : x.kind = .null ↔ y.kind = .null := by
  cases x <;> cases y <;> simp_all [Json.same, quantity?, kind]

theorem same_arrays :
    (∃ items others, x = .arr items ∧ y = .arr others ∧
      Forall₂ (fun x y => x.same y = true) items others) ∨
    x.kind ≠ .array ∧ y.kind ≠ .array := by
  cases x <;> cases y
  case arr.arr => exact .inl ⟨_, _, rfl, rfl, same_arr_iff.mp same⟩
  all_goals simp_all [Json.same, quantity?, kind]

theorem same_objects (distinct : x.Distinct) (others_distinct : y.Distinct) :
    (∃ members others, x = .obj members ∧ y = .obj others ∧
      ∀ key, Option.Rel (fun x y => x.same y = true) (lookup key members) (lookup key others)) ∨
    x.kind ≠ .object ∧ y.kind ≠ .object := by
  cases x <;> cases y
  case obj.obj =>
    exact .inl ⟨_, _, rfl, rfl, (same_obj_iff distinct.nodup others_distinct.nodup).mp same⟩
  all_goals simp_all [Json.same, quantity?, kind]

end Same

end Json

/-! Belonging, from the parts. -/

theorem belongs_names_iff {items : List Json} :
    Belongs .names (.arr items) ↔ items ≠ [] ∧ ∀ x ∈ items, Belongs .text x := by
  constructor
  · rintro ⟨⟩
    exact ⟨‹_›, ‹_›⟩
  · rintro ⟨some, texts⟩
    exact .names some texts

theorem belongs_list_iff {item : Shape} {items : List Json} :
    Belongs (.list item) (.arr items) ↔ ∀ x ∈ items, Belongs item x := by
  constructor
  · rintro ⟨⟩
    assumption
  · exact .list

theorem belongs_map_iff {value : Shape} {members : List (String × Json)}
    (distinct : (members.map (·.1)).Nodup) :
    Belongs (.map value) (.obj members) ↔
      ∀ key x, Json.lookup key members = some x → Belongs value x := by
  constructor
  · intro belongs key x found
    cases belongs with
    | map each => exact each (key, x) (Json.mem_of_lookup found)
  · exact fun each => .map fun m inside => each m.1 m.2 (Json.lookup_of_mem distinct inside)

theorem belongs_record_iff {r : Record} {members : List (String × Json)} :
    Belongs (.record r) (.obj members) ↔
      (∀ f ∈ r.fields, (f.need = .required → f.name ∈ members.map (·.1)) ∧
        ∀ x, Json.lookup f.name members = some x → ¬ f.skips x → Belongs f.shape x) ∧
      (r.closed = true → ∀ key, key ∈ members.map (·.1) → key ∈ r.fields.map (·.name)) := by
  constructor
  · intro belongs
    cases belongs with
    | record required given declared =>
      exact ⟨fun f member => ⟨required f member, given f member⟩,
        fun closed => List.forall_mem_map.mpr (declared closed)⟩
  · rintro ⟨each, declared⟩
    exact .record (fun f member => (each f member).1) (fun f member => (each f member).2)
      fun closed => List.forall_mem_map.mp (declared closed)

theorem belongs_either_iff {first second : Shape} {d : Json} :
    Belongs (.either first second) d ↔ Belongs first d ∨ Belongs second d := by
  constructor
  · intro belongs
    cases belongs with
    | first fits => exact .inl fits
    | second fits => exact .inr fits
  · rintro (fits | fits)
    · exact .first fits
    · exact .second fits

/-- Equal documents are both of a shape of texts, or neither is. -/
theorem belongs_iff_of_texts {s : Shape} {d other : Json}
    (texts : ∀ d, Belongs s d → ∃ w, d = .str w) (same : d.same other = true) :
    Belongs s d ↔ Belongs s other := by
  constructor
  · intro belongs
    obtain ⟨w, rfl⟩ := texts d belongs
    rwa [(Json.same_str_iff same w).mp rfl]
  · intro belongs
    obtain ⟨w, rfl⟩ := texts other belongs
    rwa [(Json.same_str_iff same w).mpr rfl]

/-- Equal documents are both of a shape that asks for no numbers, or neither is. -/
theorem belongs_iff_of_same {s : Shape} {d other : Json} (numberless : s.numberless = true)
    (distinct : d.Distinct) (others : other.Distinct) (same : d.same other = true) :
    Belongs s d ↔ Belongs s other := by
  induction s, d using Shape.descend generalizing other with
  | flag | integer | natural | tagged => cases numberless
  | json d => exact iff_of_true (.json d) (.json other)
  | names d =>
    rcases Json.same_arrays same with ⟨items, more, rfl, rfl, parts⟩ | ⟨no, none⟩
    · rw [belongs_names_iff, belongs_names_iff]
      have nonempty : items ≠ [] ↔ more ≠ [] := by
        rw [← List.length_pos_iff, ← List.length_pos_iff, parts.length_eq]
      refine and_congr nonempty (forall_iff_of_forall₂ (parts.imp fun x y related => ?_))
      exact belongs_iff_of_texts (by rintro _ ⟨⟩; exact ⟨_, rfl⟩) related
    · exact iff_of_false (by rintro ⟨⟩; exact no rfl) (by rintro ⟨⟩; exact none rfl)
  | list item d ih =>
    rcases Json.same_arrays same with ⟨items, more, rfl, rfl, parts⟩ | ⟨no, none⟩
    · rw [belongs_list_iff, belongs_list_iff]
      refine forall_iff_of_forall₂ (forall₂_inside parts fun x inside y there related => ?_)
      exact ih x inside numberless (Json.everywhere_items distinct inside)
        (Json.everywhere_items others there) related
    · exact iff_of_false (by rintro ⟨⟩; exact no rfl) (by rintro ⟨⟩; exact none rfl)
  | map value d ih =>
    rcases Json.same_objects same distinct others with ⟨members, more, rfl, rfl, parts⟩ | ⟨no, none⟩
    · rw [belongs_map_iff distinct.nodup, belongs_map_iff others.nodup]
      refine forall_congr' fun key =>
        forall_iff_of_rel (rel_inside (parts key) fun x y found other related => ?_)
      have member := Json.mem_of_lookup found
      exact ih _ member numberless (Json.everywhere_members distinct member)
        (Json.everywhere_members others (Json.mem_of_lookup other)) related
    · exact iff_of_false (by rintro ⟨⟩; exact no rfl) (by rintro ⟨⟩; exact none rfl)
  | record r d ih =>
    rcases Json.same_objects same distinct others with ⟨members, more, rfl, rfl, parts⟩ | ⟨no, none⟩
    · rw [belongs_record_iff, belongs_record_iff]
      have keys : ∀ key, key ∈ members.map (·.1) ↔ key ∈ more.map (·.1) :=
        fun key => mem_keys_iff_of_rel (parts key)
      simp only [keys]
      refine and_congr_left' (forall₂_congr fun f member => and_congr_right' ?_)
      refine forall_iff_of_rel (rel_inside (parts f.name) fun x y found other related => ?_)
      have inside := Json.mem_of_lookup found
      have fits := ih f member x found (Record.fields_numberless numberless member)
        (Json.everywhere_members distinct inside)
        (Json.everywhere_members others (Json.mem_of_lookup other)) related
      rw [fits, Field.skips, Field.skips, Json.same_null_iff related]
    · exact iff_of_false (by rintro ⟨⟩; exact no rfl) (by rintro ⟨⟩; exact none rfl)
  | either first second d first_ih second_ih =>
    rw [Shape.numberless, Bool.and_eq_true] at numberless
    rw [belongs_either_iff, belongs_either_iff, first_ih numberless.1 distinct others same,
      second_ih numberless.2 distinct others same]
  | _ => exact belongs_iff_of_texts (by rintro _ ⟨⟩; exact ⟨_, rfl⟩) same

/-! Values and normal forms, shape by shape. -/

theorem Shape.settled_of_formal {s : Shape} (formal : s.formal = true) : s.settled = true := by
  induction s with
  | list item ih => exact ih formal
  | map value ih => exact ih formal
  | either first second first_ih _ =>
    simp only [Shape.formal, Bool.and_eq_true, Bool.or_eq_true, beq_iff_eq] at formal
    simp only [Shape.settled, Bool.and_eq_true, Bool.or_eq_true, beq_iff_eq]
    exact ⟨first_ih formal.1, formal.2.imp_right And.right⟩
  | _ => rfl

theorem normal_leaf {s : Shape} (leaf : s.isLeaf = true) (d : Json) : normal s d = d := by
  cases s with
  | list | map | record | tagged | either => cases leaf
  | _ => rw [normal.eq_def]

theorem forall₂_iff_inside {α β : Type} {R S : α → β → Prop} {l : List α} {u : List β}
    (each : ∀ x ∈ l, ∀ y ∈ u, (R x y ↔ S x y)) : Forall₂ R l u ↔ Forall₂ S l u :=
  ⟨fun all => forall₂_inside all fun x inside y there => (each x inside y there).mp,
    fun all => forall₂_inside all fun x inside y there => (each x inside y there).mpr⟩

theorem rel_map_iff {R : Json → Json → Prop} {α : Type} {S : α → α → Prop} {f g : α → Json}
    {x y : Option α} (each : ∀ a b, x = some a → y = some b → (S a b ↔ R (f a) (g b))) :
    Option.Rel S x y ↔ Option.Rel R (x.map f) (y.map g) := by
  cases x <;> cases y <;> simp_all

/-- How the value of a field is written: not at all, or as a document with this value. -/
theorem FieldReads.written {r : Record} {f : Field} {members : List (String × Json)} {v : Value}
    (reads : FieldReads members f v) (declared : f ∈ r.fields) :
    v = .absent ∧ normalField f members = none ∨
    ∃ x, normalField f members = some (f.name, normal f.shape x) ∧ readShape x f.shape = .ok v ∧
      (Json.lookup f.name members = some x ∨ f.shape.isLeaf = true) := by
  cases reads with
  | omitted missing optional =>
    exact .inl ⟨rfl, by rw [normalField_none missing, Field.impliedMember, optional]⟩
  | implied missing constant =>
    obtain ⟨label, rfl⟩ := Record.constant_field declared constant
    refine .inr ⟨.str label, ?_, read_tag_iff.mpr ⟨rfl, rfl⟩, .inr rfl⟩
    rw [normalField_none missing, normal_leaf rfl]
    rfl
  | skipped found skipped => exact .inl ⟨rfl, normalField_skipped found skipped⟩
  | given found kept inner => exact .inr ⟨_, normalField_given found kept, inner, .inl found⟩

theorem Value.absent_same {w : Value} (present : w.isPresent = true) :
    Value.absent.same w = false ∧ w.same .absent = false := by
  cases w with
  | absent => contradiction
  | _ => exact ⟨rfl, rfl⟩

section Records

variable {r : Record} {members others : List (String × Json)}

/-- Two values of a field are equal when they are written alike. -/
theorem same_field_iff {f : Field} {v w : Value} (declared : f ∈ r.fields)
    (here : FieldReads members f v) (there : FieldReads others f w)
    (each : ∀ x y, Json.lookup f.name members = some x → Json.lookup f.name others = some y →
      readShape x f.shape = .ok v → readShape y f.shape = .ok w →
      (v.same w = true ↔ (normal f.shape x).same (normal f.shape y) = true)) :
    v.same w = true ↔ Option.Rel (fun x y => x.same y = true) ((normalField f members).map (·.2))
      ((normalField f others).map (·.2)) := by
  rcases here.written declared with ⟨rfl, nothing⟩ | ⟨x, form, reads, source⟩
  · rcases there.written declared with ⟨rfl, other_nothing⟩ | ⟨y, other_form, other_reads, _⟩
    · rw [nothing, other_nothing]
      exact iff_of_true rfl .none
    · rw [nothing, other_form, (Value.absent_same (isPresent_of_read other_reads)).1]
      simp
  · rcases there.written declared with ⟨rfl, other_nothing⟩ | ⟨y, other_form,
      other_reads, other_source⟩
    · rw [form, other_nothing, (Value.absent_same (isPresent_of_read reads)).2]
      simp
    · rw [form, other_form]
      simp only [Option.map_some, Option.rel_some_some]
      by_cases leaf : f.shape.isLeaf = true
      · rw [normal_leaf leaf, normal_leaf leaf]
        exact same_leaf_iff leaf reads other_reads
      · exact each x y (source.resolve_right leaf) (other_source.resolve_right leaf)
          reads other_reads

theorem same_normalMembers_iff :
    (Json.obj (normalMembers r members)).same (.obj (normalMembers r others)) = true ↔
      ∀ f ∈ r.fields, Option.Rel (fun x y => x.same y = true) ((normalField f members).map (·.2))
        ((normalField f others).map (·.2)) := by
  rw [Json.same_obj_iff (normalMembers_nodup r members) (normalMembers_nodup r others)]
  constructor
  · intro each f declared
    rw [← lookup_normalMembers members declared, ← lookup_normalMembers others declared]
    exact each f.name
  · intro each key
    by_cases named : key ∈ r.fields.map (·.name)
    · obtain ⟨f, declared, rfl⟩ := List.mem_map.mp named
      rw [lookup_normalMembers members declared, lookup_normalMembers others declared]
      exact each f declared
    · have nowhere : ∀ members, Json.lookup key (normalMembers r members) = none := by
        intro members
        rw [Json.lookup_eq_none_iff]
        intro inside
        obtain ⟨m, member, rfl⟩ := List.mem_map.mp inside
        exact named (declared_of_normalMembers m member)
      rw [nowhere, nowhere]
      exact .none

/-- The label of a variant is written. -/
theorem lookup_label {label : String} (named : r.label? = some label)
    (tag : Json.lookup "type" members = some (.str label)) :
    Json.lookup "type" (normalMembers r members) = some (.str label) := by
  have found : Json.lookup (variant label).name members = some (.str label) := tag
  have there := lookup_normalMembers members (Record.variant_mem_fields named)
  rwa [normalField_given found (variant_not_skips label _), Option.map_some,
    normal_leaf rfl] at there

/-- Objects of variants with different labels are written differently. -/
theorem not_same_of_labels {q : Record} {label other_label : String} (named : r.label? = some label)
    (other_named : q.label? = some other_label)
    (tag : Json.lookup "type" members = some (.str label))
    (other_tag : Json.lookup "type" others = some (.str other_label))
    (different : label ≠ other_label) :
    ¬ (Json.obj (normalMembers r members)).same (.obj (normalMembers q others)) = true := by
  rw [Json.same_obj_iff (normalMembers_nodup _ _) (normalMembers_nodup _ _)]
  intro equal
  have labels := equal "type"
  rw [lookup_label named tag, lookup_label other_named other_tag, Option.rel_some_some] at labels
  exact different (by simpa [Json.same] using labels)

end Records

/-- Equal values are of one outermost form. -/
theorem admits_of_same {s : Shape} {v w : Value} (same : v.same w = true) :
    s.admits v = s.admits w := by
  induction s with
  | either first second first_ih second_ih => rw [Shape.admits, Shape.admits, first_ih, second_ih]
  | _ => cases v <;> cases w <;> simp_all [Value.same, Shape.admits]

section Unions

variable {first second : Shape}
  (keeping : second = .text ∨ first.numberless = true ∧ second = .json)

include keeping

theorem normal_keeping (d : Json) : normal second d = d := by
  rcases keeping with rfl | ⟨_, rfl⟩ <;> rw [normal.eq_def]

/-- Of two equal documents, one of which the second shape takes, both are of the first shape or
neither is. -/
theorem belongs_first_iff {d other : Json} (distinct : d.Distinct) (others : other.Distinct)
    (same : d.same other = true) (kept : Belongs second d ∨ Belongs second other) :
    Belongs first d ↔ Belongs first other := by
  rcases keeping with rfl | ⟨numberless, rfl⟩
  · rcases kept with text | text
    · cases text with
      | text w => rw [(Json.same_str_iff same w).mp rfl]
    · cases text with
      | text w => rw [(Json.same_str_iff same w).mpr rfl]
  · exact belongs_iff_of_same numberless distinct others same

/-- Where one value comes from the first shape and another one from the second, they differ, and so
do the forms in which they are written. -/
theorem branches_differ {d other : Json} {v w : Value} (separated : first.separated = true)
    (settled : first.settled = true) (apart : first.apart second = true) (distinct : d.Distinct)
    (others : other.Distinct) (reads : readShape d first = .ok v)
    (other_reads : readShape other second = .ok w) (none : ∀ u, readShape other first ≠ .ok u) :
    (¬ v.same w = true ∧ ¬ (normal first d).same (normal second other) = true) ∧
      ¬ w.same v = true ∧ ¬ (normal second other).same (normal first d) = true := by
  have taken : first.admits v = true := admits_of_read reads
  have refused : first.admits w = false := not_admits_of_apart apart other_reads
  have form := distinct_normal (s := first) distinct
  have fits := belongs_of_read (read_normal separated settled reads)
  have kept := belongs_of_read other_reads
  have outside : ¬ Belongs first other := by
    rw [← read_iff_belongs separated]
    rintro ⟨u, first_reads⟩
    exact none u first_reads
  rw [normal_keeping keeping]
  refine ⟨⟨fun same => ?_, fun same => ?_⟩, fun same => ?_, fun same => ?_⟩
  · simp [admits_of_same same, refused] at taken
  · exact outside ((belongs_first_iff keeping form others same (.inr kept)).mp fits)
  · simp [← admits_of_same same, refused] at taken
  · exact outside ((belongs_first_iff keeping others form same (.inl kept)).mpr fits)

end Unions

/-- Two values are equal when the normal forms of their documents are. -/
theorem same_iff_normal {s : Shape} {d other : Json} {v w : Value} (separated : s.separated = true)
    (formal : s.formal = true) (distinct : d.Distinct) (others : other.Distinct)
    (reads : readShape d s = .ok v) (other_reads : readShape other s = .ok w) :
    v.same w = true ↔ (normal s d).same (normal s other) = true := by
  induction s, d using Shape.descend generalizing other v w with
  | json d =>
    cases read_json.symm.trans reads
    cases read_json.symm.trans other_reads
    rw [normal.eq_def, normal.eq_def]
    exact Iff.rfl
  | list item d ih =>
    obtain ⟨items, vs, rfl, rfl, all⟩ := read_list_iff.mp reads
    obtain ⟨more, ws, rfl, rfl, all_others⟩ := read_list_iff.mp other_reads
    rw [same_items_iff all all_others, normal, normal, Json.same_arr_iff, List.forall₂_map_left_iff,
      List.forall₂_map_right_iff]
    refine forall₂_iff_inside fun x inside y there => ?_
    obtain ⟨v, _, here⟩ := forall₂_partner all inside
    obtain ⟨w, _, found⟩ := forall₂_partner all_others there
    rw [sameRead_iff here found]
    exact ih x inside separated formal (Json.everywhere_items distinct inside)
      (Json.everywhere_items others there) here found
  | map value d ih =>
    obtain ⟨members, entries, rfl, rfl, all⟩ := read_map_iff.mp reads
    obtain ⟨more, more_entries, rfl, rfl, all_others⟩ := read_map_iff.mp other_reads
    have forms := distinct_normal (s := .map value) distinct
    have other_forms := distinct_normal (s := .map value) others
    rw [normal] at forms other_forms
    rw [same_entries_iff all all_others distinct.nodup others.nodup, normal, normal,
      Json.same_obj_iff forms.nodup other_forms.nodup]
    refine forall_congr' fun key => ?_
    rw [Json.lookup_map, Json.lookup_map]
    refine rel_map_iff fun x y found other => ?_
    have inside := Json.mem_of_lookup found
    have there := Json.mem_of_lookup other
    obtain ⟨e, _, _, here⟩ := forall₂_partner all inside
    obtain ⟨u, _, _, more_here⟩ := forall₂_partner all_others there
    rw [sameRead_iff here more_here]
    exact ih _ inside separated formal (Json.everywhere_members distinct inside)
      (Json.everywhere_members others there) here more_here
  | record r d ih =>
    obtain ⟨members, entries, rfl, rfl, all, _⟩ := read_record_iff.mp reads
    obtain ⟨more, more_entries, rfl, rfl, all_others, _⟩ := read_record_iff.mp other_reads
    rw [same_fields_iff all all_others, normal, normal, same_normalMembers_iff]
    refine forall₂_congr fun f member => ?_
    obtain ⟨_, _, _, here⟩ := forall₂_partner all member
    obtain ⟨_, _, _, there⟩ := forall₂_partner all_others member
    rw [← same_field_iff member here there]
    · refine ⟨fun each => each _ _ here there, fun same v w first second => ?_⟩
      cases first.unique here
      cases second.unique there
      exact same
    · intro x y found other inner other_inner
      have inside := Json.mem_of_lookup found
      exact ih f member x found (Record.fields_separated member) (Record.fields_formal member)
        (Json.everywhere_members distinct inside)
        (Json.everywhere_members others (Json.mem_of_lookup other)) inner other_inner
  | tagged variants d ih =>
    obtain ⟨label, r, tag, found, inner⟩ := read_tagged_iff.mp reads
    obtain ⟨other_label, q, other_tag, other_found, other_inner⟩ := read_tagged_iff.mp other_reads
    rw [normal_tagged tag found, normal_tagged other_tag other_found]
    by_cases same : r = q
    · subst same
      exact ih r (List.mem_of_find?_eq_some found) rfl rfl distinct others inner other_inner
    · obtain ⟨members, _, rfl, rfl, _⟩ := read_record_iff.mp inner
      obtain ⟨more, _, rfl, rfl, _⟩ := read_record_iff.mp other_inner
      have different : label ≠ other_label := by
        rintro rfl
        exact same (Option.some.inj (found.symm.trans other_found))
      rw [normal, normal]
      refine iff_of_false (by simp [Value.same, same]) ?_
      exact not_same_of_labels (variantOf_eq_some found).2 (variantOf_eq_some other_found).2 tag
        other_tag different
  | either first second d first_ih second_ih =>
    simp only [Shape.separated, Bool.and_eq_true] at separated
    simp only [Shape.formal, Bool.and_eq_true, Bool.or_eq_true, beq_iff_eq] at formal
    obtain ⟨⟨first_separated, second_separated⟩, apart⟩ := separated
    obtain ⟨first_formal, keeping⟩ := formal
    have second_formal : second.formal = true := by rcases keeping with rfl | ⟨_, rfl⟩ <;> rfl
    have settled := Shape.settled_of_formal first_formal
    rcases read_either_iff.mp reads with here | ⟨none, here⟩
    · rw [normal_first first_separated here]
      rcases read_either_iff.mp other_reads with there | ⟨no_other, there⟩
      · rw [normal_first first_separated there]
        exact first_ih first_separated first_formal distinct others here there
      · rw [normal_second first_separated no_other]
        obtain ⟨⟨values, forms⟩, _⟩ :=
          branches_differ keeping first_separated settled apart distinct others here there no_other
        exact iff_of_false values forms
    · rw [normal_second first_separated none]
      rcases read_either_iff.mp other_reads with there | ⟨no_other, there⟩
      · rw [normal_first first_separated there]
        obtain ⟨_, values, forms⟩ :=
          branches_differ keeping first_separated settled apart others distinct there here none
        exact iff_of_false values forms
      · rw [normal_second first_separated no_other]
        exact second_ih second_separated second_formal distinct others here there
  | _ =>
    rw [normal_leaf rfl, normal_leaf rfl]
    exact same_leaf_iff rfl reads other_reads

/-! The answer to a query, whose two forms overlap. -/

/-- One of two values is an answer of several result sets, and the other a single one that is
written so. -/
def Overlap (v w : Value) : Prop :=
  (∃ fields, v = .record .forEachResponse fields) ∧ LooksForEach w ∨
    LooksForEach v ∧ ∃ fields, w = .record .forEachResponse fields

theorem not_looksForEach {fields : List (String × Value)} :
    ¬ LooksForEach (.record .forEachResponse fields) := by
  rintro ⟨_, looks, _⟩
  cases looks

/-- A single result set is written as several are only if it looks like them. -/
theorem looksForEach_of_same {d other : Json} {v w : Value} (distinct : d.Distinct)
    (others : other.Distinct) (reads : readShape d (.record .forEachResponse) = .ok v)
    (other_reads : readShape other (.record .responseRow) = .ok w)
    (same : (normal (.record .forEachResponse) d).same (normal (.record .responseRow) other) =
      true ∨
      (normal (.record .responseRow) other).same (normal (.record .forEachResponse) d) = true) :
    LooksForEach w := by
  have fits := belongs_of_read (read_normal rfl rfl reads)
  have form := distinct_normal (s := .record .forEachResponse) distinct
  have other_form := distinct_normal (s := .record .responseRow) others
  rw [← belongs_forEachResponse_normal other_reads]
  rcases same with same | same
  · exact (belongs_iff_of_same rfl form other_form same).mp fits
  · exact (belongs_iff_of_same rfl other_form form same).mpr fits

theorem same_iff_normal_queryResponse {d other : Json} {v w : Value} (distinct : d.Distinct)
    (others : other.Distinct) (reads : readShape d Alias.queryResponse.shape = .ok v)
    (other_reads : readShape other Alias.queryResponse.shape = .ok w) :
    v.same w = true ↔
      (normal Alias.queryResponse.shape d).same (normal Alias.queryResponse.shape other) = true ∧
        ¬ Overlap v w := by
  rw [Alias.shape] at *
  rcases read_either_iff.mp reads with here | ⟨none, here⟩
  · rw [normal_first rfl here]
    obtain ⟨_, fields, _, rfl, _⟩ := read_record_iff.mp here
    rcases read_either_iff.mp other_reads with there | ⟨no_other, there⟩
    · rw [normal_first rfl there, same_iff_normal rfl rfl distinct others here there, iff_self_and]
      obtain ⟨_, _, _, rfl, _⟩ := read_record_iff.mp there
      rintro _ (⟨_, looks⟩ | ⟨looks, _⟩)
      · exact not_looksForEach looks
      · exact not_looksForEach looks
    · rw [normal_second rfl no_other]
      have looks := fun same => looksForEach_of_same distinct others here there (.inl same)
      obtain ⟨_, _, _, rfl, _⟩ := read_record_iff.mp there
      refine iff_of_false (by simp [Value.same]) ?_
      rintro ⟨same, apart⟩
      exact apart (.inl ⟨⟨fields, rfl⟩, looks same⟩)
  · rw [normal_second rfl none]
    rcases read_either_iff.mp other_reads with there | ⟨no_other, there⟩
    · rw [normal_first rfl there]
      have looks := fun same => looksForEach_of_same others distinct there here (.inr same)
      obtain ⟨_, _, _, rfl, _⟩ := read_record_iff.mp here
      obtain ⟨_, fields, _, rfl, _⟩ := read_record_iff.mp there
      refine iff_of_false (by simp [Value.same]) ?_
      rintro ⟨same, apart⟩
      exact apart (.inr ⟨looks same, fields, rfl⟩)
    · rw [normal_second rfl no_other, same_iff_normal rfl rfl distinct others here there,
        iff_self_and]
      obtain ⟨_, _, _, rfl, _⟩ := read_record_iff.mp here
      obtain ⟨_, _, _, rfl, _⟩ := read_record_iff.mp there
      rintro _ (⟨⟨_, same⟩, _⟩ | ⟨_, _, same⟩) <;> cases same

/-- Two decoded values of a type are equal exactly if their written forms are, except that a single
result set is never equal to several, even where it is written as they are. -/
theorem same_iff_encoded (t : WireType) (d other : Json) (v w : Value) (distinct : d.Distinct)
    (others : other.Distinct) (finite : d.Finite) (others_finite : other.Finite)
    (decoded : decode t.shape d = .ok v) (other_decoded : decode t.shape other = .ok w) :
    v.same w = true ↔ (encodeAt v t.shape).same (encodeAt w t.shape) = true ∧
      ¬ (t = .alias .queryResponse ∧ Overlap v w) := by
  have reads := decode_eq_ok_iff.mp decoded
  have other_reads := decode_eq_ok_iff.mp other_decoded
  rw [encode_read t.separated finite reads, encode_read t.separated others_finite other_reads]
  by_cases formal : t.shape.formal = true
  · rw [same_iff_normal t.separated formal distinct others reads other_reads]
    exact (and_iff_left fun both => t.formal_iff.mp formal both.1).symm
  · rw [WireType.formal_iff, not_not] at formal
    subst formal
    rw [same_iff_normal_queryResponse distinct others reads other_reads, and_iff_right rfl]
    exact Iff.rfl

/-- The same scalar, as an integer, and as a double in another order. -/
def integralScalar : Json :=
  .obj [("value", .int 1), ("value_type", .str "Int")]

def doubleScalar : Json :=
  .obj [("value_type", .str "Int"), ("note", .null), ("value", .num 1.0)]

theorem same_iff_encoded_scalar :
    integralScalar.Distinct ∧ doubleScalar.Distinct ∧ integralScalar.Finite ∧ doubleScalar.Finite ∧
      ∃ v w, decode (.record .scalarValue) integralScalar = .ok v ∧
        decode (.record .scalarValue) doubleScalar = .ok w ∧
        v.same w = true ∧
        (encodeAt v (.record .scalarValue)).same (encodeAt w (.record .scalarValue)) = true := by
  have distinct : integralScalar.Distinct := by decide
  have others : doubleScalar.Distinct := by decide
  have finite : integralScalar.Finite := by decide
  have others_finite : doubleScalar.Finite := by decide
  have decoded : decode (.record .scalarValue) integralScalar =
      .ok (.record .scalarValue [("value", .json (.int 1)), ("value_type", .text "Int")]) := rfl
  have other_decoded : decode (.record .scalarValue) doubleScalar =
      .ok (.record .scalarValue [("value", .json (.num 1.0)), ("value_type", .text "Int")]) := rfl
  have same : (Value.record .scalarValue [("value", .json (.int 1)),
      ("value_type", .text "Int")]).same
      (.record .scalarValue [("value", .json (.num 1.0)), ("value_type", .text "Int")]) =
      true := by decide
  have forms :=
    (same_iff_encoded (.record .scalarValue) _ _ _ _ distinct others finite others_finite decoded
      other_decoded).mp same
  exact ⟨distinct, others, finite, others_finite, _, _, decoded, other_decoded, same, forms.1⟩

/-- An empty answer of several result sets is written as an empty result set is. -/
theorem same_iff_encoded_differs :
    ¬ ∀ (t : WireType) (d other : Json) (v w : Value), d.Distinct → other.Distinct → d.Finite →
      other.Finite → decode t.shape d = .ok v → decode t.shape other = .ok w →
      (v.same w = true ↔ (encodeAt v t.shape).same (encodeAt w t.shape) = true) := by
  intro always
  have equal := always (.alias .queryResponse) (.obj [("rows", .arr [])])
    (.obj [("aggregates", .null), ("rows", .arr [])])
    (.record .forEachResponse [("rows", .list [])])
    (.record .responseRow [("aggregates", .absent), ("rows", .list [])]) (by decide) (by decide)
    (by decide) (by decide) rfl rfl
  exact absurd (equal.mpr rfl) (by decide)

/-! Writing a value by itself. -/

/-- A decoded value is written alike by itself and through its type. -/
theorem encodeAlone_decoded (t : WireType) (d : Json) (v : Value) (finite : d.Finite)
    (decoded : decode t.shape d = .ok v) : v.encodeAlone = encodeAt v t.shape := by
  have reads := decode_eq_ok_iff.mp decoded
  have form : (encodeAt v t.shape).Finite := by
    rw [encode_read t.separated finite reads]
    exact finite_normal finite
  rw [← encode_of_read t.separated reads] at form ⊢
  -- Only parts that are kept as they are lose anything by themselves, and these are finite.
  unfold Value.encodeAlone
  split
  · exact withoutNonFinite_of_finite form
  · exact withoutNonFinite_of_finite form
  · rfl

theorem encodeAlone_decoded_aggregated : aggregatedAnswer.Finite ∧
    decode Alias.queryResponse.shape aggregatedAnswer = .ok aggregatedRow ∧
      aggregatedRow.encodeAlone = encodeAt aggregatedRow Alias.queryResponse.shape := by
  have finite : aggregatedAnswer.Finite := by decide
  have decoded : decode Alias.queryResponse.shape aggregatedAnswer = .ok aggregatedRow := rfl
  exact ⟨finite, decoded, encodeAlone_decoded (.alias .queryResponse) aggregatedAnswer
    aggregatedRow finite decoded⟩

end AgentWire
