import AgentWire.OpenApi.Component
import AgentWire.Proofs.Language
import AgentWire.Proofs.SchemaVerdicts

/-! The exported schema of a shape admits every document of the shape, as long as the components
hold what the schema refers to. Of a tagged union only the variant that the label names admits the
document. -/
namespace AgentWire

open Json Verdict

/-! The members a schema is written with. -/

theorem mem_placeMember {key : String} {value : Json} {members : List (String × Json)}
    {m : String × Json} :
    m ∈ placeMember key value members ↔ m = (key, value) ∨ m ∈ members := by
  induction members with
  | nil => simp [placeMember]
  | cons n rest ih =>
    obtain ⟨k, v⟩ := n
    rw [placeMember]
    split
    · exact List.mem_cons
    · rw [List.mem_cons, ih, List.mem_cons]
      exact or_left_comm

theorem mem_arrange (order : KeyOrder) {members : List (String × Json)} {m : String × Json} :
    m ∈ order.arrange members ↔ m ∈ members := by
  cases order with
  | listed => exact Iff.rfl
  | sorted =>
    induction members with
    | nil => exact Iff.rfl
    | cons n rest ih =>
      show m ∈ placeMember n.1 n.2 (KeyOrder.sorted.arrange rest) ↔ _
      rw [mem_placeMember, ih, List.mem_cons]

theorem lookup_placeMember {key other : String} (different : other ≠ key) (value : Json)
    (members : List (String × Json)) :
    lookup key (placeMember other value members) = lookup key members := by
  induction members with
  | nil => exact if_neg different
  | cons n rest ih =>
    obtain ⟨k, v⟩ := n
    rw [placeMember]
    split
    · rw [lookup_cons, if_neg different]
    · rw [lookup_cons, lookup_cons, ih]

/-- The keywords of schemas that are no definitions. -/
def Schema.keywords : List String :=
  ["$ref", "type", "maximum", "minimum", "const", "items", "minItems", "additionalProperties",
   "oneOf", "discriminator", "anyOf"]

theorem Schema.keyword_mem {s : Schema} {order : KeyOrder} {m : String × Json}
    (inside : m ∈ s.members order) :
    m.1 ∈ Schema.keywords := by
  have arranged : ∀ members : List (String × Json), (∀ n ∈ members, n.1 ∈ Schema.keywords) →
      m ∈ order.arrange members → m.1 ∈ Schema.keywords :=
    fun members each there => each m ((mem_arrange order).mp there)
  cases s with
  | array items atLeast =>
    refine arranged _ ?_ inside
    split <;> simp [Schema.keywords]
  | between low high => exact arranged _ (by simp [Schema.keywords]) inside
  | const word => exact arranged _ (by simp [Schema.keywords]) inside
  | map values => exact arranged _ (by simp [Schema.keywords]) inside
  | oneOf variants => exact arranged _ (by simp [Schema.keywords]) inside
  | _ =>
    simp only [Schema.members, List.mem_singleton] at inside
    subst inside
    simp [Schema.keywords]

theorem Schema.declared_members (s : Schema) (order : KeyOrder) :
    declared (s.members order) = [] := by
  have missing : lookup "properties" (s.members order) = none := by
    rw [lookup_eq_none_iff]
    intro named
    obtain ⟨m, inside, name⟩ := List.mem_map.mp named
    have known := Schema.keyword_mem inside
    rw [name] at known
    exact absurd known (by decide)
  rw [declared, missing]

def Schema.written (s : Schema) (order : KeyOrder) : Json :=
  .obj (s.members order)

section Admission

variable {components : List (String × Json)} {order : KeyOrder} {d : Json}

theorem admits_written_iff {s : Schema} : Admits components (s.written order) d ↔
    ∀ k ∈ s.members order, Yields components [] k d true := by
  rw [Schema.written, admits_iff, Schema.declared_members]

/-- A schema that names a kind and nothing else admits what is of the kind. -/
theorem admits_kind {s : Schema} (plain : s.members order = [("type", .str d.kind.name)]) :
    Admits components (s.written order) d := by
  rw [admits_written_iff, plain]
  intro k inside
  cases List.mem_singleton.mp inside
  exact yields_type rfl

theorem admits_between {low high i : Int} (lower : low ≤ i) (upper : i ≤ high) :
    Admits components ((Schema.between low high).written order) (.int i) := by
  rw [admits_written_iff]
  intro k inside
  rw [Schema.members, mem_arrange] at inside
  simp only [List.mem_cons, List.not_mem_nil, or_false] at inside
  rcases inside with rfl | rfl | rfl
  · exact yields_type rfl
  · exact settles_of_always fun _ => congrArg some (decide_eq_true upper)
  · exact settles_of_always fun _ => congrArg some (decide_eq_true lower)

theorem admits_const (word : String) :
    Admits components ((Schema.const word).written order) (.str word) := by
  rw [admits_written_iff]
  intro k inside
  rw [Schema.members, mem_arrange, List.mem_pair] at inside
  rcases inside with rfl | rfl
  · exact yields_const (beq_self_eq_true word)
  · exact yields_type rfl

theorem admits_array {item : Schema} {items : List Json} {atLeast : Nat}
    (enough : atLeast ≤ items.length)
    (each : ∀ x ∈ items, Admits components (item.written order) x) :
    Admits components ((Schema.array item atLeast).written order) (.arr items) := by
  rw [admits_written_iff]
  intro k inside
  rw [Schema.members, mem_arrange, List.mem_append, List.mem_pair] at inside
  rcases inside with (rfl | rfl) | bound
  · exact yields_type rfl
  · exact yields_items each
  · split at bound
    · cases bound
    · cases List.mem_singleton.mp bound
      exact yields_minItems enough

theorem admits_map {value : Schema} {members : List (String × Json)}
    (each : ∀ m ∈ members, Admits components (value.written order) m.2) :
    Admits components ((Schema.map value).written order) (.obj members) := by
  rw [admits_written_iff]
  intro k inside
  rw [Schema.members, mem_arrange, List.mem_pair] at inside
  rcases inside with rfl | rfl
  · exact yields_type rfl
  · exact yields_additional fun m member _ => each m member

theorem admits_anyOf {first second : Schema}
    (admits : Admits components (first.written order) d ∨
      Admits components (second.written order) d) :
    Admits components ((Schema.anyOf first second).written order) d := by
  rw [admits_written_iff]
  intro k inside
  cases List.mem_singleton.mp inside
  rcases admits with here | there
  · exact yields_anyOf List.mem_cons_self here
  · exact yields_anyOf (List.mem_cons_of_mem _ List.mem_cons_self) there

end Admission

/-! Definitions. -/

/-- The components hold some definitions and all that these mention. -/
structure Publishes (components : List (String × Json)) (published : Definition → Prop) : Prop where
  closed : ∀ δ, published δ → ∀ ε ∈ δ.mentions, published ε
  resolved : ∀ δ, published δ → resolve components (Schema.componentRef δ.name) = some δ.toJson

section Definitions

variable {components : List (String × Json)} {published : Definition → Prop}
  (holds : Publishes components published) {order : KeyOrder} {d : Json}

include holds in
theorem admits_ref {δ : Definition} (there : published δ) :
    Admits components (Schema.refTo δ.name) d ↔ Admits components δ.toJson d :=
  settles_ref (holds.resolved δ there)

include holds in
theorem refuses_ref {δ : Definition} (there : published δ) :
    Refuses components (Schema.refTo δ.name) d ↔ Refuses components δ.toJson d :=
  settles_ref (holds.resolved δ there)

theorem admits_freeJson (d : Json) : Admits components Definition.freeJson.toJson d := by
  refine admits_iff.mpr ?_
  intro k inside
  cases inside

theorem yields_describe {description : Option String} {known : List String} {k : String × Json}
    (inside : k ∈ Definition.describe description) : Yields components known k d true := by
  cases description with
  | none => cases inside
  | some text =>
    cases List.mem_singleton.mp inside
    exact yields_remark (by simp)

theorem admits_enumeration {e : Enumeration} {word : String} (known : word ∈ e.words) :
    Admits components (Definition.enumeration e).toJson (.str word) := by
  refine admits_iff.mpr ?_
  intro k inside
  rw [List.mem_append] at inside
  rcases inside with described | inside
  · exact yields_describe described
  · simp only [List.mem_cons, List.not_mem_nil, or_false] at inside
    rcases inside with rfl | rfl | rfl
    · exact yields_enum known
    · exact yields_remark (by simp)
    · exact yields_type rfl

/-- The properties of a record are those that its definition declares. -/
theorem declared_record (r : Record) :
    ∃ keywords, (Definition.record r).toJson = .obj keywords ∧
      declared keywords = r.fields.map (·.name) ∧
      ("properties", Json.obj (r.fields.map fun f => (f.name, f.property))) ∈ keywords ∧
      ∀ k ∈ keywords, k = ("properties", .obj (r.fields.map fun f => (f.name, f.property))) ∨
        k ∈ Definition.describe r.declaration.description ∨ k = ("title", .str r.name) ∨
        k = ("type", .str "object") ∨
        (r.closed = true ∧ k = ("additionalProperties", .bool false)) ∨
        k =
          ("required", .arr (((r.fields.filter (·.need = .required)).map (·.name)).map .str)) := by
  refine ⟨_, rfl, ?_, ?_, ?_⟩
  · have found : ∀ rest, lookup "properties"
      ((if r.closed then [("additionalProperties", Json.bool false)] else []) ++
        Definition.describe r.declaration.description ++
        [("properties", Json.obj (r.fields.map fun f => (f.name, f.property)))] ++ rest) =
        some (.obj (r.fields.map fun f => (f.name, f.property))) := by
      intro rest
      cases r.closed <;> cases r.declaration.description <;> rfl
    rw [declared, List.append_assoc, found]
    simp
  · simp
  · intro k inside
    simp only [List.mem_append, List.mem_cons, List.not_mem_nil, or_false] at inside
    rcases inside with (((closed | described) | properties) | required) | title | type
    · split at closed
      · rename_i yes
        exact .inr (.inr (.inr (.inr (.inl ⟨yes, List.mem_singleton.mp closed⟩))))
      · cases closed
    · exact .inr (.inl described)
    · exact .inl properties
    · split at required
      · cases required
      · rw [List.map_map]
        exact .inr (.inr (.inr (.inr (.inr (List.mem_singleton.mp required)))))
    · exact .inr (.inr (.inl title))
    · exact .inr (.inr (.inr (.inl type)))

/-- An annotation changes no verdict. -/
theorem judge_placed {key : String} {value : Json} {keywords : List (String × Json)}
    (remark : key ∈ ["title", "description", "default", "discriminator"])
    (depth : Nat) : judge components depth (.obj (placeMember key value keywords)) d =
      judge components depth (.obj keywords) d := by
  have different : key ≠ "properties" := by
    rintro rfl
    exact absurd remark (by decide)
  have same : declared (placeMember key value keywords) = declared keywords := by
    rw [declared, lookup_placeMember different]
    rfl
  cases depth with
  | zero => rfl
  | succ depth =>
    have yes : ∀ known, keyword components (judge components depth) known key value d =
        some true := by
      intro known
      simp only [List.mem_cons, List.not_mem_nil, or_false] at remark
      rcases remark with rfl | rfl | rfl | rfl <;> rfl
    have kept : ∀ v, v ≠ some true → (v ∈ ((placeMember key value keywords).map fun k =>
        keyword components (judge components depth) (declared keywords) k.1 k.2 d) ↔
        v ∈ (keywords.map fun k =>
          keyword components (judge components depth) (declared keywords) k.1 k.2 d)) := by
      intro v other
      simp only [List.mem_map, mem_placeMember]
      constructor
      · rintro ⟨k, rfl | inside, same⟩
        · exact absurd (same.symm.trans (yes _)) other
        · exact ⟨k, inside, same⟩
      · rintro ⟨k, inside, same⟩
        exact ⟨k, .inr inside, same⟩
    show every _ = every _
    rw [same]
    exact every_congr (kept _ (by simp)) (kept _ (by simp))

/-- The title and the default of a property are annotations. -/
theorem judge_property (f : Field) (depth : Nat) :
    judge components depth f.property d = judge components depth (f.schema.written .sorted) d := by
  have titled : judge components depth (.obj (if f.hasTitle = true then
      placeMember "title" (.str (titleOf f.name)) (f.schema.members .sorted)
      else f.schema.members .sorted)) d =
      judge components depth (f.schema.written .sorted) d := by
    split
    · exact judge_placed (by simp) depth
    · rfl
  rw [Field.property]
  cases f.fallback? with
  | none => exact titled
  | some v => exact (judge_placed (by simp) depth).trans titled

theorem admits_property_iff {f : Field} :
    Admits components f.property d ↔ Admits components (f.schema.written .sorted) d := by
  simp only [Admits, judge_property]

/-- The label of a variant admits no other label. -/
theorem refuses_property {label other : String} (different : label ≠ other) :
    Refuses components (variant label).property (.str other) := by
  have inside : ("const", Json.str label) ∈ placeMember "default" (.str label)
      (placeMember "title" (.str (titleOf "type")) ((Schema.const label).members .sorted)) := by
    refine mem_placeMember.mpr (.inr (mem_placeMember.mpr (.inr ?_)))
    exact (mem_arrange .sorted).mpr List.mem_cons_self
  apply refuses_of_keyword inside
  exact yields_const (beq_eq_false_iff_ne.mpr different)

theorem admits_record {r : Record} {members : List (String × Json)}
    (required : ∀ f ∈ r.fields, f.need = .required → f.name ∈ members.map (·.1))
    (each : ∀ f ∈ r.fields, ∀ x, lookup f.name members = some x → Admits components f.property x)
    (known : r.closed = true → ∀ m ∈ members, m.1 ∈ r.fields.map (·.name)) :
    Admits components (Definition.record r).toJson (.obj members) := by
  obtain ⟨keywords, written, names, _, all⟩ := declared_record r
  rw [written, admits_iff, names]
  intro k inside
  rcases all k inside with rfl | described | rfl | rfl | ⟨closed, rfl⟩ | rfl
  · refine yields_properties ?_
    intro p listed x found
    obtain ⟨f, declared, rfl⟩ := List.mem_map.mp listed
    exact each f declared x found
  · exact yields_describe described
  · exact yields_remark (by simp)
  · exact yields_type rfl
  · exact yields_additional fun m member unknown => absurd (known closed m member) unknown
  · refine yields_required ?_
    intro name listed
    obtain ⟨f, filtered, rfl⟩ := List.mem_map.mp listed
    rw [List.mem_filter, decide_eq_true_eq] at filtered
    exact required f filtered.1 filtered.2

/-- A variant refuses what has the label of another. -/
theorem refuses_variant {r : Record} {label other : String} {members : List (String × Json)}
    (named : r.label? = some label) (tag : lookup "type" members = some (.str other))
    (different : label ≠ other) :
    Refuses components (Definition.record r).toJson (.obj members) := by
  obtain ⟨keywords, written, _, properties, _⟩ := declared_record r
  rw [written]
  apply refuses_of_keyword properties
  exact yields_properties_false (List.mem_map_of_mem (Record.variant_mem_fields named)) tag
    (refuses_property different)

include holds in
/-- Of the variants of a union the one that the label names admits a document, and no other does. -/
theorem admits_tagged {variants : List Record} {r : Record} {label : String}
    {members : List (String × Json)} (distinct : distinctLabels variants = true)
    (there : ∀ q ∈ variants, published (.record q)) (variant : r ∈ variants)
    (named : r.label? = some label) (tag : lookup "type" members = some (.str label))
    (admits : Admits components (Schema.refTo r.name) (.obj members)) :
    Admits components ((Shape.tagged variants).schema.written order) (.obj members) := by
  simp only [distinctLabels, Bool.and_eq_true, List.all_eq_true, decide_eq_true_eq] at distinct
  rw [admits_written_iff]
  intro k inside
  rw [Shape.schema, Schema.members, mem_arrange, List.mem_pair, List.map_map] at inside
  rcases inside with rfl | rfl
  · refine yields_oneOf (fun q : Record => Schema.refTo q.name) distinct.2.of_map variant admits ?_
    intro q listed other
    obtain ⟨name, labelled⟩ := Option.isSome_iff_exists.mp (distinct.1 q listed)
    have different : name ≠ label := by
      rintro rfl
      exact other (List.inj_on_of_nodup_map distinct.2 listed variant (labelled.trans named.symm))
    exact (refuses_ref holds (there q listed)).mpr (refuses_variant labelled tag different)
  · exact yields_remark (by simp)

include holds in
/-- The schema of a shape admits every document of the shape. -/
theorem admits_of_belongs {s : Shape} (belongs : Belongs s d) (separated : s.separated = true)
    (there : ∀ δ ∈ s.definitions, published δ) : Admits components (s.schema.written order) d := by
  induction belongs generalizing order with
  | text s => exact admits_kind rfl
  | flag b => exact admits_kind rfl
  | integer i => exact admits_kind rfl
  | natural lower upper => exact admits_between lower (Int.le_sub_one_of_lt upper)
  | json d => exact (admits_ref holds (there .freeJson List.mem_cons_self)).mpr (admits_freeJson d)
  | @names items some texts _ =>
    apply admits_array (List.length_pos_iff.mpr some)
    intro x inside
    cases texts x inside
    exact admits_kind rfl
  | @choice e w known =>
    exact (admits_ref holds (there (.enumeration e) List.mem_cons_self)).mpr
      (admits_enumeration known)
  | operator e w => exact admits_kind rfl
  | tag label => exact admits_const label
  | list each ih => exact admits_array (Nat.zero_le _) fun x inside => ih x inside separated there
  | map each ih => exact admits_map fun m inside => ih m inside separated there
  | @record r members required given known ih =>
    have mentioned : ∀ f ∈ r.fields, ∀ δ ∈ f.shape.definitions, published δ := by
      intro f declared δ inside
      exact holds.closed _ (there (.record r) List.mem_cons_self) δ
        (List.mem_flatMap.mpr ⟨f, declared, inside⟩)
    refine (admits_ref holds (there (.record r) List.mem_cons_self)).mpr
      (admits_record required ?_ known)
    intro f declared x found
    apply admits_property_iff.mpr
    rw [Field.schema]
    -- Null stands for an optional field that is left out, and the type of the field need not admit
    -- it.
    by_cases skipped : f.skips x
    · obtain ⟨optional, null⟩ := skipped
      rw [optional]
      cases x with
      | null => exact admits_anyOf (.inr (admits_kind rfl))
      | _ => cases null
    · have admits : Admits components (f.shape.schema.written .sorted) x :=
        ih f declared x found skipped (Record.fields_separated declared) (mentioned f declared)
      split
      · exact admits_anyOf (.inl admits)
      · exact admits
  | @tagged variants r label members variant named tag fits ih =>
    have variants_there : ∀ q ∈ variants, published (.record q) := by
      intro q listed
      exact there (.record q) (List.mem_map_of_mem listed)
    have admits : Admits components ((Shape.record r).schema.written .listed) (.obj members) := by
      apply ih rfl
      intro δ inside
      cases List.mem_singleton.mp inside
      exact variants_there r variant
    exact admits_tagged holds separated variants_there variant named tag admits
  | first fits ih =>
    simp only [Shape.separated, Bool.and_eq_true] at separated
    exact admits_anyOf
      (.inl (ih separated.1.1 fun δ inside => there δ (List.mem_append_left _ inside)))
  | second fits ih =>
    simp only [Shape.separated, Bool.and_eq_true] at separated
    exact admits_anyOf
      (.inr (ih separated.1.2 fun δ inside => there δ (List.mem_append_right _ inside)))

end Definitions
end AgentWire
