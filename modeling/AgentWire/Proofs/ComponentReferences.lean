import AgentWire.Proofs.Components

/-! What components refer to. The components of a registry hold every registered name and the name
of every definition that can be reached, and no reference in them leads anywhere else. -/
namespace AgentWire

/-! Definitions that types can reach. -/

/-- A definition that a registered type mentions, directly or through others. -/
inductive Registry.Reaches (reg : Registry) : Definition → Prop where
  | direct {e : String × WireType} {δ : Definition} (registered : e ∈ reg.entries)
      (mentioned : δ ∈ e.2.shape.definitions) : Reaches reg δ
  | through {δ ε : Definition} (reached : Reaches reg δ) (mentioned : ε ∈ δ.mentions) :
      Reaches reg ε

/-- The registered names, and those of the definitions that can be reached. -/
def Registry.Names (reg : Registry) (name : String) : Prop :=
  (∃ t, reg.find? name = some t) ∨ ∃ δ, reg.Reaches δ ∧ δ.name = name

/-- Nothing is found but what the start leads to. -/
theorem Definition.of_explore {holds : Definition → Prop}
    (closed : ∀ δ, holds δ → ∀ ε ∈ δ.mentions, holds ε) {fuel : Nat}
    {pending found : List Definition} (waiting : ∀ δ ∈ pending, holds δ)
    (before : ∀ δ ∈ found, holds δ) :
    ∀ δ ∈ explore fuel pending found, holds δ := by
  induction fuel generalizing pending found with
  | zero => exact before
  | succ fuel ih =>
    cases pending with
    | nil => exact before
    | cons δ rest =>
      rw [List.forall_mem_cons] at waiting
      rw [explore]
      split
      · exact ih waiting.2 before
      · refine ih ?_ (List.forall_mem_cons.mpr ⟨waiting.1, before⟩)
        intro ε inside
        rcases List.mem_append.mp inside with mentioned | later
        · exact closed δ waiting.1 ε mentioned
        · exact waiting.2 ε later

theorem Components.mem_reached_iff {reg : Registry} {δ : Definition} :
    δ ∈ reached reg ↔ reg.Reaches δ := by
  constructor
  · intro inside
    refine Definition.of_explore (fun δ reaches ε mentioned => .through reaches mentioned) ?_
      (fun δ none => absurd none List.not_mem_nil) δ inside
    intro δ mentioned
    obtain ⟨e, registered, here⟩ := List.mem_flatMap.mp mentioned
    exact .direct registered here
  · intro reaches
    obtain ⟨start, closed⟩ :=
      Definition.reachable_closed (reg.entries.flatMap fun e => e.2.shape.definitions)
    induction reaches with
    | direct registered mentioned => exact start _ (List.mem_flatMap.mpr ⟨_, registered, mentioned⟩)
    | through _ mentioned ih => exact closed _ ih _ mentioned

/-! References in a written schema. -/

/-- Somewhere in a document there is a reference, or a target in the mapping of a discriminator. -/
inductive Json.Refers : Json → String → Prop where
  | ref {members : List (String × Json)} {target : String}
      (here : ("$ref", .str target) ∈ members) :
      Refers (.obj members) target
  | mapped {members discriminator mapping : List (String × Json)} {tag target : String}
      (discriminated : ("discriminator", .obj discriminator) ∈ members)
      (mapped : ("mapping", .obj mapping) ∈ discriminator) (here : (tag, .str target) ∈ mapping) :
      Refers (.obj members) target
  | member {members : List (String × Json)} {m : String × Json} {target : String}
      (inside : m ∈ members) (deeper : Refers m.2 target) : Refers (.obj members) target
  | item {items : List Json} {x : Json} {target : String} (inside : x ∈ items)
      (deeper : Refers x target) :
      Refers (.arr items) target

namespace Json

variable {target : String}

theorem refers_obj_iff {members : List (String × Json)} : Refers (.obj members) target ↔
    ("$ref", .str target) ∈ members ∨
      (∃ discriminator mapping tag, ("discriminator", .obj discriminator) ∈ members ∧
        ("mapping", .obj mapping) ∈ discriminator ∧ (tag, .str target) ∈ mapping) ∨
      ∃ m ∈ members, Refers m.2 target := by
  constructor
  · rintro (here | ⟨discriminated, mapped, here⟩ | ⟨inside, deeper⟩)
    · exact .inl here
    · exact .inr (.inl ⟨_, _, _, discriminated, mapped, here⟩)
    · exact .inr (.inr ⟨_, inside, deeper⟩)
  · rintro (here | ⟨_, _, _, discriminated, mapped, here⟩ | ⟨_, inside, deeper⟩)
    · exact .ref here
    · exact .mapped discriminated mapped here
    · exact .member inside deeper

/-- Without the keywords for references an object refers to what its members refer to. -/
theorem refers_member {members : List (String × Json)}
    (plain : ∀ m ∈ members, m.1 ≠ "$ref" ∧ m.1 ≠ "discriminator")
    (refers : Refers (.obj members) target) :
    ∃ m ∈ members, Refers m.2 target := by
  rcases refers_obj_iff.mp refers with here | ⟨_, _, _, discriminated, _⟩ | deeper
  · exact absurd rfl (plain _ here).1
  · exact absurd rfl (plain _ discriminated).2
  · exact deeper

@[simp]
theorem refers_arr_iff {items : List Json} :
    Refers (.arr items) target ↔ ∃ x ∈ items, Refers x target := by
  constructor
  · rintro ⟨⟩
    exact ⟨_, ‹_›, ‹_›⟩
  · rintro ⟨x, inside, deeper⟩
    exact .item inside deeper

@[simp]
theorem not_refers_str {s : String} : ¬ Refers (.str s) target := by
  rintro ⟨⟩

@[simp]
theorem not_refers_int {i : Int} : ¬ Refers (.int i) target := by
  rintro ⟨⟩

@[simp]
theorem not_refers_bool {b : Bool} : ¬ Refers (.bool b) target := by
  rintro ⟨⟩

@[simp]
theorem not_refers_null : ¬ Refers .null target := by
  rintro ⟨⟩

end Json

open Json

section References

variable {target : String}

theorem refers_refTo {name : String} :
    Refers (Schema.refTo name) target ↔ target = Schema.componentRef name := by
  simp [Schema.refTo, refers_obj_iff]

theorem target_of_mapping {variants : List (String × String)} {order : KeyOrder} {tag : String}
    {x : Json}
    (here : (tag, x) ∈
      order.arrange (variants.map fun v => (v.1, .str (Schema.componentRef v.2)))) :
    ∃ v ∈ variants, x = .str (Schema.componentRef v.2) := by
  rw [mem_arrange] at here
  obtain ⟨v, listed, same⟩ := List.mem_map.mp here
  exact ⟨v, listed, (congrArg Prod.snd same).symm⟩

theorem refers_mapping {variants : List (String × String)} {order : KeyOrder}
    (refers : Refers
      (.obj (order.arrange (variants.map fun v => (v.1, .str (Schema.componentRef v.2))))) target) :
    ∃ v ∈ variants, target = Schema.componentRef v.2 := by
  rcases refers_obj_iff.mp refers with here | ⟨_, _, _, discriminated, _⟩ | ⟨m, inside, deeper⟩
  · obtain ⟨v, listed, same⟩ := target_of_mapping here
    exact ⟨v, listed, Json.str.inj same⟩
  · obtain ⟨v, _, same⟩ := target_of_mapping discriminated
    cases same
  · obtain ⟨v, _, same⟩ := target_of_mapping inside
    rw [same] at deeper
    exact absurd deeper not_refers_str

/-- A tagged union refers to its variants, both where it lists them and where it maps the labels to
them. -/
theorem refers_oneOf {variants : List (String × String)} {order : KeyOrder}
    (refers : Refers ((Schema.oneOf variants).written order) target) :
    ∃ v ∈ variants, target = Schema.componentRef v.2 := by
  rw [Schema.written, Schema.members] at refers
  rcases refers_obj_iff.mp refers with here | ⟨_, _, _, discriminated, mapped, here⟩ |
    ⟨m, inside, deeper⟩
  · simp [mem_arrange] at here
  · simp only [mem_arrange, List.mem_pair, Prod.mk.injEq, Json.obj.injEq] at discriminated
    rcases discriminated with ⟨other, _⟩ | ⟨_, rfl⟩
    · exact absurd other (by decide)
    simp only [mem_arrange, List.mem_pair, Prod.mk.injEq, Json.obj.injEq] at mapped
    rcases mapped with ⟨other, _⟩ | ⟨_, rfl⟩
    · exact absurd other (by decide)
    obtain ⟨v, listed, same⟩ := target_of_mapping here
    exact ⟨v, listed, Json.str.inj same⟩
  · rw [mem_arrange, List.mem_pair] at inside
    rcases inside with rfl | rfl
    · obtain ⟨x, listed, refers⟩ := refers_arr_iff.mp deeper
      obtain ⟨v, there, rfl⟩ := List.mem_map.mp listed
      exact ⟨v, there, refers_refTo.mp refers⟩
    · obtain ⟨m, inside, deeper⟩ := refers_member (by simp [mem_arrange]) deeper
      rw [mem_arrange, List.mem_pair] at inside
      rcases inside with rfl | rfl
      · exact absurd deeper not_refers_str
      · exact refers_mapping deeper

/-- A written schema refers to what the schema refers to. -/
theorem refers_written {s : Schema} {order : KeyOrder} (refers : Refers (s.written order) target) :
    ∃ name ∈ s.refs, target = Schema.componentRef name := by
  unfold Schema.written at refers
  induction s generalizing order with
  | ref component =>
    rw [Schema.members] at refers
    exact ⟨component, List.mem_singleton_self _, refers_refTo.mp refers⟩
  | array items atLeast ih =>
    obtain ⟨m, inside, deeper⟩ :=
      refers_member (by simp [Schema.members, mem_arrange, or_imp, forall_and]) refers
    rw [Schema.members, mem_arrange, List.mem_append, List.mem_pair] at inside
    rcases inside with (rfl | rfl) | bound
    · exact absurd deeper not_refers_str
    · exact ih deeper
    · split at bound
      · cases bound
      · cases List.mem_singleton.mp bound
        exact absurd deeper not_refers_int
  | map values ih =>
    obtain ⟨m, inside, deeper⟩ := refers_member (by simp [Schema.members, mem_arrange]) refers
    rw [Schema.members, mem_arrange, List.mem_pair] at inside
    rcases inside with rfl | rfl
    · exact absurd deeper not_refers_str
    · exact ih deeper
  | oneOf variants =>
    obtain ⟨v, listed, same⟩ := refers_oneOf refers
    exact ⟨v.2, List.mem_map_of_mem listed, same⟩
  | anyOf first second first_ih second_ih =>
    obtain ⟨m, inside, deeper⟩ := refers_member (by simp [Schema.members]) refers
    cases List.mem_singleton.mp inside
    obtain ⟨x, listed, refers⟩ := refers_arr_iff.mp deeper
    rcases List.mem_pair.mp listed with rfl | rfl
    · obtain ⟨name, there, same⟩ := first_ih refers
      exact ⟨name, List.mem_append_left _ there, same⟩
    · obtain ⟨name, there, same⟩ := second_ih refers
      exact ⟨name, List.mem_append_right _ there, same⟩
  | _ => simp [Schema.members, refers_obj_iff, mem_arrange] at refers

theorem Shape.refs_schema (s : Shape) : s.schema.refs = s.definitions.map Definition.name := by
  induction s with
  | list item ih => exact ih
  | map value ih => exact ih
  | tagged variants => simp [schema, Schema.refs, definitions, Definition.name]
  | either first second first_ih second_ih =>
    rw [schema, Schema.refs, first_ih, second_ih, definitions, List.map_append]
  | _ => rfl

theorem Field.refs_schema (f : Field) : f.schema.refs = f.shape.schema.refs := by
  rw [schema]
  split
  · exact List.append_nil _
  · rfl

/-- A property is written as the schema of the field, but for annotations. -/
theorem members_of_property (f : Field) : ∃ members, f.property = .obj members ∧ ∀ m ∈ members,
    m ∈ f.schema.members .sorted ∨ m.1 ∈ ["title", "default"] ∧ ∀ target, ¬ Refers m.2 target := by
  have titled : ∀ m ∈ (if f.hasTitle = true then
      placeMember "title" (.str (titleOf f.name)) (f.schema.members .sorted)
      else f.schema.members .sorted), m ∈ f.schema.members .sorted ∨
        m.1 ∈ ["title", "default"] ∧ ∀ target, ¬ Refers m.2 target := by
    intro m inside
    split at inside
    · rcases mem_placeMember.mp inside with rfl | there
      · exact .inr ⟨by simp, fun _ => not_refers_str⟩
      · exact .inl there
    · exact .inl inside
  have inert : ∀ v, f.fallback? = some v → ∀ target, ¬ Refers v target := by
    intro v fallback target
    unfold Field.fallback? at fallback
    split at fallback <;> cases fallback
    · exact not_refers_null
    · exact not_refers_str
  rw [Field.property]
  cases fallback : f.fallback? with
  | none => exact ⟨_, rfl, titled⟩
  | some v =>
    refine ⟨_, rfl, ?_⟩
    intro m inside
    rcases mem_placeMember.mp inside with rfl | there
    · exact .inr ⟨by simp, inert v fallback⟩
    · exact titled m there

theorem refers_property {f : Field} (refers : Refers f.property target) :
    ∃ name ∈ f.schema.refs, target = Schema.componentRef name := by
  obtain ⟨members, written, each⟩ := members_of_property f
  rw [written] at refers
  have whole : Refers (f.schema.written .sorted) target := by
    rcases refers_obj_iff.mp refers with here | ⟨_, _, _, discriminated, mapped, here⟩ |
      ⟨m, inside, deeper⟩
    · rcases each _ here with there | ⟨remark, _⟩
      · exact .ref there
      · exact absurd remark (by simp)
    · rcases each _ discriminated with there | ⟨remark, _⟩
      · exact .mapped there mapped here
      · exact absurd remark (by simp)
    · rcases each m inside with there | ⟨_, inert⟩
      · exact .member there deeper
      · exact absurd deeper (inert target)
  exact refers_written whole

theorem mapping_not_mem_property {f : Field} {members : List (String × Json)}
    (written : f.property = .obj members) (x : Json) : ("mapping", x) ∉ members := by
  intro mapped
  obtain ⟨_, same, each⟩ := members_of_property f
  cases written.symm.trans same
  rcases each _ mapped with there | ⟨remark, _⟩
  · exact absurd (Schema.keyword_mem there) (show "mapping" ∉ Schema.keywords by decide)
  · exact absurd remark (by simp)

theorem mem_describe {description : Option String} {k : String × Json}
    (inside : k ∈ Definition.describe description) :
    ∃ text, k = ("description", .str text) := by
  cases description with
  | none => cases inside
  | some text => exact ⟨text, List.mem_singleton.mp inside⟩

/-- The properties of a record are its only part that refers to anything. -/
theorem refers_record {r : Record} (refers : Refers (Definition.record r).toJson target) :
    ∃ f ∈ r.fields, Refers f.property target := by
  obtain ⟨keywords, written, _, _, all⟩ := declared_record r
  have plain : ∀ k ∈ keywords, k.1 ≠ "$ref" ∧ k.1 ≠ "discriminator" := by
    intro k inside
    rcases all k inside with rfl | described | rfl | rfl | ⟨_, rfl⟩ | rfl
    · simp
    · obtain ⟨text, rfl⟩ := mem_describe described
      simp
    all_goals simp
  rw [written] at refers
  obtain ⟨k, inside, deeper⟩ := refers_member plain refers
  rcases all k inside with rfl | described | rfl | rfl | ⟨_, rfl⟩ | rfl
  · rcases refers_obj_iff.mp deeper with here | ⟨_, _, _, discriminated, mapped, _⟩ |
      ⟨m, listed, refers⟩
    · obtain ⟨f, _, same⟩ := List.mem_map.mp here
      cases (congrArg Prod.snd same)
    · obtain ⟨f, _, same⟩ := List.mem_map.mp discriminated
      exact absurd mapped (mapping_not_mem_property (congrArg Prod.snd same) _)
    · obtain ⟨f, declared, rfl⟩ := List.mem_map.mp listed
      exact ⟨f, declared, refers⟩
  · obtain ⟨text, rfl⟩ := mem_describe described
    exact absurd deeper not_refers_str
  · exact absurd deeper not_refers_str
  · exact absurd deeper not_refers_str
  · exact absurd deeper not_refers_bool
  · simp at deeper

theorem refers_enumeration {e : Enumeration} :
    ¬ Refers (Definition.enumeration e).toJson target := by
  have all : ∀ k ∈ (Definition.enumeration e).toJson.members, k.1 ≠ "$ref" ∧ k.1 ≠ "discriminator" ∧
      ¬ Refers k.2 target := by
    intro k inside
    rcases List.mem_append.mp inside with described | inside
    · obtain ⟨text, rfl⟩ := mem_describe described
      simp
    · simp only [List.mem_cons, List.not_mem_nil, or_false] at inside
      rcases inside with rfl | rfl | rfl <;> simp
  intro refers
  obtain ⟨k, inside, deeper⟩ :=
    refers_member (fun k inside => ⟨(all k inside).1, (all k inside).2.1⟩) refers
  exact (all k inside).2.2 deeper

theorem refers_definition {δ : Definition} (refers : Refers δ.toJson target) :
    ∃ ε ∈ δ.mentions, target = Schema.componentRef ε.name := by
  cases δ with
  | freeJson => simp [Definition.toJson, refers_obj_iff] at refers
  | enumeration e => exact absurd refers refers_enumeration
  | record r =>
    obtain ⟨f, declared, deeper⟩ := refers_record refers
    obtain ⟨name, there, rfl⟩ := refers_property deeper
    rw [f.refs_schema, f.shape.refs_schema] at there
    obtain ⟨ε, mentioned, rfl⟩ := List.mem_map.mp there
    exact ⟨ε, List.mem_flatMap.mpr ⟨f, declared, mentioned⟩, rfl⟩

end References

/-! The names of components. -/

def Definition.shape : Definition → Shape
  | .record r => .record r
  | .enumeration e => .choice e
  | .freeJson => .json

theorem Definition.schema_eq_ref_iff {δ : Definition} {s : Shape} :
    s.schema = .ref δ.name ↔ s = δ.shape := by
  constructor
  · intro refers
    obtain ⟨ε, inside, same⟩ := Shape.mentions_of_ref refers
    cases name_injective same
    cases s with
    | json =>
      cases List.mem_singleton.mp inside
      rfl
    | choice e =>
      cases List.mem_singleton.mp inside
      rfl
    | record r =>
      cases List.mem_singleton.mp inside
      rfl
    | _ => cases refers
  · rintro rfl
    cases δ <;> rfl

namespace Components

theorem addAll_ascending {cs : Components} (ascending : cs.Ascending)
    (entries : List (String × WireType)) :
    (addAll cs entries).1.Ascending := by
  induction entries generalizing cs with
  | nil => exact ascending
  | cons e rest ih =>
    obtain ⟨n, u⟩ := e
    cases self : isSelf n u.schema with
    | true =>
      rw [addAll_self self]
      exact ih ascending
    | false =>
      rw [addAll_other self]
      exact ih (NameTable.insert_ascending ascending n _)

theorem ofRegistry_ascending (reg : Registry) : (ofRegistry reg).1.Ascending :=
  addAll_ascending (NameTable.foldl_ascending NameTable.empty_ascending) reg.entries

theorem names_written (cs : Components) : cs.toJson.members.map (·.1) = cs.entries.map (·.1) := by
  simp [toJson, Json.members]

theorem mem_names_iff (cs : Components) (name : String) :
    name ∈ cs.toJson.members.map (·.1) ↔ ∃ c, cs.find? name = some c := by
  rw [← not_iff_not, ← lookup_eq_none_iff, lookup_written, Option.map_eq_none_iff]
  simp [Option.eq_none_iff_forall_ne_some]

section OfRegistry

variable {reg : Registry} (ascending : reg.Ascending)

include ascending

/-- A component is the schema of a type that is registered under its name, or a definition that is
reached. -/
theorem component_of_find? {name : String} {c : Component}
    (found : (ofRegistry reg).1.find? name = some c) :
    (∃ t, (name, t) ∈ reg.entries ∧ c = .schema t.schema) ∨ ∃ δ ∈ reached reg, δ.name = name ∧
      c = .definition δ := by
  by_cases other : ∃ t, (name, t) ∈ reg.entries ∧ isSelf name t.schema = false
  · obtain ⟨t, registered, written⟩ := other
    have placed : (ofRegistry reg).1.find? name = some (.schema t.schema) :=
      (find?_addAll ascending.nodup).2 name t registered written
    exact .inl ⟨t, registered, Option.some.inj (found.symm.trans placed)⟩
  · have kept : (ofRegistry reg).1.find? name = (definitions reg).find? name := by
      refine (find?_addAll ascending.nodup).1 name ?_
      intro t registered
      rw [← Bool.not_eq_false]
      exact fun written => other ⟨t, registered, written⟩
    rw [kept] at found
    by_cases named : ∃ δ ∈ reached reg, δ.name = name
    · obtain ⟨δ, inside, rfl⟩ := named
      exact .inr ⟨δ, inside, rfl, Option.some.inj (found.symm.trans (find?_definitions inside))⟩
    · rw [find?_definitions_none fun δ inside same => named ⟨δ, inside, same⟩] at found
      cases found

/-- The schema of a type takes the place of the definition that its name belongs to. -/
theorem find?_warned {name : String} {t : WireType} (registered : reg.find? name = some t)
    (warned : collisionWarning name ∈ (ofRegistry reg).2) :
    (ofRegistry reg).1.find? name = some (.schema t.schema) := by
  obtain ⟨u, listed, other, _⟩ := (warning_mem_iff ascending).mp warned
  cases registered.symm.trans ((NameTable.find?_iff_mem ascending).mpr listed)
  exact (find?_registered ascending registered).resolve_right other

theorem find?_name_of_reached {δ : Definition} (inside : δ ∈ reached reg) :
    ∃ c, (ofRegistry reg).1.find? δ.name = some c := by
  by_cases warned : collisionWarning δ.name ∈ (ofRegistry reg).2
  · obtain ⟨t, listed, _⟩ := (warning_mem_iff ascending).mp warned
    exact ⟨_, find?_warned ascending ((NameTable.find?_iff_mem ascending).mpr listed) warned⟩
  · exact ⟨_, find?_unwarned ascending inside warned⟩

theorem component_iff {name : String} :
    name ∈ (ofRegistry reg).1.toJson.members.map (·.1) ↔ reg.Names name := by
  rw [mem_names_iff]
  constructor
  · rintro ⟨c, found⟩
    rcases component_of_find? ascending found with ⟨t, registered, _⟩ | ⟨δ, inside, same, _⟩
    · exact .inl ⟨t, (NameTable.find?_iff_mem ascending).mpr registered⟩
    · exact .inr ⟨δ, mem_reached_iff.mp inside, same⟩
  · rintro (⟨t, registered⟩ | ⟨δ, reaches, rfl⟩)
    · rcases find?_registered ascending registered with written | self
      · exact ⟨_, written⟩
      · obtain ⟨δ, mentioned, rfl⟩ := Shape.mentions_of_ref self
        exact find?_name_of_reached ascending (mentioned_reached registered mentioned)
    · exact find?_name_of_reached ascending (mem_reached_iff.mpr reaches)

theorem closed {component : String × Json} (inside : component ∈ (ofRegistry reg).1.toJson.members)
    {target : String} (refers : Refers component.2 target) :
    ∃ name ∈ (ofRegistry reg).1.toJson.members.map (·.1), target = Schema.componentRef name := by
  obtain ⟨⟨name, c⟩, listed, rfl⟩ := List.mem_map.mp inside
  have found := (NameTable.find?_iff_mem (ofRegistry_ascending reg)).mpr listed
  rcases component_of_find? ascending found with ⟨t, registered, rfl⟩ | ⟨δ, reached, _, rfl⟩
  · have written : Refers (t.schema.written .listed) target := refers
    obtain ⟨other, there, rfl⟩ := refers_written written
    rw [WireType.schema, Shape.refs_schema] at there
    obtain ⟨δ, mentioned, rfl⟩ := List.mem_map.mp there
    exact ⟨δ.name, (component_iff ascending).mpr (.inr ⟨δ, .direct registered mentioned, rfl⟩), rfl⟩
  · obtain ⟨ε, mentioned, rfl⟩ := refers_definition refers
    exact ⟨ε.name,
      (component_iff ascending).mpr (.inr ⟨ε, .through (mem_reached_iff.mp reached) mentioned,
        rfl⟩), rfl⟩

/-- A warning is given for the name of a definition that is reached and that is bound to another
type. -/
theorem warning_iff {w : String} :
    w ∈ (ofRegistry reg).2 ↔ ∃ δ t, w = collisionWarning δ.name ∧ reg.Reaches δ ∧
      reg.find? δ.name = some t ∧ t.shape ≠ δ.shape := by
  constructor
  · intro given
    obtain ⟨name, rfl⟩ := warning_of_mem ascending given
    obtain ⟨t, registered, other, δ, inside, rfl⟩ := (warning_mem_iff ascending).mp given
    exact ⟨δ, t, rfl, mem_reached_iff.mp inside, (NameTable.find?_iff_mem ascending).mpr registered,
      mt Definition.schema_eq_ref_iff.mpr other⟩
  · rintro ⟨δ, t, rfl, reaches, registered, other⟩
    exact (warning_mem_iff ascending).mpr ⟨t, NameTable.mem_of_find? registered,
      mt Definition.schema_eq_ref_iff.mp other, δ, mem_reached_iff.mpr reaches, rfl⟩

end OfRegistry

/-- What is written for a registry, and the warnings that are given. -/
structure Faithful (reg : Registry) (written : List (String × Json)) (warnings : List String) :
    Prop where
  names_ascending : (written.map (·.1)).Pairwise (· < ·)
  name_iff : ∀ name, name ∈ written.map (·.1) ↔ reg.Names name
  refers : ∀ component ∈ written, ∀ target, Refers component.2 target →
    ∃ name ∈ written.map (·.1), target = Schema.componentRef name
  defines : ∀ δ, reg.Reaches δ → collisionWarning δ.name ∉ warnings →
    lookup δ.name written = some δ.toJson
  warns_iff : ∀ w, w ∈ warnings ↔ ∃ δ t, w = collisionWarning δ.name ∧ reg.Reaches δ ∧
    reg.find? δ.name = some t ∧ t.shape ≠ δ.shape
  replaces : ∀ name t, reg.find? name = some t → collisionWarning name ∈ warnings →
    lookup name written = some (t.schema.written .listed)

/-- Whatever is registered, under whatever names. -/
theorem ofRegistry_faithful (steps : List (String × WireType)) :
    Faithful (Registry.registerAll .empty steps).1
      (ofRegistry (Registry.registerAll .empty steps).1).1.toJson.members
      (ofRegistry (Registry.registerAll .empty steps).1).2 := by
  have ascending := Registry.ascending steps
  generalize (Registry.registerAll .empty steps).1 = reg at *
  refine ⟨?_, fun name => component_iff ascending, fun component inside target =>
    closed ascending inside, ?_,
    fun w => warning_iff ascending, ?_⟩
  · rw [names_written]
    exact ofRegistry_ascending reg
  · intro δ reaches unwarned
    rw [lookup_written, find?_unwarned ascending (mem_reached_iff.mpr reaches) unwarned]
    rfl
  · intro name t registered warned
    rw [lookup_written, find?_warned ascending registered warned]
    rfl

end Components

end AgentWire
