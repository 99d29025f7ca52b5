import AgentWire.Proofs.Components
import AgentWire.Proofs.SchemaDecisions

/-! How strict the exported schemas are. Every document that a schema admits is one of its shape,
except that an object at the place of a tagged union may lack its label: the schemas of the variants
do not ask for it. -/
namespace AgentWire

open Json Verdict

/-! Objects without their label. -/

/-- Somewhere in a document an object that should be one of some variants has no `type`. -/
inductive Unlabelled : Shape → Json → Prop where
  | here {variants : List Record} {members : List (String × Json)}
      (missing : "type" ∉ members.map (·.1)) :
      Unlabelled (.tagged variants) (.obj members)
  | variant {variants : List Record} {r : Record} {label : String} {members : List (String × Json)}
      (variant : r ∈ variants) (named : r.label? = some label)
      (tag : lookup "type" members = some (.str label))
      (inside : Unlabelled (.record r) (.obj members)) :
      Unlabelled (.tagged variants) (.obj members)
  | field {r : Record} {f : Field} {members : List (String × Json)} {x : Json}
      (declared : f ∈ r.fields) (found : lookup f.name members = some x)
      (inside : Unlabelled f.shape x) : Unlabelled (.record r) (.obj members)
  | item {item : Shape} {items : List Json} {x : Json} (listed : x ∈ items)
      (inside : Unlabelled item x) :
      Unlabelled (.list item) (.arr items)
  | entry {value : Shape} {members : List (String × Json)} {m : String × Json}
      (member : m ∈ members) (inside : Unlabelled value m.2) :
      Unlabelled (.map value) (.obj members)
  | first {first second : Shape} {d : Json} (inside : Unlabelled first d) :
      Unlabelled (.either first second) d
  | second {first second : Shape} {d : Json} (inside : Unlabelled second d) :
      Unlabelled (.either first second) d

namespace Shape

/-- Whether no tagged union can stand anywhere in a shape; of the records, the closed ones. -/
def unionFree : Shape → Bool
  | .tagged _ => false
  | .record r => r.closed
  | .list item => item.unionFree
  | .map value => value.unionFree
  | .either first second => first.unionFree && second.unionFree
  | _ => true

/-- Whether what a second variant accepts cannot hide a tagged union of the first. -/
def unhidden : Shape → Bool
  | .list item => item.unhidden
  | .map value => value.unhidden
  | .either first second => first.unionFree && second.unionFree || first.unhidden && second == .text
  | _ => true

end Shape

theorem Record.fields_unionFree {r : Record} {f : Field} (closed : r.closed = true)
    (declared : f ∈ r.fields) :
    f.shape.unionFree = true := by
  have all : r.closed = true → r.fields.all (·.shape.unionFree) = true := by cases r <;> decide
  exact List.all_eq_true.mp (all closed) f declared

theorem Record.fields_unhidden {r : Record} {f : Field} (declared : f ∈ r.fields) :
    f.shape.unhidden = true := by
  have all : r.fields.all (·.shape.unhidden) = true := by cases r <;> decide
  exact List.all_eq_true.mp all f declared

theorem WireType.unhidden (t : WireType) : t.shape.unhidden = true := by
  rcases t with r | e | a
  · rfl
  · rfl
  · cases a <;> decide

namespace Unlabelled

variable {s : Shape} {d : Json}

theorem has_parts (unlabelled : Unlabelled s d) : d.kind = .object ∨ d.kind = .array := by
  induction unlabelled with
  | here => exact .inl rfl
  | variant => exact .inl rfl
  | field => exact .inl rfl
  | item => exact .inr rfl
  | entry => exact .inl rfl
  | first _ ih => exact ih
  | second _ ih => exact ih

theorem not_unionFree (unlabelled : Unlabelled s d) : s.unionFree = false := by
  rw [← Bool.not_eq_true]
  intro free
  induction unlabelled with
  | here => cases free
  | variant => cases free
  | field declared _ _ ih => exact ih (Record.fields_unionFree free declared)
  | item _ _ ih => exact ih free
  | entry _ _ ih => exact ih free
  | first _ ih => exact ih (Bool.and_eq_true _ _ ▸ free).1
  | second _ ih => exact ih (Bool.and_eq_true _ _ ▸ free).2

/-- What lacks a label is not of its shape. -/
theorem not_belongs (unlabelled : Unlabelled s d) (separated : s.separated = true)
    (unhidden : s.unhidden = true) :
    ¬ Belongs s d := by
  intro belongs
  induction unlabelled with
  | here missing =>
    cases belongs with
    | tagged _ _ tag _ => exact missing (List.mem_map_of_mem (mem_of_lookup tag))
  | variant listed named tag _ ih =>
    cases belongs with
    | tagged other_listed other_named other_tag fits =>
      -- Both name the variant by the same label, and labels differ.
      cases tag.symm.trans other_tag
      simp only [Shape.separated, distinctLabels, Bool.and_eq_true, decide_eq_true_eq] at separated
      have same :=
        List.inj_on_of_nodup_map separated.2 listed other_listed (named.trans other_named.symm)
      exact ih rfl rfl (same ▸ fits)
  | field declared found inside ih =>
    cases belongs with
    | record _ given _ =>
      refine ih (Record.fields_separated declared) (Record.fields_unhidden declared)
        (given _ declared _ found ?_)
      rintro ⟨_, null⟩
      rcases inside.has_parts with kind | kind <;> cases null.symm.trans kind
  | item listed _ ih =>
    cases belongs with
    | list each => exact ih separated unhidden (each _ listed)
  | entry member _ ih =>
    cases belongs with
    | map each => exact ih separated unhidden (each _ member)
  | first inside ih =>
    simp only [Shape.separated, Bool.and_eq_true] at separated
    simp only [Shape.unhidden, inside.not_unionFree, Bool.false_and, Bool.false_or,
      Bool.and_eq_true] at unhidden
    cases belongs with
    | first fits => exact ih separated.1.1 unhidden.1 fits
    | second fits =>
      rw [eq_of_beq unhidden.2] at fits
      cases fits
      rcases inside.has_parts with kind | kind <;> cases kind
  | second inside ih =>
    simp only [Shape.unhidden, inside.not_unionFree, Bool.and_false, Bool.false_or,
      Bool.and_eq_true] at unhidden
    have free := inside.not_unionFree
    rw [eq_of_beq unhidden.2] at free
    cases free

end Unlabelled

/-! What a keyword that says yes asks of a document. -/

section Keywords

variable {components : List (String × Json)} {known : List String} {order : KeyOrder} {d : Json}

theorem kind_of_yields {k : Kind} (other : k ≠ .number)
    (yields : Yields components known ("type", .str k.name) d true) :
    d.kind = k := by
  have named : (k.name == d.kind.name || k.name == "number" && d.kind == .integer) = true :=
    (settles_of_always fun _ => rfl).unique yields
  generalize d.kind = found at named
  revert other named
  cases k <;> cases found <;> decide

theorem str_of_kind (kind : d.kind = .string) : ∃ s, d = .str s := by
  cases d with
  | str s => exact ⟨s, rfl⟩
  | _ => cases kind

theorem arr_of_kind (kind : d.kind = .array) : ∃ items, d = .arr items := by
  cases d with
  | arr items => exact ⟨items, rfl⟩
  | _ => cases kind

theorem obj_of_kind (kind : d.kind = .object) : ∃ members, d = .obj members := by
  cases d with
  | obj members => exact ⟨members, rfl⟩
  | _ => cases kind

theorem kind_of_admits {s : Schema} {k : Kind} (other : k ≠ .number)
    (typed : ("type", .str k.name) ∈ s.members order)
    (admits : Admits components (s.written order) d) : d.kind = k :=
  kind_of_yields other (admits_written_iff.mp admits _ typed)

theorem eq_of_const {word : String}
    (admits : Admits components ((Schema.const word).written order) d) :
    d = .str word := by
  obtain ⟨other, rfl⟩ := str_of_kind (kind_of_admits (k := .string) (by decide)
    ((mem_arrange order).mpr (List.mem_cons_of_mem _ List.mem_cons_self)) admits)
  have compared :=
    admits_written_iff.mp admits ("const", .str word) ((mem_arrange order).mpr List.mem_cons_self)
  have same : (word == other) = true := (yields_const rfl).unique compared
  rw [eq_of_beq same]

theorem int_of_between {low high : Int}
    (admits : Admits components ((Schema.between low high).written order) d) :
    ∃ i, low ≤ i ∧ i ≤ high ∧ d = .int i := by
  have kind :=
    kind_of_admits (k := .integer) (by decide) ((mem_arrange order).mpr List.mem_cons_self) admits
  cases d with
  | int i =>
    have upper := admits_written_iff.mp admits ("maximum", .int high)
      ((mem_arrange order).mpr (List.mem_cons_of_mem _ List.mem_cons_self))
    have lower := admits_written_iff.mp admits ("minimum", .int low)
      ((mem_arrange order).mpr (List.mem_cons_of_mem _ (List.mem_cons_of_mem _ List.mem_cons_self)))
    have below : decide (i ≤ high) = true := (settles_of_always fun _ => rfl).unique upper
    have above : decide (low ≤ i) = true := (settles_of_always fun _ => rfl).unique lower
    exact ⟨i, of_decide_eq_true above, of_decide_eq_true below, rfl⟩
  | _ => cases kind

theorem items_of_array {item : Schema} {atLeast : Nat}
    (admits : Admits components ((Schema.array item atLeast).written order) d) :
    ∃ items, d = .arr items ∧ atLeast ≤ items.length ∧
      ∀ x ∈ items, Admits components (item.written order) x := by
  have kind :=
    kind_of_admits (k := .array) (by decide) ((mem_arrange order).mpr List.mem_cons_self) admits
  obtain ⟨items, rfl⟩ := arr_of_kind kind
  have each := admits_written_iff.mp admits ("items", item.written order)
    ((mem_arrange order).mpr (List.mem_cons_of_mem _ List.mem_cons_self))
  refine ⟨items, rfl, ?_, settles_every_iff.mp each⟩
  by_cases zero : atLeast = 0
  · omega
  · have bound := admits_written_iff.mp admits ("minItems", .int atLeast)
      ((mem_arrange order).mpr (List.mem_append_right _ (by simp [zero])))
    have enough : decide ((atLeast : Int) ≤ items.length) = true :=
      (settles_of_always fun _ => rfl).unique bound
    exact Int.ofNat_le.mp (of_decide_eq_true enough)

theorem members_of_map {value : Schema}
    (admits : Admits components ((Schema.map value).written order) d) :
    ∃ members, d = .obj members ∧ ∀ m ∈ members, Admits components (value.written order) m.2 := by
  have kind :=
    kind_of_admits (k := .object) (by decide) ((mem_arrange order).mpr List.mem_cons_self) admits
  obtain ⟨members, rfl⟩ := obj_of_kind kind
  have each := admits_written_iff.mp admits ("additionalProperties", value.written order)
    ((mem_arrange order).mpr (List.mem_cons_of_mem _ List.mem_cons_self))
  have admitted := settles_every_iff.mp each
  refine ⟨members, rfl, ?_⟩
  intro m inside
  exact admitted m (List.mem_filter.mpr ⟨inside, by simp⟩)

theorem admits_anyOf_iff {first second : Schema} (here : Decides components (first.written order) d)
    (there : Decides components (second.written order) d) :
    Admits components ((Schema.anyOf first second).written order) d ↔
      Admits components (first.written order) d ∨ Admits components (second.written order) d := by
  refine ⟨?_, admits_anyOf⟩
  intro admits
  have options := admits_written_iff.mp admits _ List.mem_cons_self
  have each : ∀ option ∈ [first.written order, second.written order],
      Decides components option d := by
    intro option listed
    rcases List.mem_pair.mp listed with rfl | rfl
    · exact here
    · exact there
  obtain ⟨option, listed, yes⟩ := (settles_any_iff each).mp options
  rcases List.mem_pair.mp listed with rfl | rfl
  · exact .inl yes
  · exact .inr yes

theorem word_of_enumeration {e : Enumeration}
    (admits : Admits components (Definition.enumeration e).toJson d) :
    ∃ w ∈ e.words, d = .str w := by
  have all := admits_iff.mp admits
  have kind := all ("type", .str "string") (by simp)
  obtain ⟨word, rfl⟩ := str_of_kind (kind_of_yields (k := .string) (by decide) kind)
  have options := all ("enum", .arr (e.words.map .str)) (by simp)
  obtain ⟨option, listed, yes⟩ := (settles_any_iff fun _ listed => decided_isText listed).mp options
  obtain ⟨other, declared, rfl⟩ := List.mem_map.mp listed
  have same : (other == word) = true := (settles_of_always fun _ => rfl).unique yes
  exact ⟨word, eq_of_beq same ▸ declared, rfl⟩

theorem keywords_record (r : Record) :
    ("type", Json.str "object") ∈ (Definition.record r).toJson.members ∧
      (r.closed = true → ("additionalProperties", Json.bool false) ∈
        (Definition.record r).toJson.members) ∧
      ∀ f ∈ r.fields, f.need = .required →
        ("required", Json.arr (((r.fields.filter (·.need = .required)).map (·.name)).map
          .str)) ∈ (Definition.record r).toJson.members := by
  refine ⟨by simp [Definition.toJson, members], ?_, ?_⟩
  · intro closed
    simp [Definition.toJson, members, closed]
  · intro f declared required
    have some : (r.fields.filter (·.need = .required)).isEmpty = false := by
      rw [List.isEmpty_eq_false_iff_exists_mem]
      exact ⟨f, List.mem_filter.mpr ⟨declared, decide_eq_true required⟩⟩
    simp [Definition.toJson, members, some]

theorem members_of_record {r : Record} (admits : Admits components (Definition.record r).toJson d) :
    ∃ members, d = .obj members ∧
      (∀ f ∈ r.fields, f.need = .required → f.name ∈ members.map (·.1)) ∧
      (∀ f ∈ r.fields, ∀ x, lookup f.name members = some x →
        Admits components (f.schema.written .sorted) x) ∧
      (r.closed = true → ∀ m ∈ members, m.1 ∈ r.fields.map (·.name)) := by
  obtain ⟨typed, closing, requiring⟩ := keywords_record r
  obtain ⟨keywords, written, names, properties, _⟩ := declared_record r
  rw [written] at admits typed closing requiring
  have all := admits_iff.mp admits
  rw [names] at all
  obtain ⟨members, rfl⟩ := obj_of_kind (kind_of_yields (k := .object) (by decide) (all _ typed))
  refine ⟨members, rfl, ?_, ?_, ?_⟩
  · intro f declared required
    have asked := settles_every_iff.mp (all _ (requiring f declared required)) (.str f.name)
      (List.mem_map_of_mem (List.mem_map_of_mem
        (List.mem_filter.mpr ⟨declared, decide_eq_true required⟩)))
    exact of_decide_eq_true ((settles_of_always fun _ => rfl).unique asked)
  · intro f declared x found
    have asked := settles_every_iff.mp (all _ properties) _ (List.mem_map_of_mem declared)
    dsimp only at asked
    rw [found] at asked
    exact admits_property_iff.mp asked
  · intro closed m inside
    by_contra unknown
    have asked := settles_every_iff.mp (all _ (closing closed)) m
      (List.mem_filter.mpr ⟨inside, decide_eq_true unknown⟩)
    cases asked.unique (refuses_false m.2)

end Keywords

section Definitions

variable {components : List (String × Json)} {published : Definition → Prop}
  (holds : Publishes components published) {order : KeyOrder} {d : Json}

include holds in
/-- The schema of a tagged union admits what exactly one variant admits. -/
theorem admits_tagged_iff {variants : List Record} (distinct : distinctLabels variants = true)
    (there : ∀ q ∈ variants, published (.record q)) :
    Admits components ((Shape.tagged variants).schema.written order) d ↔ ∃ r ∈ variants,
      Admits components (Schema.refTo r.name) d ∧
        ∀ q ∈ variants, q ≠ r → ¬ Admits components (Schema.refTo q.name) d := by
  simp only [distinctLabels, Bool.and_eq_true, decide_eq_true_eq] at distinct
  have decided : ∀ q ∈ variants, Decides components (Schema.refTo q.name) d := by
    intro q listed
    apply decides_schema holds (.record q) d .listed
    intro δ inside
    cases List.mem_singleton.mp inside
    exact there q listed
  rw [admits_written_iff, Shape.schema, Schema.members]
  simp only [mem_arrange, List.mem_pair, forall_eq_or_imp, forall_eq, List.map_map]
  rw [and_iff_left (yields_remark (by simp))]
  refine (yields_oneOf_iff (fun r : Record => Schema.refTo r.name) distinct.2.of_map
    decided).trans ?_
  refine exists_congr fun r => and_congr_right fun _ => and_congr_right fun _ => ?_
  exact forall₂_congr fun q listed => imp_congr_right fun _ => (decided q listed).refuses_iff

include holds in
theorem admits_given {f : Field} {x : Json} (mentioned : ∀ δ ∈ f.shape.definitions, published δ)
    (admits : Admits components (f.schema.written .sorted) x) (kept : ¬ f.skips x) :
    Admits components (f.shape.schema.written .sorted) x := by
  rw [Field.schema] at admits
  split at admits
  · rename_i optional
    -- Null would stand for a field that is left out.
    rcases (admits_anyOf_iff (decides_schema holds _ _ _ mentioned) (decides_kind rfl)).mp admits
      with here | null
    · exact here
    · exact absurd ⟨optional, kind_of_admits (k := .null) (by decide) List.mem_cons_self null⟩ kept
  · exact admits

include holds in
/-- The schema of a shape admits only documents of the shape, or such that lack a label. -/
theorem belongs_of_admits {s : Shape} (separated : s.separated = true)
    (there : ∀ δ ∈ s.definitions, published δ)
    (admits : Admits components (s.schema.written order) d) (labelled : ¬ Unlabelled s d) :
    Belongs s d := by
  induction s, d using Shape.descend generalizing order with
  | text d =>
    obtain ⟨s, rfl⟩ :=
      str_of_kind (kind_of_admits (k := .string) (by decide) List.mem_cons_self admits)
    exact .text s
  | flag d =>
    have kind := kind_of_admits (k := .boolean) (by decide) List.mem_cons_self admits
    cases d with
    | bool b => exact .flag b
    | _ => cases kind
  | integer d =>
    have kind := kind_of_admits (k := .integer) (by decide) List.mem_cons_self admits
    cases d with
    | int i => exact .integer i
    | _ => cases kind
  | natural d =>
    obtain ⟨i, lower, upper, rfl⟩ := int_of_between admits
    exact .natural lower (by omega)
  | json d => exact .json d
  | names d =>
    obtain ⟨items, rfl, some, each⟩ := items_of_array admits
    refine .names (List.length_pos_iff.mp some) ?_
    intro x inside
    obtain ⟨s, rfl⟩ :=
      str_of_kind (kind_of_admits (k := .string) (by decide) List.mem_cons_self (each x inside))
    exact .text s
  | choice e d =>
    have admits := (admits_ref holds (there (.enumeration e) List.mem_cons_self)).mp admits
    obtain ⟨w, known, rfl⟩ := word_of_enumeration admits
    exact .choice known
  | operator e d =>
    obtain ⟨s, rfl⟩ :=
      str_of_kind (kind_of_admits (k := .string) (by decide) List.mem_cons_self admits)
    exact .operator e s
  | tag label d =>
    cases eq_of_const admits
    exact .tag label
  | list item d ih =>
    obtain ⟨items, rfl, _, each⟩ := items_of_array admits
    refine .list ?_
    intro x inside
    exact ih x inside separated there (each x inside) fun lacks => labelled (.item inside lacks)
  | map value d ih =>
    obtain ⟨members, rfl, each⟩ := members_of_map admits
    refine .map ?_
    intro m inside
    exact ih m inside separated there (each m inside) fun lacks => labelled (.entry inside lacks)
  | record r d ih =>
    have admits := (admits_ref holds (there (.record r) List.mem_cons_self)).mp admits
    obtain ⟨members, rfl, required, given, known⟩ := members_of_record admits
    refine .record required ?_ known
    intro f declared x found kept
    have mentioned : ∀ δ ∈ f.shape.definitions, published δ := by
      intro δ inside
      exact holds.closed _ (there (.record r) List.mem_cons_self) δ
        (List.mem_flatMap.mpr ⟨f, declared, inside⟩)
    have fits := admits_given holds mentioned (given f declared x found) kept
    exact ih f declared x found (Record.fields_separated declared) mentioned fits
      fun lacks => labelled (.field declared found lacks)
  | tagged variants d ih =>
    have variants_there : ∀ q ∈ variants, published (.record q) := by
      intro q listed
      exact there (.record q) (List.mem_map_of_mem listed)
    obtain ⟨r, variant, admits, _⟩ := (admits_tagged_iff holds separated variants_there).mp admits
    obtain ⟨members, rfl, _, given, _⟩ :=
      members_of_record ((admits_ref holds (variants_there r variant)).mp admits)
    obtain ⟨label, named⟩ : ∃ label, r.label? = some label := by
      simp only [Shape.separated, distinctLabels, Bool.and_eq_true, List.all_eq_true] at separated
      exact Option.isSome_iff_exists.mp (separated.1 r variant)
    cases found : lookup "type" members with
    | none => exact absurd (.here (lookup_eq_none_iff.mp found)) labelled
    | some x =>
      cases eq_of_const (given _ (Record.variant_mem_fields named) x found)
      have r_there : ∀ δ ∈ (Shape.record r).definitions, published δ := by
        intro δ inside
        cases List.mem_singleton.mp inside
        exact variants_there r variant
      have fits : Admits components ((Shape.record r).schema.written .listed) (.obj members) :=
        admits
      exact .tagged variant named found
        (ih r variant rfl r_there fits fun lacks => labelled (.variant variant named found lacks))
  | either first second d first_ih second_ih =>
    simp only [Shape.separated, Bool.and_eq_true] at separated
    have first_there : ∀ δ ∈ first.definitions, published δ :=
      fun δ inside => there δ (List.mem_append_left _ inside)
    have second_there : ∀ δ ∈ second.definitions, published δ :=
      fun δ inside => there δ (List.mem_append_right _ inside)
    rcases (admits_anyOf_iff (decides_schema holds _ _ _ first_there)
      (decides_schema holds _ _ _ second_there)).mp admits
      with here | here
    · exact .first (first_ih separated.1.1 first_there here fun lacks => labelled (.first lacks))
    · exact .second (second_ih separated.1.2 second_there here fun lacks =>
        labelled (.second lacks))

end Definitions

/-! Components. -/

namespace Components

def Validates (cs : Components) (name : String) (d : Json) : Prop :=
  ∃ schema, lookup name cs.toJson.members = some schema ∧ Admits cs.toJson.members schema d

section Quiet

variable {reg : Registry} (ascending : reg.Ascending) (quiet : (ofRegistry reg).2 = []) {d : Json}

include ascending quiet

theorem validates_definition {δ : Definition} (inside : δ ∈ reached reg) :
    (ofRegistry reg).1.Validates δ.name d ↔
      Admits (ofRegistry reg).1.toJson.members (Schema.refTo δ.name) d := by
  have written : lookup δ.name (ofRegistry reg).1.toJson.members = some δ.toJson := by
    rw [lookup_written, find?_reached ascending quiet inside]
    rfl
  rw [admits_ref (publishes ascending quiet) inside, Validates, written]
  exact ⟨fun ⟨_, found, admits⟩ => Option.some.inj found ▸ admits, fun admits => ⟨_, rfl, admits⟩⟩

theorem required_of_validates {r : Record} (inside : .record r ∈ reached reg)
    {members : List (String × Json)} (valid : (ofRegistry reg).1.Validates r.name (.obj members))
    {f : Field} (declared : f ∈ r.fields) (required : f.need = .required) :
    f.name ∈ members.map (·.1) := by
  have admits := (validates_definition ascending quiet inside).mp valid
  obtain ⟨_, same, all_there, _⟩ :=
    members_of_record ((admits_ref (publishes ascending quiet) inside).mp admits)
  cases same
  exact all_there f declared required

theorem validates_iff {name : String} {t : WireType} (registered : reg.find? name = some t) :
    (ofRegistry reg).1.Validates name d ↔
      Admits (ofRegistry reg).1.toJson.members (t.shape.schema.written .listed) d := by
  rcases find?_registered ascending registered with schema | self
  · have written : lookup name (ofRegistry reg).1.toJson.members =
        some (t.shape.schema.written .listed) := by
      rw [lookup_written, schema]
      rfl
    rw [Validates, written]
    exact ⟨fun ⟨_, found, admits⟩ => Option.some.inj found ▸ admits, fun admits => ⟨_, rfl, admits⟩⟩
  · obtain ⟨δ, inside, rfl⟩ := Shape.mentions_of_ref self
    rw [validates_definition ascending quiet (mentioned_reached registered inside),
      show t.shape.schema = .ref δ.name from self]
    rfl

theorem validates_tagged_iff {name : String} {t : WireType} {variants : List Record}
    (registered : reg.find? name = some t) (union : t.shape = .tagged variants) :
    (ofRegistry reg).1.Validates name d ↔ ∃ r ∈ variants, (ofRegistry reg).1.Validates r.name d ∧
      ∀ q ∈ variants, q ≠ r → ¬ (ofRegistry reg).1.Validates q.name d := by
  have distinct : distinctLabels variants = true := by
    have separated := t.separated
    rwa [union] at separated
  have there : ∀ q ∈ variants, Definition.record q ∈ reached reg := by
    intro q listed
    apply mentioned_reached registered
    rw [union]
    exact List.mem_map_of_mem listed
  have valid_iff : ∀ q ∈ variants, (ofRegistry reg).1.Validates q.name d ↔
      Admits (ofRegistry reg).1.toJson.members (Schema.refTo q.name) d :=
    fun q listed => validates_definition ascending quiet (there q listed)
  rw [validates_iff ascending quiet registered, union,
    admits_tagged_iff (publishes ascending quiet) distinct there]
  refine exists_congr fun r => and_congr_right fun listed => ?_
  rw [valid_iff r listed]
  exact and_congr_right fun _ =>
    forall₂_congr fun q other => imp_congr_right fun _ => not_congr (valid_iff q other).symm

theorem decode_iff_validates {name : String} {t : WireType} (registered : reg.find? name = some t) :
    (∃ v, decode t.shape d = .ok v) ↔
      (ofRegistry reg).1.Validates name d ∧ ¬ Unlabelled t.shape d := by
  have decodes_iff : (∃ v, decode t.shape d = .ok v) ↔ Belongs t.shape d := by
    simp only [decode_eq_ok_iff]
    exact read_iff_belongs t.separated
  rw [decodes_iff, validates_iff ascending quiet registered]
  have there : ∀ δ ∈ t.shape.definitions, δ ∈ reached reg :=
    fun δ inside => mentioned_reached registered inside
  constructor
  · intro belongs
    refine ⟨admits_of_belongs (publishes ascending quiet) belongs t.separated there, ?_⟩
    exact fun lacks => lacks.not_belongs t.separated t.unhidden belongs
  · rintro ⟨admits, labelled⟩
    exact belongs_of_admits (publishes ascending quiet) t.separated there admits labelled

end Quiet

theorem standard_ascending : Registry.standard.Ascending :=
  Registry.ascending Registry.standardTypes

/-- Of every wire type exactly those documents are decoded that are valid against its component and
lack no label. Against the component of a tagged union a document is valid if it is against that of
exactly one variant, and for this it needs no label. -/
theorem standard_decode_iff_validates (name : String) (t : WireType) (d : Json)
    (registered : Registry.standard.find? name = some t) :
    ((∃ v, decode t.shape d = .ok v) ↔ (ofRegistry Registry.standard).1.Validates name d ∧
      ¬ Unlabelled t.shape d) ∧
      ∀ variants, t.shape = .tagged variants → ((ofRegistry Registry.standard).1.Validates name d ↔
        ∃ r ∈ variants, (ofRegistry Registry.standard).1.Validates r.name d ∧
          ∀ q ∈ variants, q ≠ r → ¬ (ofRegistry Registry.standard).1.Validates q.name d) :=
  ⟨decode_iff_validates standard_ascending standard_quiet registered,
    fun _ union => validates_tagged_iff standard_ascending standard_quiet registered union⟩

theorem standard_target : Registry.standard.find? "Target" = some (.alias .target) :=
  Registry.find?_standard (by decide +kernel)

theorem standard_decode_iff_validates_target :
    Registry.standard.find? "Target" = some (.alias .target) ∧
      (ofRegistry Registry.standard).1.Validates "Target"
        (.obj [("id", .str "q"), ("type", .str "interpolated")]) ∧
      ¬ Unlabelled Alias.target.shape (.obj [("id", .str "q"), ("type", .str "interpolated")]) :=
  ⟨standard_target, (standard_decode_iff_validates "Target" (.alias .target) _ standard_target).1.mp
    ⟨.record .interpolatedTarget [("type", .text "interpolated"), ("id", .text "q")], rfl⟩⟩

/-- The schemas are not as strict as decoding: a target that can only be a table is valid without
its label. -/
theorem unlabelled_target_validates :
    Registry.standard.find? "Target" = some (.alias .target) ∧
      (ofRegistry Registry.standard).1.Validates "Target" (.obj [("name", .arr [.str "Album"])]) ∧
      ¬ ∃ v, decode Alias.target.shape (.obj [("name", .arr [.str "Album"])]) = .ok v := by
  refine ⟨standard_target, ?_, ?_⟩
  · rw [validates_tagged_iff standard_ascending standard_quiet standard_target rfl]
    refine ⟨.tableTarget, by decide, ?_, ?_⟩
    · have registered : Registry.standard.find? "TableTarget" = some (.record .tableTarget) :=
        Registry.find?_standard (by decide +kernel)
      refine ((decode_iff_validates standard_ascending standard_quiet registered).mp ⟨_, rfl⟩).1
    · intro q listed other valid
      have inside := mentioned_reached standard_target (List.mem_map_of_mem listed)
      have required :=
        fun f => required_of_validates standard_ascending standard_quiet inside valid (f := f)
      simp only [List.mem_cons, List.not_mem_nil, or_false] at listed
      rcases listed with rfl | rfl | rfl
      · exact other rfl
      · exact absurd (required (req "id" .text) (by decide) rfl) (by decide)
      · exact absurd (required (req "arguments" (.list (.record .namedArgument))) (by decide) rfl)
          (by decide)
  · rintro ⟨v, decoded⟩
    cases decoded

end Components

end AgentWire
