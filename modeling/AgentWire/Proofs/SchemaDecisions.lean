import AgentWire.Proofs.SchemaAdmission

/-! The exported schemas decide every document: from some bound on the verdict is yes or no,
although a schema may refer to itself, since every reference that is followed leads to a smaller
schema or a smaller document. -/
namespace AgentWire.Verdict

/-- A verdict that does not stay open. -/
def Decided (verdict : Nat → Option Bool) : Prop :=
  ∃ answer, Settles verdict answer

section Decided

variable {α : Type} {verdict : Nat → Option Bool} {answer : Bool}

theorem Settles.unique {other : Bool} (here : Settles verdict answer)
    (there : Settles verdict other) :
    answer = other := by
  obtain ⟨first, settled⟩ := here
  obtain ⟨later, same⟩ := there
  have equal :=
    (settled (max first later) (by omega)).symm.trans (same (max first later) (by omega))
  exact Option.some.inj equal

theorem decided_of_always (always : ∀ depth, verdict depth = some answer) : Decided verdict :=
  ⟨answer, settles_of_always always⟩

variable {parts : List α} {part : α → Nat → Option Bool}

/-- Finitely many decided verdicts have a bound from which on all of them are what they settle
to. -/
theorem decided_bound (each : ∀ a ∈ parts, Decided (part a)) :
    ∃ answer : α → Bool, (∀ a ∈ parts, Settles (part a) (answer a)) ∧
      ∃ least, ∀ depth, least ≤ depth →
        (parts.map fun a => part a depth) = (parts.map answer).map some := by
  choose! answer settles using each
  obtain ⟨least, settled⟩ := common_bound settles
  refine ⟨answer, settles, least, ?_⟩
  intro depth enough
  rw [List.map_map]
  exact List.map_congr_left fun a inside => settled a inside depth enough

/-- What combines verdicts is decided if it is decided where all verdicts are. -/
theorem decided_combined (combine : List (Option Bool) → Option Bool)
    (closed : ∀ answers : List Bool, ∃ answer, combine (answers.map some) = some answer)
    (each : ∀ a ∈ parts, Decided (part a)) :
    Decided fun depth => combine (parts.map fun a => part a depth) := by
  obtain ⟨answer, _, least, settled⟩ := decided_bound each
  obtain ⟨whole, combined⟩ := closed (parts.map answer)
  refine ⟨whole, least, ?_⟩
  intro depth enough
  dsimp only
  rw [settled depth enough, combined]

theorem decided_every (each : ∀ a ∈ parts, Decided (part a)) :
    Decided fun depth => every (parts.map fun a => part a depth) := by
  refine decided_combined every ?_ each
  intro answers
  rw [every]
  split
  · exact ⟨false, rfl⟩
  · exact ⟨true, by simp⟩

theorem decided_any (each : ∀ a ∈ parts, Decided (part a)) :
    Decided fun depth => any (parts.map fun a => part a depth) := by
  refine decided_combined any ?_ each
  intro answers
  rw [any]
  split
  · exact ⟨true, rfl⟩
  · exact ⟨false, by simp⟩

theorem decided_single (each : ∀ a ∈ parts, Decided (part a)) :
    Decided fun depth => single (parts.map fun a => part a depth) := by
  refine decided_combined single ?_ each
  intro answers
  exact ⟨_, if_neg (by simp)⟩

theorem settles_any_iff (each : ∀ a ∈ parts, Decided (part a)) :
    Settles (fun depth => any (parts.map fun a => part a depth)) true ↔
      ∃ a ∈ parts, Settles (part a) true := by
  constructor
  · rintro ⟨first, yes⟩
    obtain ⟨answer, settles, least, settled⟩ := decided_bound each
    have here := yes (max first least) (by omega)
    dsimp only at here
    rw [settled (max first least) (by omega), any] at here
    have some_true : some true ∈ (parts.map answer).map some := by
      by_contra none
      rw [if_neg none] at here
      split at here <;> cases here
    obtain ⟨_, listed, same⟩ := List.mem_map.mp some_true
    obtain ⟨a, inside, rfl⟩ := List.mem_map.mp listed
    exact ⟨a, inside, Option.some.inj same ▸ settles a inside⟩
  · rintro ⟨a, inside, yes⟩
    exact settles_any inside yes

theorem settles_single_iff [DecidableEq α] (distinct : parts.Nodup)
    (each : ∀ a ∈ parts, Decided (part a)) :
    Settles (fun depth => single (parts.map fun a => part a depth)) true ↔
      ∃ a ∈ parts, Settles (part a) true ∧ ∀ b ∈ parts, b ≠ a → Settles (part b) false := by
  constructor
  · intro yes
    obtain ⟨answer, settles, least, settled⟩ := decided_bound each
    obtain ⟨first, counted⟩ := yes
    have here := counted (max first least) (by omega)
    dsimp only at here
    rw [settled (max first least) (by omega), single, if_neg (by simp), Option.some.injEq,
      beq_iff_eq] at here
    -- One answer is yes, so the parts that are admitted are a list of one.
    have once : (parts.filter answer).length = 1 := by
      rw [← here, List.map_map, List.count, List.countP_map, List.countP_eq_length_filter]
      congr 1
      exact List.filter_congr fun a _ => by simp
    obtain ⟨a, only⟩ := List.length_eq_one_iff.mp once
    have admitted : ∀ b, b ∈ parts ∧ answer b = true ↔ b = a := by
      intro b
      rw [← List.mem_filter, only, List.mem_singleton]
    obtain ⟨inside, yes⟩ := (admitted a).mpr rfl
    refine ⟨a, inside, yes ▸ settles a inside, ?_⟩
    intro b listed other
    have no : answer b = false :=
      Bool.not_eq_true _ ▸ fun yes => other ((admitted b).mp ⟨listed, yes⟩)
    exact no ▸ settles b listed
  · rintro ⟨a, inside, yes, others⟩
    exact settles_single distinct inside yes others

end Decided

end AgentWire.Verdict

namespace AgentWire

open Json Verdict

/-- A document is valid or not valid against a schema. -/
def Json.Decides (components : List (String × Json)) (schema d : Json) : Prop :=
  Decided fun depth => judge components depth schema d

theorem Json.Decides.refuses_iff {components : List (String × Json)} {schema d : Json}
    (decides : Decides components schema d) :
    Refuses components schema d ↔ ¬ Admits components schema d := by
  refine ⟨fun refuses admits => not_refuses_of_admits admits refuses, ?_⟩
  intro not_admitted
  obtain ⟨answer, settles⟩ := decides
  cases answer with
  | false => exact settles
  | true => exact absurd settles not_admitted

section Keywords

variable {components : List (String × Json)} {keywords : List (String × Json)} {d : Json}

theorem refuses_false (d : Json) : Refuses components (.bool false) d :=
  settles_deeper (settles_of_always fun _ => rfl) fun _ => rfl

theorem decides_keywords
    (each : ∀ k ∈ keywords, ∃ answer, Yields components (declared keywords) k d answer) :
    Decides components (.obj keywords) d := by
  obtain ⟨answer, settles⟩ := decided_every each
  exact ⟨answer, settles_level.mpr settles⟩

variable {known : List String}

theorem decides_remark {key : String} {arg : Json}
    (remark : key ∈ ["title", "description", "default", "discriminator"]) :
    ∃ answer, Yields components known (key, arg) d answer :=
  ⟨true, yields_remark remark⟩

theorem decides_type (name : String) :
    ∃ answer, Yields components known ("type", .str name) d answer :=
  ⟨_, settles_of_always fun _ => rfl⟩

theorem decides_const (word : String) :
    ∃ answer, Yields components known ("const", .str word) d answer := by
  cases d <;> exact ⟨_, settles_of_always fun _ => rfl⟩

theorem decided_isText {words : List String} {option : Json}
    (listed : option ∈ words.map Json.str) :
    Decided fun _ => isText option d := by
  obtain ⟨word, _, rfl⟩ := List.mem_map.mp listed
  cases d <;> exact decided_of_always fun _ => rfl

theorem decides_enum (words : List String) :
    ∃ answer, Yields components known ("enum", .arr (words.map .str)) d answer :=
  decided_any fun _ listed => decided_isText listed

theorem decides_minItems (least : Int) :
    ∃ answer, Yields components known ("minItems", .int least) d answer := by
  cases d <;> exact ⟨_, settles_of_always fun _ => rfl⟩

theorem decides_items {schema : Json} (each : ∀ x ∈ d.items, Decides components schema x) :
    ∃ answer, Yields components known ("items", schema) d answer := by
  cases d with
  | arr items => exact decided_every each
  | _ => exact ⟨true, settles_of_always fun _ => rfl⟩

theorem decides_additional {schema : Json} (each : ∀ m ∈ d.members, Decides components schema m.2) :
    ∃ answer, Yields components known ("additionalProperties", schema) d answer := by
  cases d with
  | obj members => exact decided_every fun m inside => each m (List.mem_of_mem_filter inside)
  | _ => exact ⟨true, settles_of_always fun _ => rfl⟩

theorem decides_properties {properties : List (String × Json)}
    (each : ∀ p ∈ properties, ∀ x, lookup p.1 d.members = some x → Decides components p.2 x) :
    ∃ answer, Yields components known ("properties", .obj properties) d answer := by
  cases d with
  | obj members =>
    refine decided_every ?_
    intro p inside
    cases found : lookup p.1 members with
    | none => exact decided_of_always fun _ => rfl
    | some x => exact each p inside x found
  | _ => exact ⟨true, settles_of_always fun _ => rfl⟩

theorem decides_required (names : List String) :
    ∃ answer, Yields components known ("required", .arr (names.map .str)) d answer := by
  cases d with
  | obj members =>
    refine decided_every ?_
    intro name listed
    obtain ⟨word, _, rfl⟩ := List.mem_map.mp listed
    exact decided_of_always fun _ => rfl
  | _ => exact ⟨true, settles_of_always fun _ => rfl⟩

theorem decides_anyOf {options : List Json}
    (each : ∀ option ∈ options, Decides components option d) :
    ∃ answer, Yields components known ("anyOf", .arr options) d answer :=
  decided_any each

theorem decides_oneOf {options : List Json}
    (each : ∀ option ∈ options, Decides components option d) :
    ∃ answer, Yields components known ("oneOf", .arr options) d answer :=
  decided_single each

theorem yields_oneOf_iff {α : Type} [DecidableEq α] (schema : α → Json) {parts : List α}
    (distinct : parts.Nodup) (each : ∀ a ∈ parts, Decides components (schema a) d) :
    Yields components known ("oneOf", .arr (parts.map schema)) d true ↔
      ∃ a ∈ parts, Admits components (schema a) d ∧
        ∀ b ∈ parts, b ≠ a → Refuses components (schema b) d := by
  have level : ∀ depth, keyword components (judge components depth) known "oneOf"
      (.arr (parts.map schema)) d =
      single (parts.map fun a => judge components depth (schema a) d) := by
    intro depth
    show single ((parts.map schema).map _) = _
    rw [List.map_map]
    rfl
  simp only [Yields, level]
  exact settles_single_iff distinct each

end Keywords

section Schemas

variable {components : List (String × Json)} {order : KeyOrder} {d : Json}

theorem decides_written {s : Schema}
    (each : ∀ k ∈ s.members order, ∃ answer, Yields components [] k d answer) :
    Decides components (s.written order) d := by
  apply decides_keywords
  rw [Schema.declared_members]
  exact each

theorem decides_kind {s : Schema} {name : String}
    (plain : s.members order = [("type", .str name)]) :
    Decides components (s.written order) d := by
  apply decides_written
  rw [plain, List.forall_mem_singleton]
  exact decides_type name

theorem decides_between (low high : Int) :
    Decides components ((Schema.between low high).written order) d := by
  cases d with
  | num x =>
    -- The bounds leave a double open, but it is no integer anyway.
    refine ⟨false, refuses_of_keyword ((mem_arrange order).mpr List.mem_cons_self) ?_⟩
    exact settles_of_always fun _ => rfl
  | _ =>
    apply decides_written
    intro k inside
    rw [Schema.members, mem_arrange] at inside
    simp only [List.mem_cons, List.not_mem_nil, or_false] at inside
    rcases inside with rfl | rfl | rfl <;> exact ⟨_, settles_of_always fun _ => rfl⟩

theorem decides_array {item : Schema} {atLeast : Nat}
    (each : ∀ x ∈ d.items, Decides components (item.written order) x) :
    Decides components ((Schema.array item atLeast).written order) d := by
  apply decides_written
  intro k inside
  rw [Schema.members, mem_arrange, List.mem_append, List.mem_pair] at inside
  rcases inside with (rfl | rfl) | bound
  · exact decides_type "array"
  · exact decides_items each
  · split at bound
    · cases bound
    · cases List.mem_singleton.mp bound
      exact decides_minItems atLeast

theorem decides_map {value : Schema}
    (each : ∀ m ∈ d.members, Decides components (value.written order) m.2) :
    Decides components ((Schema.map value).written order) d := by
  apply decides_written
  intro k inside
  rw [Schema.members, mem_arrange, List.mem_pair] at inside
  rcases inside with rfl | rfl
  · exact decides_type "object"
  · exact decides_additional each

theorem decides_either {first second : Schema} (here : Decides components (first.written order) d)
    (there : Decides components (second.written order) d) :
    Decides components ((Schema.anyOf first second).written order) d := by
  apply decides_written
  intro k inside
  cases List.mem_singleton.mp inside
  apply decides_anyOf
  intro option listed
  rcases List.mem_pair.mp listed with rfl | rfl
  · exact here
  · exact there

theorem decides_enumeration (e : Enumeration) :
    Decides components (Definition.enumeration e).toJson d := by
  apply decides_keywords
  intro k inside
  rcases List.mem_append.mp inside with described | inside
  · exact ⟨true, yields_describe described⟩
  · simp only [List.mem_cons, List.not_mem_nil, or_false] at inside
    rcases inside with rfl | rfl | rfl
    · exact decides_enum e.words
    · exact decides_remark (by simp)
    · exact decides_type "string"

theorem decides_property {f : Field}
    (decides : Decides components (f.shape.schema.written .sorted) d) :
    Decides components f.property d := by
  have whole : Decides components (f.schema.written .sorted) d := by
    rw [Field.schema]
    split
    · exact decides_either decides (decides_kind rfl)
    · exact decides
  simpa only [Decides, judge_property] using whole

theorem decides_record {r : Record}
    (each : ∀ f ∈ r.fields, ∀ x, lookup f.name d.members = some x →
      Decides components f.property x) :
    Decides components (Definition.record r).toJson d := by
  obtain ⟨keywords, written, _, _, all⟩ := declared_record r
  rw [written]
  apply decides_keywords
  intro k inside
  rcases all k inside with rfl | described | rfl | rfl | ⟨_, rfl⟩ | rfl
  · apply decides_properties
    intro p listed x found
    obtain ⟨f, member, rfl⟩ := List.mem_map.mp listed
    exact each f member x found
  · exact ⟨true, yields_describe described⟩
  · exact decides_remark (by simp)
  · exact decides_type "object"
  · exact decides_additional fun m _ => ⟨false, refuses_false m.2⟩
  · exact decides_required _

end Schemas

section Definitions

variable {components : List (String × Json)} {published : Definition → Prop}
  (holds : Publishes components published)

include holds in
theorem decides_ref {δ : Definition} (there : published δ) {d : Json} :
    Decides components (Schema.refTo δ.name) d ↔ Decides components δ.toJson d :=
  exists_congr fun _ => settles_ref (holds.resolved δ there)

include holds in
/-- The exported schemas decide every document. -/
theorem decides_schema (s : Shape) (d : Json) (order : KeyOrder)
    (there : ∀ δ ∈ s.definitions, published δ) :
    Decides components (s.schema.written order) d := by
  induction s, d using Shape.descend generalizing order with
  | text d => exact decides_kind rfl
  | flag d => exact decides_kind rfl
  | integer d => exact decides_kind rfl
  | natural d => exact decides_between _ _
  | json d =>
    exact (decides_ref holds (there .freeJson List.mem_cons_self)).mpr ⟨true, admits_freeJson d⟩
  | names d => exact decides_array fun x _ => decides_kind rfl
  | choice e d =>
    exact (decides_ref holds (there (.enumeration e) List.mem_cons_self)).mpr
      (decides_enumeration e)
  | operator e d => exact decides_kind rfl
  | tag label d =>
    apply decides_written
    intro k inside
    rw [Shape.schema, Schema.members, mem_arrange, List.mem_pair] at inside
    rcases inside with rfl | rfl
    · exact decides_const label
    · exact decides_type "string"
  | list item d ih => exact decides_array fun x inside => ih x inside order there
  | map value d ih => exact decides_map fun m inside => ih m inside order there
  | record r d ih =>
    refine (decides_ref holds (there (.record r) List.mem_cons_self)).mpr (decides_record ?_)
    intro f declared x found
    apply decides_property
    apply ih f declared x found
    intro δ inside
    exact holds.closed _ (there (.record r) List.mem_cons_self) δ
      (List.mem_flatMap.mpr ⟨f, declared, inside⟩)
  | tagged variants d ih =>
    apply decides_written
    intro k inside
    rw [Shape.schema, Schema.members, mem_arrange, List.mem_pair, List.map_map] at inside
    rcases inside with rfl | rfl
    · apply decides_oneOf
      intro option listed
      obtain ⟨r, variant, rfl⟩ := List.mem_map.mp listed
      apply ih r variant .listed
      intro δ inside
      cases List.mem_singleton.mp inside
      exact there (.record r) (List.mem_map_of_mem variant)
    · exact decides_remark (by simp)
  | either first second d first_ih second_ih =>
    exact decides_either (first_ih order fun δ inside => there δ (List.mem_append_left _ inside))
      (second_ih order fun δ inside => there δ (List.mem_append_right _ inside))

end Definitions

end AgentWire
