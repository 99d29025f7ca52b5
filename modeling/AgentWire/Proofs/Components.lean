import AgentWire.Proofs.NameTables
import AgentWire.Proofs.SchemaAdmission

/-! The components of a registry. They hold every definition that the registered types can reach,
unless a registered name takes its place, which gives a warning. -/
namespace AgentWire

/-! Definitions that can be reached. -/

namespace Definition

theorem mem_all (δ : Definition) : δ ∈ all := by
  cases δ with
  | record r =>
    have listed : r ∈ Record.all := by cases r <;> decide
    simp [all, listed]
  | enumeration e =>
    have listed : e ∈ Enumeration.all := by cases e <;> decide
    simp [all, listed]
  | freeJson => exact List.mem_cons_self

theorem name_injective {δ ε : Definition} (same : δ.name = ε.name) : δ = ε := by
  have distinct : (all.map name).Nodup := by decide +kernel
  exact List.inj_on_of_nodup_map distinct (mem_all δ) (mem_all ε) same

/-- The calls that the definitions not yet found may still take. -/
def remaining (found : List Definition) (among : List Definition) : Nat :=
  (among.map fun δ => if δ ∈ found then 0 else δ.mentions.length + 1).foldr (· + ·) 0

theorem remaining_nil (among : List Definition) :
    remaining [] among = (among.map fun δ => δ.mentions.length + 1).foldr (· + ·) 0 := by
  simp [remaining]

theorem remaining_le (δ : Definition) (found among : List Definition) :
    remaining (δ :: found) among ≤ remaining found among := by
  induction among with
  | nil => exact Nat.le_refl _
  | cons ε rest ih =>
    simp only [remaining, List.map_cons, List.foldr_cons] at ih ⊢
    apply Nat.add_le_add _ ih
    by_cases here : ε ∈ found
    · simp [here]
    · rw [if_neg here]
      split <;> omega

/-- A definition that is found takes no more calls. -/
theorem remaining_cons {δ : Definition} {found among : List Definition} (new : δ ∉ found)
    (inside : δ ∈ among) :
    remaining (δ :: found) among + (δ.mentions.length + 1) ≤ remaining found among := by
  induction among with
  | nil => cases inside
  | cons ε rest ih =>
    have rest_le := remaining_le δ found rest
    simp only [remaining, List.map_cons, List.foldr_cons] at ih rest_le ⊢
    by_cases here : ε = δ
    · subst here
      rw [if_pos List.mem_cons_self, if_neg new]
      omega
    · have later := ih ((List.mem_cons.mp inside).resolve_left (Ne.symm here))
      have same : (ε ∈ δ :: found) = (ε ∈ found) := by simp [here]
      simp only [same]
      omega

/-- With enough calls all that is pending is found, and all that what is found mentions. -/
theorem explore_closed {fuel : Nat} {pending found : List Definition}
    (enough : pending.length + remaining found all ≤ fuel)
    (followed : ∀ δ ∈ found, ∀ ε ∈ δ.mentions, ε ∈ found ∨ ε ∈ pending) :
    (∀ δ ∈ pending, δ ∈ explore fuel pending found) ∧
      (∀ δ ∈ found, δ ∈ explore fuel pending found) ∧
      ∀ δ ∈ explore fuel pending found, ∀ ε ∈ δ.mentions, ε ∈ explore fuel pending found := by
  -- Each call takes a definition off the pending ones. One that is new adds its mentions to them,
  -- but then it is found, and what remains counts its mentions no more.
  induction fuel generalizing pending found with
  | zero =>
    obtain rfl : pending = [] := List.length_eq_zero_iff.mp (by omega)
    exact ⟨by simp, fun δ inside => inside, fun δ inside ε mentioned =>
      (followed δ inside ε mentioned).resolve_right List.not_mem_nil⟩
  | succ fuel ih =>
    cases pending with
    | nil => exact ⟨by simp, fun δ inside => inside, fun δ inside ε mentioned =>
      (followed δ inside ε mentioned).resolve_right List.not_mem_nil⟩
    | cons δ rest =>
      rw [List.length_cons] at enough
      by_cases here : δ ∈ found
      · have step : explore (fuel + 1) (δ :: rest) found = explore fuel rest found := if_pos here
        have follows : ∀ γ ∈ found, ∀ ε ∈ γ.mentions, ε ∈ found ∨ ε ∈ rest := by
          intro γ inside ε mentioned
          rcases followed γ inside ε mentioned with there | waiting
          · exact .inl there
          · rcases List.mem_cons.mp waiting with rfl | later
            · exact .inl here
            · exact .inr later
        obtain ⟨reached, kept, closed⟩ := ih (by omega) follows
        rw [step]
        refine ⟨?_, kept, closed⟩
        intro ε inside
        rcases List.mem_cons.mp inside with rfl | later
        · exact kept _ here
        · exact reached ε later
      · have step : explore (fuel + 1) (δ :: rest) found =
            explore fuel (δ.mentions ++ rest) (δ :: found) :=
          if_neg here
        have follows : ∀ γ ∈ δ :: found, ∀ ε ∈ γ.mentions, ε ∈ δ :: found ∨
            ε ∈ δ.mentions ++ rest := by
          intro γ inside ε mentioned
          rcases List.mem_cons.mp inside with rfl | before
          · exact .inr (List.mem_append_left _ mentioned)
          · rcases followed γ before ε mentioned with there | waiting
            · exact .inl (List.mem_cons_of_mem _ there)
            · rcases List.mem_cons.mp waiting with rfl | later
              · exact .inl List.mem_cons_self
              · exact .inr (List.mem_append_right _ later)
        have fewer := remaining_cons here (mem_all δ)
        obtain ⟨reached, kept, closed⟩ := ih (by rw [List.length_append]; omega) follows
        rw [step]
        refine ⟨?_, fun γ inside => kept γ (List.mem_cons_of_mem _ inside), closed⟩
        intro ε inside
        rcases List.mem_cons.mp inside with rfl | later
        · exact kept _ List.mem_cons_self
        · exact reached ε (List.mem_append_right _ later)

/-- What can be reached holds the start and all that its definitions mention. -/
theorem reachable_closed (start : List Definition) : (∀ δ ∈ start, δ ∈ reachable start) ∧
    ∀ δ ∈ reachable start, ∀ ε ∈ δ.mentions, ε ∈ reachable start := by
  have enough : start.length + remaining [] all ≤ effort start := by
    rw [remaining_nil]
    exact Nat.le_refl _
  obtain ⟨reached, _, closed⟩ := explore_closed enough fun δ inside => by cases inside
  exact ⟨reached, closed⟩

end Definition

/-! Components. -/

theorem Schema.componentRef_inj {name other : String} :
    componentRef name = componentRef other ↔ name = other :=
  String.append_right_inj _

namespace Components

/-- What has the members of another object has its keys. -/
theorem lookup_of_same {members others : List (String × Json)}
    (same : Json.sameMembers members others = true) {m : String × Json} (inside : m ∈ members) :
    m.1 ∈ others.map (·.1) := by
  induction members with
  | nil => cases inside
  | cons n rest ih =>
    obtain ⟨k, x⟩ := n
    rw [Json.sameMembers, Bool.and_eq_true] at same
    rcases List.mem_cons.mp inside with rfl | later
    · by_contra missing
      rw [Json.lookup_eq_none_iff.mpr missing] at same
      cases same.1
    · exact ih same.2 later

theorem member_of_schema (s : Schema) (order : KeyOrder) : s.members order ≠ [] := by
  have arranged : ∀ (m : String × Json) rest, order.arrange (m :: rest) ≠ [] := by
    intro m rest none
    have inside := (mem_arrange order).mpr (List.mem_cons_self (a := m) (l := rest))
    rw [none] at inside
    cases inside
  cases s with
  | between low high => exact arranged _ _
  | const word => exact arranged _ _
  | array items atLeast => exact arranged _ _
  | map values => exact arranged _ _
  | oneOf variants => exact arranged _ _
  | _ => exact List.cons_ne_nil _ _

/-- A schema is never written as a definition is. -/
theorem definition_not_same (δ : Definition) (s : Schema) (order : KeyOrder) :
    δ.toJson.same (.obj (s.members order)) = false := by
  have foreign : ∀ keywords : List (String × Json), ∀ k ∈ keywords, k.1 ∉ Schema.keywords →
      (Json.obj keywords).same (.obj (s.members order)) = false := by
    intro keywords k inside unknown
    by_contra same
    rw [Json.same, Bool.not_eq_false, Bool.and_eq_true] at same
    obtain ⟨m, member, name⟩ := List.mem_map.mp (lookup_of_same same.2 inside)
    exact unknown (name ▸ Schema.keyword_mem member)
  cases δ with
  | record r =>
    obtain ⟨keywords, written, _, properties, _⟩ := declared_record r
    rw [written]
    exact foreign keywords _ properties (show "properties" ∉ Schema.keywords by decide)
  | enumeration e =>
    exact foreign _ ("enum", .arr (e.words.map .str)) (by simp)
      (show "enum" ∉ Schema.keywords by decide)
  | freeJson =>
    have some := member_of_schema s order
    show ((0 == (s.members order).length) && _) = false
    cases members : s.members order with
    | nil => exact absurd members some
    | cons m rest => rfl

theorem collides_definition {cs : Components} {name : String} {δ : Definition} {s : Schema}
    (found : cs.find? name = some (.definition δ)) : collides cs name s = true := by
  rw [collides, found]
  show (!(δ.toJson.same (.obj (s.members .listed)))) = true
  rw [definition_not_same]
  rfl

/-- The warning for a name that a registered type takes from a definition. -/
def collisionWarning (name : String) : String :=
  "Component name collision for '" ++ name ++ "', keeping the alias schema"

theorem collisionWarning_injective {name other : String}
    (same : collisionWarning name = collisionWarning other) :
    name = other :=
  (String.append_right_inj _).mp ((String.append_left_inj _).mp same)

theorem addAll_self {cs : Components} {name : String} {t : WireType}
    {rest : List (String × WireType)} (self : isSelf name t.schema = true) :
    addAll cs ((name, t) :: rest) = addAll cs rest :=
  if_pos self

theorem addAll_other {cs : Components} {name : String} {t : WireType}
    {rest : List (String × WireType)} (other : isSelf name t.schema = false) :
    addAll cs ((name, t) :: rest) =
      ((addAll (cs.insert name (.schema t.schema)) rest).1,
        (if collides cs name t.schema then [collisionWarning name]
          else []) ++ (addAll (cs.insert name (.schema t.schema)) rest).2) :=
  if_neg (by rw [other]; exact Bool.false_ne_true)

section AddAll

variable {cs : Components} {entries : List (String × WireType)}
  (distinct : (entries.map (·.1)).Nodup)

include distinct

/-- Every registered name has the schema of its type, unless the schema only refers to the name, and
no other name is touched. -/
theorem find?_addAll : (∀ name, (∀ t, (name, t) ∈ entries → isSelf name t.schema = true) →
      (addAll cs entries).1.find? name = cs.find? name) ∧
    ∀ name t, (name, t) ∈ entries → isSelf name t.schema = false →
      (addAll cs entries).1.find? name = some (.schema t.schema) := by
  induction entries generalizing cs with
  | nil => exact ⟨fun name _ => rfl, fun name t inside => by cases inside⟩
  | cons e rest ih =>
    obtain ⟨n, u⟩ := e
    rw [List.map_cons, List.nodup_cons] at distinct
    obtain ⟨new, distinct⟩ := distinct
    have other : ∀ t, (n, t) ∉ rest := fun t inside => new (List.mem_map.mpr ⟨(n, t), inside, rfl⟩)
    cases self : isSelf n u.schema with
    | true =>
      rw [addAll_self self]
      obtain ⟨kept, placed⟩ := ih distinct
      constructor
      · intro name selves
        exact kept name fun t inside => selves t (List.mem_cons_of_mem _ inside)
      · intro name t inside written
        rcases List.mem_cons.mp inside with same | later
        · cases same
          cases self.symm.trans written
        · exact placed name t later written
    | false =>
      rw [addAll_other self]
      obtain ⟨kept, placed⟩ := @ih (cs.insert n (.schema u.schema)) distinct
      constructor
      · intro name selves
        have different : n ≠ name := by
          rintro rfl
          cases self.symm.trans (selves u List.mem_cons_self)
        refine (kept name fun t inside => selves t (List.mem_cons_of_mem _ inside)).trans ?_
        rw [NameTable.find?_insert, if_neg different]
      · intro name t inside written
        rcases List.mem_cons.mp inside with same | later
        · cases same
          refine (kept n fun t there => absurd there (other t)).trans ?_
          rw [NameTable.find?_insert, if_pos rfl]
        · exact placed name t later written

/-- There is one warning for every registered name that is taken from another component. Names
differ, so what is added for one name collides with no other. -/
theorem warnings_addAll : (addAll cs entries).2 = (entries.filter fun e =>
    !isSelf e.1 e.2.schema && collides cs e.1 e.2.schema).map fun e => collisionWarning e.1 := by
  induction entries generalizing cs with
  | nil => rfl
  | cons e rest ih =>
    obtain ⟨n, u⟩ := e
    rw [List.map_cons, List.nodup_cons] at distinct
    obtain ⟨new, distinct⟩ := distinct
    rw [List.filter_cons]
    cases self : isSelf n u.schema with
    | true =>
      rw [addAll_self self]
      exact ih distinct
    | false =>
      have untouched : ∀ e ∈ rest, collides (cs.insert n (.schema u.schema)) e.1 e.2.schema =
          collides cs e.1 e.2.schema := by
        intro e inside
        have different : n ≠ e.1 := fun same => new (List.mem_map.mpr ⟨e, inside, same.symm⟩)
        rw [collides, collides, NameTable.find?_insert, if_neg different]
      have later : (addAll (cs.insert n (.schema u.schema)) rest).2 = (rest.filter fun e =>
          !isSelf e.1 e.2.schema && collides cs e.1 e.2.schema).map
          fun e => collisionWarning e.1 := by
        rw [ih distinct, List.filter_congr fun e inside => by rw [untouched e inside]]
      rw [addAll_other self, later]
      cases collides cs n u.schema <;> rfl

end AddAll

def reached (reg : Registry) : List Definition :=
  Definition.reachable (reg.entries.flatMap fun e => e.2.shape.definitions)

theorem mentioned_reached {reg : Registry} {name : String} {t : WireType}
    (registered : reg.find? name = some t) {δ : Definition} (inside : δ ∈ t.shape.definitions) :
    δ ∈ reached reg := by
  apply (Definition.reachable_closed _).1
  exact List.mem_flatMap.mpr ⟨(name, t), NameTable.mem_of_find? registered, inside⟩

theorem find?_definitions {reg : Registry} {δ : Definition} (inside : δ ∈ reached reg) :
    (definitions reg).find? δ.name = some (.definition δ) := by
  refine NameTable.find?_foldl ?_ (.inr (List.mem_map_of_mem inside))
  intro e listed name
  obtain ⟨ε, _, rfl⟩ := List.mem_map.mp listed
  rw [Definition.name_injective name]

theorem find?_definitions_none {reg : Registry} {name : String}
    (unnamed : ∀ δ ∈ reached reg, δ.name ≠ name) :
    (definitions reg).find? name = none := by
  refine NameTable.find?_foldl_none ?_ rfl
  intro e listed
  obtain ⟨δ, inside, rfl⟩ := List.mem_map.mp listed
  exact unnamed δ inside

theorem collides_iff {reg : Registry} {name : String} {s : Schema} :
    collides (definitions reg) name s = true ↔ ∃ δ ∈ reached reg, δ.name = name := by
  constructor
  · intro taken
    by_contra unnamed
    have none := find?_definitions_none fun δ inside same => unnamed ⟨δ, inside, same⟩
    rw [collides, none] at taken
    cases taken
  · rintro ⟨δ, inside, rfl⟩
    exact collides_definition (find?_definitions inside)

section OfRegistry

variable {reg : Registry} (ascending : reg.Ascending)

include ascending

/-- A warning is given for a name exactly if it is that of a definition that is reached and is bound
to another type. -/
theorem warning_mem_iff {name : String} : collisionWarning name ∈ (ofRegistry reg).2 ↔
    ∃ t, (name, t) ∈ reg.entries ∧ t.schema ≠ .ref name ∧ ∃ δ ∈ reached reg, δ.name = name := by
  rw [ofRegistry, warnings_addAll ascending.nodup]
  constructor
  · intro given
    obtain ⟨e, listed, same⟩ := List.mem_map.mp given
    cases collisionWarning_injective same
    rw [List.mem_filter, Bool.and_eq_true, collides_iff] at listed
    exact ⟨e.2, listed.1, by simpa [isSelf] using listed.2.1, listed.2.2⟩
  · rintro ⟨t, registered, other, taken⟩
    refine List.mem_map.mpr ⟨(name, t), List.mem_filter.mpr ⟨registered, ?_⟩, rfl⟩
    rw [Bool.and_eq_true, collides_iff]
    exact ⟨by simpa [isSelf] using other, taken⟩

theorem warning_of_mem {w : String} (given : w ∈ (ofRegistry reg).2) :
    ∃ name, w = collisionWarning name := by
  rw [ofRegistry, warnings_addAll ascending.nodup] at given
  obtain ⟨e, _, rfl⟩ := List.mem_map.mp given
  exact ⟨e.1, rfl⟩

theorem quiet_iff :
    (ofRegistry reg).2 = [] ↔ ∀ name, collisionWarning name ∉ (ofRegistry reg).2 := by
  rw [List.eq_nil_iff_forall_not_mem]
  refine ⟨fun none name => none _, ?_⟩
  intro none w given
  obtain ⟨name, rfl⟩ := warning_of_mem ascending given
  exact none name given

/-- A registry gives no warning exactly if none of its names is that of a definition it reaches,
except where a name is bound to that definition. -/
theorem ofRegistry_quiet_iff : (ofRegistry reg).2 = [] ↔
    ∀ e ∈ reg.entries, e.2.schema = .ref e.1 ∨ ∀ δ ∈ reached reg, δ.name ≠ e.1 := by
  simp only [quiet_iff ascending, warning_mem_iff ascending]
  constructor
  · intro none e registered
    by_contra neither
    rw [not_or, not_forall₂] at neither
    obtain ⟨other, δ, inside, same⟩ := neither
    exact none e.1 ⟨e.2, registered, other, δ, inside, not_not.mp same⟩
  · rintro free name ⟨t, registered, other, δ, inside, same⟩
    rcases free (name, t) registered with self | unnamed
    · exact other self
    · exact unnamed δ inside same

/-- A definition that is reached keeps its place unless there is a warning for its name. -/
theorem find?_unwarned {δ : Definition} (inside : δ ∈ reached reg)
    (unwarned : collisionWarning δ.name ∉ (ofRegistry reg).2) :
    (ofRegistry reg).1.find? δ.name = some (.definition δ) := by
  refine ((find?_addAll ascending.nodup).1 δ.name ?_).trans (find?_definitions inside)
  intro t registered
  by_contra other
  rw [isSelf, decide_eq_true_eq] at other
  exact unwarned ((warning_mem_iff ascending).mpr ⟨t, registered, other, δ, inside, rfl⟩)

theorem find?_reached (quiet : (ofRegistry reg).2 = []) {δ : Definition}
    (inside : δ ∈ reached reg) :
    (ofRegistry reg).1.find? δ.name = some (.definition δ) :=
  find?_unwarned ascending inside ((quiet_iff ascending).mp quiet δ.name)

theorem find?_registered {name : String} {t : WireType} (registered : reg.find? name = some t) :
    (ofRegistry reg).1.find? name = some (.schema t.schema) ∨ t.schema = .ref name := by
  by_cases self : isSelf name t.schema = true
  · exact .inr (of_decide_eq_true self)
  · exact .inl ((find?_addAll ascending.nodup).2 name t (NameTable.mem_of_find? registered)
      (Bool.not_eq_true _ ▸ self))

end OfRegistry

/-! The components as they are written. -/

theorem lookup_written (cs : Components) (name : String) :
    Json.lookup name cs.toJson.members = (cs.find? name).map Component.toJson := by
  obtain ⟨entries⟩ := cs
  show Json.lookup name (entries.map fun e => (e.1, e.2.toJson)) =
      (NameTable.get? name entries).map _
  induction entries with
  | nil => rfl
  | cons e rest ih =>
    rw [List.map_cons, Json.lookup_cons, NameTable.get?, ih]
    split <;> rfl

theorem resolve_componentRef (components : List (String × Json)) (name : String) :
    Verdict.resolve components (Schema.componentRef name) = Json.lookup name components := by
  induction components with
  | nil => rfl
  | cons c rest ih =>
    rw [Verdict.resolve, List.find?_cons, Json.lookup_cons]
    by_cases here : c.1 = name
    · rw [if_pos here, decide_eq_true (Schema.componentRef_inj.mpr here)]
      rfl
    · rw [if_neg here, decide_eq_false (mt Schema.componentRef_inj.mp here), ← ih]
      rfl

theorem publishes {reg : Registry} (ascending : reg.Ascending) (quiet : (ofRegistry reg).2 = []) :
    Publishes (ofRegistry reg).1.toJson.members (· ∈ reached reg) := by
  refine ⟨(Definition.reachable_closed _).2, ?_⟩
  intro δ inside
  rw [resolve_componentRef, lookup_written, find?_reached ascending quiet inside]
  rfl

end Components

/-- A shape whose schema is a reference refers to a definition that it mentions. -/
theorem Shape.mentions_of_ref {s : Shape} {name : String} (refers : s.schema = .ref name) :
    ∃ δ ∈ s.definitions, δ.name = name := by
  cases s with
  | json =>
    cases refers
    exact ⟨.freeJson, List.mem_cons_self, rfl⟩
  | choice e =>
    cases refers
    exact ⟨.enumeration e, List.mem_cons_self, rfl⟩
  | record r =>
    cases refers
    exact ⟨.record r, List.mem_cons_self, rfl⟩
  | _ => cases refers

/-- Whatever is registered: if no name is taken twice, there is a component for every registered
name, and every document that is decoded at the type of the name is valid against it. -/
theorem component_admits (steps : List (String × WireType)) (name : String) (t : WireType)
    (d : Json) (v : Value)
    (quiet : (Components.ofRegistry (Registry.registerAll .empty steps).1).2 = [])
    (registered : (Registry.registerAll .empty steps).1.find? name = some t)
    (decoded : decode t.shape d = .ok v) :
    ∃ schema, Json.lookup name
      (Components.ofRegistry (Registry.registerAll .empty steps).1).1.toJson.members =
        some schema ∧
      Json.Admits (Components.ofRegistry (Registry.registerAll .empty steps).1).1.toJson.members
        schema d := by
  have ascending := Registry.ascending steps
  generalize (Registry.registerAll .empty steps).1 = reg at *
  have published := Components.publishes ascending quiet
  have mentioned : ∀ δ ∈ t.shape.definitions, δ ∈ Components.reached reg :=
    fun δ inside => Components.mentioned_reached registered inside
  have admits : Json.Admits _ (t.shape.schema.written .listed) d :=
    admits_of_belongs published (belongs_of_read (decode_eq_ok_iff.mp decoded))
      t.separated mentioned
  rcases Components.find?_registered ascending registered with written | self
  · exact ⟨_, by rw [Components.lookup_written, written]; rfl, admits⟩
  · obtain ⟨δ, inside, rfl⟩ := Shape.mentions_of_ref self
    have found := Components.find?_reached ascending quiet (mentioned δ inside)
    refine ⟨_, by rw [Components.lookup_written, found]; rfl, ?_⟩
    rw [show t.shape.schema = .ref δ.name from self] at admits
    exact (admits_ref published (mentioned δ inside)).mp admits

theorem standard_quiet : (Components.ofRegistry Registry.standard).2 = [] := by
  have ascending : Registry.standard.Ascending := Registry.ascending Registry.standardTypes
  have free : ∀ e ∈ Registry.standardTypes, e.2.schema = .ref e.1 ∨
      ∀ δ ∈ Definition.all, δ.name ≠ e.1 := by
    decide +kernel
  refine (Components.ofRegistry_quiet_iff ascending).mpr ?_
  intro e registered
  rcases Registry.mem_registerAll registered with none | listed
  · cases none
  · rcases free e listed with self | unnamed
    · exact .inl self
    · exact .inr fun δ _ => unnamed δ (Definition.mem_all δ)

/-- The negation of the empty conjunction, with a key that is passed over. -/
def nowhere : Json :=
  .obj [("type", .str "not"), ("note", .null),
    ("expression", .obj [("expressions", .arr []), ("type", .str "and")])]

theorem component_admits_expression :
    (Components.ofRegistry Registry.standard).2 = [] ∧
      Registry.standard.find? "Expression" = some (.alias .expression) ∧
      (∃ v, decode Alias.expression.shape nowhere = .ok v) ∧
      ∃ schema, Json.lookup "Expression"
        (Components.ofRegistry Registry.standard).1.toJson.members = some schema ∧
        Json.Admits (Components.ofRegistry Registry.standard).1.toJson.members schema nowhere := by
  have registered : Registry.standard.find? "Expression" = some (.alias .expression) :=
    Registry.find?_standard (by decide +kernel)
  have decoded : decode Alias.expression.shape nowhere =
      .ok (.record .notExpression [("type", .text "not"),
        ("expression", .record .andExpression [("type", .text "and"),
          ("expressions", .list [])])]) := rfl
  exact ⟨standard_quiet, registered, ⟨_, decoded⟩,
    component_admits Registry.standardTypes "Expression" (.alias .expression) nowhere _
      standard_quiet registered decoded⟩

end AgentWire
