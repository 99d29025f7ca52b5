import AgentWire.OpenApi.Schema
import AgentWire.Proofs.Documents
import Mathlib.Data.List.Nodup

/-! What a written schema says of a document. A schema may refer to itself, so the depth of a
judgement is bounded, and what is not settled within the bound is left open. A schema admits a
document if the verdict is yes from some bound on.
-/
namespace AgentWire.Verdict

/-- Every verdict must be yes; a single no is enough to settle it. -/
def every (verdicts : List (Option Bool)) : Option Bool :=
  if some false ∈ verdicts then some false else if none ∈ verdicts then none else some true

/-- Some verdict must be yes. -/
def any (verdicts : List (Option Bool)) : Option Bool :=
  if some true ∈ verdicts then some true else if none ∈ verdicts then none else some false

/-- Exactly one verdict must be yes, and all of them must be settled. -/
def single (verdicts : List (Option Bool)) : Option Bool :=
  if none ∈ verdicts then none else some (verdicts.count (some true) == 1)

/-- Comparison with a text. No other constants are written. -/
def isText : Json → Json → Option Bool
  | .str s, .str t => some (s == t)
  | .str _, _ => some false
  | _, _ => none

/-- A comparison that is asked of integers alone. -/
def ofInteger (test : Int → Bool) : Json → Option Bool
  | .int i => some (test i)
  | .num _ => none
  | _ => some true

/-- The keys that `properties` names among the keywords of a schema. -/
def declared (keywords : List (String × Json)) : List String :=
  match Json.lookup "properties" keywords with
  | some (.obj properties) => properties.map (·.1)
  | _ => []

/-- The components that a reference can name. -/
def resolve (components : List (String × Json)) (target : String) : Option Json :=
  (components.find? fun c => Schema.componentRef c.1 = target).map (·.2)

/-- What one keyword says of a document, where `judge` judges parts. Keywords that are not listed
say nothing that could settle a verdict. -/
def keyword (components : List (String × Json)) (judge : Json → Json → Option Bool)
    (known : List String) (key : String) (arg d : Json) : Option Bool :=
  match key with
  | "title" | "description" | "default" | "discriminator" => some true
  | "$ref" => match arg with
    | .str target => (resolve components target).bind fun schema => judge schema d
    | _ => none
  | "type" => match arg with
    | .str name => some (name == d.kind.name || name == "number" && d.kind == .integer)
    | _ => none
  | "const" => isText arg d
  | "enum" => match arg with
    | .arr options => any (options.map fun option => isText option d)
    | _ => none
  | "minimum" => match arg with
    | .int low => ofInteger (fun i => decide (low ≤ i)) d
    | _ => none
  | "maximum" => match arg with
    | .int high => ofInteger (fun i => decide (i ≤ high)) d
    | _ => none
  | "minItems" => match arg, d with
    | .int least, .arr items => some (decide (least ≤ items.length))
    | .int _, _ => some true
    | _, _ => none
  | "items" => match d with
    | .arr items => every (items.map fun x => judge arg x)
    | _ => some true
  | "properties" => match arg, d with
    | .obj properties, .obj members => every (properties.map fun p =>
        match Json.lookup p.1 members with
        | some x => judge p.2 x
        | none => some true)
    | .obj _, _ => some true
    | _, _ => none
  | "additionalProperties" => match d with
    | .obj members => every ((members.filter fun m => m.1 ∉ known).map fun m => judge arg m.2)
    | _ => some true
  | "required" => match arg, d with
    | .arr names, .obj members => every (names.map fun name =>
        match name with
        | .str s => some (decide (s ∈ members.map (·.1)))
        | _ => none)
    | .arr _, _ => some true
    | _, _ => none
  | "anyOf" => match arg with
    | .arr options => any (options.map fun option => judge option d)
    | _ => none
  | "oneOf" => match arg with
    | .arr options => single (options.map fun option => judge option d)
    | _ => none
  | _ => none

/-- What a schema says of a document within a bound on the depth. -/
def judge (components : List (String × Json)) : Nat → Json → Json → Option Bool
  | 0, _, _ => none
  | depth + 1, schema, d => match schema with
    | .bool b => some b
    | .obj keywords => every (keywords.map fun k =>
        keyword components (judge components depth) (declared keywords) k.1 k.2 d)
    | _ => none

/-- A verdict that is the same from some bound on. -/
def Settles (verdict : Nat → Option Bool) (answer : Bool) : Prop :=
  ∃ least, ∀ depth, least ≤ depth → verdict depth = some answer

end Verdict

/-- A document is valid against a schema. -/
def Json.Admits (components : List (String × Json)) (schema d : Json) : Prop :=
  Verdict.Settles (fun depth => Verdict.judge components depth schema d) true

def Json.Refuses (components : List (String × Json)) (schema d : Json) : Prop :=
  Verdict.Settles (fun depth => Verdict.judge components depth schema d) false

theorem Json.not_refuses_of_admits {components : List (String × Json)} {schema d : Json}
    (admits : Admits components schema d) : ¬ Refuses components schema d := by
  rintro ⟨later, refused⟩
  obtain ⟨first, admitted⟩ := admits
  have yes := admitted (max first later) (by omega)
  have no := refused (max first later) (by omega)
  cases yes.symm.trans no

namespace Verdict

theorem every_eq_true {verdicts : List (Option Bool)} :
    every verdicts = some true ↔ ∀ v ∈ verdicts, v = some true := by
  rw [every]
  constructor
  · intro same v inside
    split at same
    · cases same
    split at same
    · cases same
    · rename_i no pending
      rcases v with _ | _ | _
      · exact absurd inside pending
      · exact absurd inside no
      · rfl
  · intro each
    have no : some false ∉ verdicts := fun inside => by cases each _ inside
    have settled : none ∉ verdicts := fun inside => by cases each _ inside
    rw [if_neg no, if_neg settled]

theorem every_eq_false {verdicts : List (Option Bool)} (no : some false ∈ verdicts) :
    every verdicts = some false :=
  if_pos no

theorem every_one (verdict : Option Bool) : every [verdict] = verdict := by
  rcases verdict with _ | _ | _ <;> rfl

/-- The order of the verdicts and what else is yes do not matter. -/
theorem every_congr {verdicts others : List (Option Bool)}
    (no : some false ∈ verdicts ↔ some false ∈ others) (pending : none ∈ verdicts ↔ none ∈ others) :
    every verdicts = every others := by
  simp only [every, no, pending]

theorem any_eq_true {verdicts : List (Option Bool)} (yes : some true ∈ verdicts) :
    any verdicts = some true :=
  if_pos yes

section Settles

variable {α : Type} {verdict : Nat → Option Bool} {answer : Bool}

theorem settles_of_always (always : ∀ depth, verdict depth = some answer) :
    Settles verdict answer :=
  ⟨0, fun depth _ => always depth⟩

/-- A judgement that is one level deeper settles as well. -/
theorem settles_deeper {deeper : Nat → Option Bool} (settles : Settles verdict answer)
    (level : ∀ depth, deeper (depth + 1) = verdict depth) : Settles deeper answer := by
  obtain ⟨least, settled⟩ := settles
  refine ⟨least + 1, ?_⟩
  intro depth enough
  obtain ⟨below, rfl⟩ : ∃ below, depth = below + 1 := ⟨depth - 1, by omega⟩
  rw [level]
  exact settled below (by omega)

/-- Finitely many verdicts have a bound in common. -/
theorem common_bound {parts : List α} {holds : α → Nat → Prop}
    (each : ∀ a ∈ parts, ∃ least, ∀ depth, least ≤ depth → holds a depth) :
    ∃ least, ∀ a ∈ parts, ∀ depth, least ≤ depth → holds a depth := by
  induction parts with
  | nil => exact ⟨0, by simp⟩
  | cons a rest ih =>
    rw [List.forall_mem_cons] at each
    obtain ⟨first, here⟩ := each.1
    obtain ⟨later, others⟩ := ih each.2
    refine ⟨max first later, ?_⟩
    intro b inside depth enough
    rcases List.mem_cons.mp inside with rfl | inside
    · exact here depth (by omega)
    · exact others b inside depth (by omega)

variable {parts : List α} {part : α → Nat → Option Bool}

theorem settles_every_iff : Settles (fun depth => every (parts.map fun a => part a depth)) true ↔
    ∀ a ∈ parts, Settles (part a) true := by
  constructor
  · rintro ⟨least, settled⟩ a inside
    refine ⟨least, ?_⟩
    intro depth enough
    exact every_eq_true.mp (settled depth enough) _ (List.mem_map_of_mem inside)
  · intro each
    obtain ⟨least, settled⟩ := common_bound each
    refine ⟨least, ?_⟩
    intro depth enough
    refine every_eq_true.mpr ?_
    intro v inside
    obtain ⟨a, listed, rfl⟩ := List.mem_map.mp inside
    exact settled a listed depth enough

theorem settles_every_false {a : α} (inside : a ∈ parts) (no : Settles (part a) false) :
    Settles (fun depth => every (parts.map fun a => part a depth)) false := by
  obtain ⟨least, settled⟩ := no
  refine ⟨least, ?_⟩
  intro depth enough
  exact every_eq_false (List.mem_map.mpr ⟨a, inside, settled depth enough⟩)

theorem settles_any {a : α} (inside : a ∈ parts) (yes : Settles (part a) true) :
    Settles (fun depth => any (parts.map fun a => part a depth)) true := by
  obtain ⟨least, settled⟩ := yes
  refine ⟨least, ?_⟩
  intro depth enough
  exact any_eq_true (List.mem_map.mpr ⟨a, inside, settled depth enough⟩)

theorem settles_single [DecidableEq α] {a : α} (distinct : parts.Nodup) (inside : a ∈ parts)
    (yes : Settles (part a) true) (others : ∀ b ∈ parts, b ≠ a → Settles (part b) false) :
    Settles (fun depth => single (parts.map fun a => part a depth)) true := by
  have each : ∀ b ∈ parts, Settles (part b) (decide (b = a)) := by
    intro b listed
    by_cases same : b = a
    · rwa [same, decide_eq_true rfl]
    · rw [decide_eq_false same]
      exact others b listed same
  obtain ⟨least, settled⟩ := common_bound each
  refine ⟨least, ?_⟩
  intro depth enough
  -- From here on all verdicts are settled, and the only yes is that of `a`.
  have verdicts : (parts.map fun b => part b depth) = parts.map fun b => some (decide (b = a)) := by
    apply List.map_congr_left
    intro b listed
    exact settled b listed depth enough
  have once : (parts.map fun b => some (decide (b = a))).count (some true) = 1 := by
    rw [List.count, List.countP_map, ← List.count_eq_one_of_mem distinct inside, List.count]
    apply List.countP_congr
    intro b _
    simp
  dsimp only
  rw [verdicts, single, if_neg (by simp), once]
  rfl

end Settles

end Verdict

open Verdict

namespace Json

section Keywords

variable {components : List (String × Json)} {keywords others : List (String × Json)} {d : Json}

/-- What a keyword says of a document from some bound on. -/
def Yields (components : List (String × Json)) (known : List String) (k : String × Json) (d : Json)
    (answer : Bool) :
    Prop :=
  Settles (fun depth => keyword components (judge components depth) known k.1 k.2 d) answer

theorem settles_level {answer : Bool} :
    Settles (fun depth => judge components depth (.obj keywords) d) answer ↔
      Settles (fun depth => every (keywords.map fun k =>
        keyword components (judge components depth) (declared keywords) k.1 k.2 d)) answer := by
  constructor
  · rintro ⟨least, settled⟩
    refine ⟨least, ?_⟩
    intro depth enough
    exact settled (depth + 1) (by omega)
  · intro settles
    exact settles_deeper settles fun depth => rfl

/-- A schema admits what all its keywords admit. -/
theorem admits_iff : Admits components (.obj keywords) d ↔
    ∀ k ∈ keywords, Yields components (declared keywords) k d true := by
  rw [Admits, settles_level, settles_every_iff]
  rfl

theorem refuses_of_keyword {k : String × Json} (inside : k ∈ keywords)
    (no : Yields components (declared keywords) k d false) :
    Refuses components (.obj keywords) d := by
  rw [Refuses, settles_level]
  exact settles_every_false inside no

variable {known : List String}

theorem yields_remark {key : String} {arg : Json}
    (remark : key ∈ ["title", "description", "default", "discriminator"]) :
    Yields components known (key, arg) d true := by
  simp only [List.mem_cons, List.not_mem_nil, or_false] at remark
  rcases remark with rfl | rfl | rfl | rfl <;> exact settles_of_always fun _ => rfl

theorem yields_type {name : String} (same : name = d.kind.name) :
    Yields components known ("type", .str name) d true := by
  subst same
  refine settles_of_always fun depth => ?_
  show some (d.kind.name == d.kind.name || _) = _
  rw [beq_self_eq_true, Bool.true_or]

/-- A reference says what the schema says that it refers to. -/
theorem settles_ref {target : String} {schema : Json} {answer : Bool}
    (found : resolve components target = some schema) :
    Settles (fun depth => judge components depth (.obj [("$ref", .str target)]) d) answer ↔
      Settles (fun depth => judge components depth schema d) answer := by
  have level : ∀ depth, judge components (depth + 1) (.obj [("$ref", .str target)]) d =
      judge components depth schema d := by
    intro depth
    show every [(resolve components target).bind fun schema => judge components depth schema d] = _
    rw [every_one, found]
    rfl
  constructor
  · rintro ⟨least, settled⟩
    refine ⟨least, ?_⟩
    intro depth enough
    exact (level depth).symm.trans (settled (depth + 1) (by omega))
  · intro settles
    exact settles_deeper settles level

theorem yields_const {word other : String} {answer : Bool} (compared : (word == other) = answer) :
    Yields components known ("const", .str word) (.str other) answer :=
  settles_of_always fun _ => congrArg some compared

theorem yields_enum {words : List String} {word : String} (listed : word ∈ words) :
    Yields components known ("enum", .arr (words.map .str)) (.str word) true := by
  refine settles_of_always fun depth => any_eq_true ?_
  rw [List.map_map]
  refine List.mem_map.mpr ⟨word, listed, ?_⟩
  show some (word == word) = _
  rw [beq_self_eq_true]

theorem yields_items {schema : Json} {items : List Json}
    (each : ∀ x ∈ items, Admits components schema x) :
    Yields components known ("items", schema) (.arr items) true :=
  settles_every_iff.mpr each

theorem yields_minItems {least : Nat} {items : List Json} (enough : least ≤ items.length) :
    Yields components known ("minItems", .int least) (.arr items) true := by
  refine settles_of_always fun depth => ?_
  show some (decide ((least : Int) ≤ items.length)) = _
  rw [decide_eq_true (Int.ofNat_le.mpr enough)]

theorem yields_additional {schema : Json} {members : List (String × Json)}
    (each : ∀ m ∈ members, m.1 ∉ known → Admits components schema m.2) :
    Yields components known ("additionalProperties", schema) (.obj members) true := by
  refine settles_every_iff.mpr ?_
  intro m inside
  rw [List.mem_filter, decide_eq_true_eq] at inside
  exact each m inside.1 inside.2

/-- What `properties` asks of a document: every property that is there is as it says. -/
theorem yields_properties {properties members : List (String × Json)}
    (each : ∀ p ∈ properties, ∀ x, lookup p.1 members = some x → Admits components p.2 x) :
    Yields components known ("properties", .obj properties) (.obj members) true := by
  refine settles_every_iff.mpr ?_
  intro p inside
  cases found : lookup p.1 members with
  | none => exact settles_of_always fun _ => rfl
  | some x => exact each p inside x found

theorem yields_properties_false {properties members : List (String × Json)} {p : String × Json}
    {x : Json} (inside : p ∈ properties) (found : lookup p.1 members = some x)
    (refuses : Refuses components p.2 x) :
    Yields components known ("properties", .obj properties) (.obj members) false := by
  refine settles_every_false inside ?_
  rw [found]
  exact refuses

theorem yields_required {names : List String} {members : List (String × Json)}
    (each : ∀ name ∈ names, name ∈ members.map (·.1)) :
    Yields components known ("required", .arr (names.map .str)) (.obj members) true := by
  refine settles_of_always fun depth => every_eq_true.mpr ?_
  rw [List.map_map]
  intro v inside
  obtain ⟨name, listed, rfl⟩ := List.mem_map.mp inside
  exact congrArg some (decide_eq_true (each name listed))

theorem yields_anyOf {options : List Json} {option : Json} (inside : option ∈ options)
    (admits : Admits components option d) :
    Yields components known ("anyOf", .arr options) d true :=
  settles_any inside admits

theorem yields_oneOf {α : Type} [DecidableEq α] (schema : α → Json) {parts : List α} {a : α}
    (distinct : parts.Nodup) (inside : a ∈ parts) (admits : Admits components (schema a) d)
    (others : ∀ b ∈ parts, b ≠ a → Refuses components (schema b) d) :
    Yields components known ("oneOf", .arr (parts.map schema)) d true := by
  have settles : Settles (fun depth =>
      single (parts.map fun a => judge components depth (schema a) d)) true :=
    settles_single distinct inside admits others
  obtain ⟨least, settled⟩ := settles
  refine ⟨least, ?_⟩
  intro depth enough
  show single ((parts.map schema).map _) = _
  rw [List.map_map]
  exact settled depth enough

end Keywords

end Json
end AgentWire
