import AgentWire.Proofs.Reading
import Mathlib.Data.List.Nodup

/-! The wire language of a shape, as rules over the declarations alone, and that decoding accepts
exactly this language. The rule for a tagged object looks at one variant, the one its `type`
names. -/
namespace AgentWire

open List (Forall₂)

inductive Belongs : Shape → Json → Prop where
  | text (s : String) : Belongs .text (.str s)
  | flag (b : Bool) : Belongs .flag (.bool b)
  | integer (i : Int) : Belongs .integer (.int i)
  | natural {i : Int} (lower : 0 ≤ i) (upper : i < naturalEnd) : Belongs .natural (.int i)
  | json (d : Json) : Belongs .json d
  | names {items : List Json} (some : items ≠ []) (texts : ∀ x ∈ items, Belongs .text x) :
      Belongs .names (.arr items)
  | choice {e : Enumeration} {w : String} (known : w ∈ e.words) : Belongs (.choice e) (.str w)
  | operator (e : Enumeration) (w : String) : Belongs (.operator e) (.str w)
  | tag (label : String) : Belongs (.tag label) (.str label)
  | list {item : Shape} {items : List Json} (each : ∀ x ∈ items, Belongs item x) :
      Belongs (.list item) (.arr items)
  | map {value : Shape} {members : List (String × Json)} (each : ∀ m ∈ members, Belongs value m.2) :
      Belongs (.map value) (.obj members)
  | record {r : Record} {members : List (String × Json)}
      (required : ∀ f ∈ r.fields, f.need = .required → f.name ∈ members.map (·.1))
      (given : ∀ f ∈ r.fields, ∀ x, Json.lookup f.name members = some x → ¬ f.skips x →
        Belongs f.shape x)
      (declared : r.closed = true → ∀ m ∈ members, m.1 ∈ r.fields.map (·.name)) :
      Belongs (.record r) (.obj members)
  | tagged {variants : List Record} {r : Record} {label : String} {members : List (String × Json)}
      (variant : r ∈ variants) (named : r.label? = some label)
      (tag : Json.lookup "type" members = some (.str label))
      (fits : Belongs (.record r) (.obj members)) :
      Belongs (.tagged variants) (.obj members)
  | first {first second : Shape} {d : Json} (fits : Belongs first d) :
      Belongs (.either first second) d
  | second {first second : Shape} {d : Json} (fits : Belongs second d) :
      Belongs (.either first second) d

/-- Only the named records refuse keys they do not declare. -/
theorem closed_iff {r : Record} :
    r.closed = true ↔ r = .responseRow ∨ r = .forEachRow ∨ r = .forEachResponse := by
  cases r <;> decide

theorem variantOf_eq_some {label : String} {variants : List Record} {r : Record}
    (found : variantOf label variants = some r) : r ∈ variants ∧ r.label? = some label :=
  ⟨List.mem_of_find?_eq_some found, by simpa using List.find?_some found⟩

/-- With labels that differ, a label finds every variant it names. -/
theorem variantOf_of_mem {label : String} {variants : List Record} {r : Record}
    (distinct : distinctLabels variants = true) (member : r ∈ variants)
    (named : r.label? = some label) :
    variantOf label variants = some r := by
  simp only [distinctLabels, Bool.and_eq_true, decide_eq_true_eq] at distinct
  cases found : variantOf label variants with
  | none => exact absurd named (by simpa using List.find?_eq_none.mp found r member)
  | some q =>
    obtain ⟨inside, same⟩ := variantOf_eq_some found
    rw [List.inj_on_of_nodup_map distinct.2 inside member (same.trans named.symm)]

theorem fieldReads_of_given {members : List (String × Json)} {f : Field}
    (required : f.need = .required → f.name ∈ members.map (·.1))
    (given : ∀ x, Json.lookup f.name members = some x → ¬ f.skips x →
      ∃ v, readShape x f.shape = .ok v) :
    ∃ v, FieldReads members f v := by
  cases found : Json.lookup f.name members with
  | none =>
    cases need : f.need with
    | required => exact absurd (required need) (Json.lookup_eq_none_iff.mp found)
    | optional => exact ⟨_, .omitted found need⟩
    | constant => exact ⟨_, .implied found need⟩
  | some x =>
    by_cases skipped : f.skips x
    · exact ⟨_, .skipped found skipped⟩
    · obtain ⟨v, reads⟩ := given x found skipped
      exact ⟨v, .given found skipped reads⟩

theorem belongs_of_read {s : Shape} {d : Json} {v : Value} (reads : readShape d s = .ok v) :
    Belongs s d := by
  induction s, d using Shape.descend generalizing v with
  | text d =>
    obtain ⟨s, rfl, _⟩ := read_text_iff.mp reads
    exact .text s
  | flag d =>
    obtain ⟨b, rfl, _⟩ := read_flag_iff.mp reads
    exact .flag b
  | integer d =>
    obtain ⟨i, rfl, _⟩ := read_integer_iff.mp reads
    exact .integer i
  | natural d =>
    obtain ⟨i, range, rfl, _⟩ := read_natural_iff.mp reads
    exact .natural range.1 range.2
  | json d => exact .json d
  | names d =>
    obtain ⟨words, some, rfl, _⟩ := read_names_iff.mp reads
    refine .names (by simpa using some) fun x inside => ?_
    obtain ⟨w, _, rfl⟩ := List.mem_map.mp inside
    exact .text w
  | choice e d =>
    obtain ⟨w, known, rfl, _⟩ := read_choice_iff.mp reads
    exact .choice known
  | operator e d =>
    obtain ⟨w, rfl, _⟩ := read_operator_iff.mp reads
    exact .operator e w
  | tag label d =>
    obtain ⟨rfl, _⟩ := read_tag_iff.mp reads
    exact .tag label
  | list item d ih =>
    obtain ⟨items, vs, rfl, _, all⟩ := read_list_iff.mp reads
    refine .list fun x inside => ?_
    obtain ⟨v, _, here⟩ := forall₂_partner all inside
    exact ih x inside here
  | map value d ih =>
    obtain ⟨members, entries, rfl, _, all⟩ := read_map_iff.mp reads
    refine .map fun m inside => ?_
    obtain ⟨e, _, _, here⟩ := forall₂_partner all inside
    exact ih m inside here
  | record r d ih =>
    obtain ⟨members, entries, rfl, _, all, known⟩ := read_record_iff.mp reads
    refine .record (fun f member required => ?_) (fun f member x found kept => ?_) known
    · obtain ⟨e, _, _, field⟩ := forall₂_partner all member
      exact field.name_mem required
    · obtain ⟨e, _, _, field⟩ := forall₂_partner all member
      exact ih f member x found (field.read found kept)
  | tagged variants d ih =>
    obtain ⟨label, r, tag, found, inner⟩ := read_tagged_iff.mp reads
    obtain ⟨member, named⟩ := variantOf_eq_some found
    obtain ⟨members, _, rfl, _⟩ := read_record_iff.mp inner
    exact .tagged member named tag (ih r member inner)
  | either first second d first_ih second_ih =>
    rcases read_either_iff.mp reads with here | ⟨_, here⟩
    · exact .first (first_ih here)
    · exact .second (second_ih here)

/-- What belongs to the language is read, as long as unions can be told apart. -/
theorem read_of_belongs {s : Shape} {d : Json} (belongs : Belongs s d)
    (separated : s.separated = true) :
    ∃ v, readShape d s = .ok v := by
  induction belongs with
  | text s => exact ⟨_, read_text_iff.mpr ⟨s, rfl, rfl⟩⟩
  | flag b => exact ⟨_, read_flag_iff.mpr ⟨b, rfl, rfl⟩⟩
  | integer i => exact ⟨_, read_integer_iff.mpr ⟨i, rfl, rfl⟩⟩
  | natural lower upper => exact ⟨_, read_natural_iff.mpr ⟨_, ⟨lower, upper⟩, rfl, rfl⟩⟩
  | json d => exact ⟨_, read_json⟩
  | @names items some texts ih =>
    obtain ⟨vs, all⟩ := exists_forall₂ fun x inside => ih x inside rfl
    obtain ⟨words, rfl, _⟩ := forall₂_text_iff.mp all
    exact ⟨_, read_names_iff.mpr ⟨words, by simpa using some, rfl, rfl⟩⟩
  | choice known => exact ⟨_, read_choice_iff.mpr ⟨_, known, rfl, rfl⟩⟩
  | operator e w => exact ⟨_, read_operator_iff.mpr ⟨w, rfl, rfl⟩⟩
  | tag label => exact ⟨_, read_tag_iff.mpr ⟨rfl, rfl⟩⟩
  | list each ih =>
    obtain ⟨vs, all⟩ := exists_forall₂ fun x inside => ih x inside separated
    exact ⟨_, read_list_iff.mpr ⟨_, vs, rfl, rfl, all⟩⟩
  | map each ih =>
    obtain ⟨vs, all⟩ := exists_forall₂ fun m inside => ih m inside separated
    exact ⟨_, read_map_iff.mpr ⟨_, _, rfl, rfl, forall₂_zip_names.mp ⟨vs, rfl, all⟩⟩⟩
  | record required given declared ih =>
    -- A field that is skipped has a value without being read, so only what is kept asks for the
    -- hypothesis.
    have each := fun f member => fieldReads_of_given (required f member) fun x found kept =>
      ih f member x found kept (Record.fields_separated member)
    obtain ⟨vs, all⟩ := exists_forall₂ each
    exact ⟨_, read_record_iff.mpr ⟨_, _, rfl, rfl, forall₂_zip_names.mp ⟨vs, rfl, all⟩, declared⟩⟩
  | tagged variant named tag fits ih =>
    obtain ⟨v, inner⟩ := ih rfl
    exact ⟨v, read_tagged_iff.mpr ⟨_, _, tag, variantOf_of_mem separated variant named, inner⟩⟩
  | first fits ih =>
    simp only [Shape.separated, Bool.and_eq_true] at separated
    obtain ⟨v, reads⟩ := ih separated.1.1
    exact ⟨v, read_either_iff.mpr (.inl reads)⟩
  -- The second shape fits, but the value is that of the first one wherever it fits as well.
  | @second first second d fits ih =>
    simp only [Shape.separated, Bool.and_eq_true] at separated
    by_cases reads_first : ∃ w, readShape d first = .ok w
    · obtain ⟨w, reads⟩ := reads_first
      exact ⟨w, read_either_iff.mpr (.inl reads)⟩
    · obtain ⟨v, reads⟩ := ih separated.1.2
      exact ⟨v, read_either_iff.mpr (.inr ⟨not_exists.mp reads_first, reads⟩)⟩

theorem read_iff_belongs {s : Shape} {d : Json} (separated : s.separated = true) :
    (∃ v, readShape d s = .ok v) ↔ Belongs s d := by
  constructor
  · rintro ⟨_, reads⟩
    exact belongs_of_read reads
  · intro belongs
    exact read_of_belongs belongs separated

theorem decode_eq_ok_iff {s : Shape} {d : Json} {v : Value} :
    decode s d = .ok v ↔ readShape d s = .ok v := by
  unfold decode
  cases readShape d s <;> simp

/-- Decoding accepts the wire language of every type and nothing else. -/
theorem decode_accepts_iff (t : WireType) (d : Json) :
    (∃ v, decode t.shape d = .ok v) ↔ Belongs t.shape d := by
  simp only [decode_eq_ok_iff]
  exact read_iff_belongs t.separated

end AgentWire
