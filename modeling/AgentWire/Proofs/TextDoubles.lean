import AgentWire.Proofs.Spelling
import AgentWire.Proofs.TextRoundTrip

/-! The doubles of a value that was decoded from a text. Every one is a number and, unless the text
holds a numeral beyond the doubles, finite. A value that holds an infinite double is not decoded
again from its text. -/
namespace AgentWire

open List (Forall₂)

/-- A text holds a numeral that rounds to no finite double. -/
def HoldsLargeNumeral (text : List Char) : Prop :=
  ∃ cs q, cs <:+ text ∧ Json.numeral? cs = some q ∧ Double.tooLarge ≤ q.value

/-- A double that stands in a text is a number, and is infinite only through a numeral that is too
large. -/
theorem large_of_names {text : List Char} {x : Float} (named : Json.Names text x) :
    x.isNaN = false ∧ (¬ x.isFinite = true → HoldsLargeNumeral text) := by
  obtain ⟨cs, rest, inside, read⟩ := named
  obtain ⟨-, ⟨i, same⟩ | ⟨q, y, spelled, same, value⟩⟩ := Json.number_eq_some read
  · cases same
  · cases same
    have unsigned : x.isNaN = q.toFloat.isNaN ∧ x.isFinite = q.toFloat.isFinite := by
      rcases value with rfl | rfl
      · exact ⟨rfl, rfl⟩
      · exact ⟨Double.isNaN_neg _, Double.isFinite_neg _⟩
    rw [unsigned.1, unsigned.2, Decimal.isFinite_toFloat_iff, not_lt]
    exact ⟨Decimal.isNaN_toFloat q, fun large => ⟨cs, q, inside, spelled, large⟩⟩

/-! What is written of a value that was read has no key twice, even where doubles became null. -/

theorem distinct_entries {entries : List (String × Value)} (names : (entries.map (·.1)).Nodup)
    (each : ∀ e ∈ entries, e.2.isPresent = true → e.2.encode.Distinct) :
    (Json.obj (Value.encodeEntries entries)).Distinct := by
  refine Json.everywhere_obj.mpr ⟨decide_eq_true (names.sublist (encodeEntries_names entries)), ?_⟩
  intro m inside
  obtain ⟨e, member, present, same⟩ := mem_encodeEntries inside
  rw [same]
  exact each e member present

theorem distinct_encode {s : Shape} {d : Json} {v : Value} (distinct : d.Distinct)
    (reads : readShape d s = .ok v) : v.encode.Distinct := by
  induction s, d using Shape.descend generalizing v with
  | json d =>
    cases read_json.symm.trans reads
    exact distinct
  | list item d ih =>
    obtain ⟨items, vs, rfl, rfl, all⟩ := read_list_iff.mp reads
    rw [Value.encode, encodeItems_eq]
    refine Json.everywhere_arr.mpr ⟨rfl, ?_⟩
    intro y inside
    obtain ⟨v, listed, rfl⟩ := List.mem_map.mp inside
    obtain ⟨x, member, here⟩ := forall₂_partner all.flip listed
    exact ih x member (Json.everywhere_items distinct member) here
  | map value d ih =>
    obtain ⟨members, entries, rfl, rfl, all⟩ := read_map_iff.mp reads
    have names : entries.map (·.1) = members.map (·.1) := by
      apply map_eq_of_forall₂ all
      intro m _ e here
      exact here.1
    rw [Value.encode]
    apply distinct_entries (names ▸ distinct.nodup)
    intro e inside _
    obtain ⟨m, member, here⟩ := forall₂_partner all.flip inside
    exact ih m member (Json.everywhere_members distinct member) here.2
  | record r d ih =>
    obtain ⟨members, entries, rfl, rfl, all, _⟩ := read_record_iff.mp reads
    have names : entries.map (·.1) = r.fields.map (·.name) := by
      apply map_eq_of_forall₂ all
      intro f _ e here
      exact here.1
    -- What became null in the record keeps its key.
    apply withoutNonFinite_distinct
    apply distinct_entries (names ▸ r.fields_nodup)
    intro e inside present
    obtain ⟨f, declared, _, field⟩ := forall₂_partner all.flip inside
    generalize e.2 = v at field present
    cases field with
    | omitted _ _ => contradiction
    | implied _ constant =>
      obtain ⟨label, rfl⟩ := Record.constant_field declared constant
      rfl
    | skipped _ _ => contradiction
    | given found _ inner =>
      exact ih f declared _ found
        (Json.everywhere_members distinct (Json.mem_of_lookup found)) inner
  | tagged variants d ih =>
    obtain ⟨label, r, tag, found, inner⟩ := read_tagged_iff.mp reads
    exact ih r (List.mem_of_find?_eq_some found) distinct inner
  | either first second d first_ih second_ih =>
    rcases read_either_iff.mp reads with here | ⟨_, here⟩
    · exact first_ih distinct here
    · exact second_ih distinct here
  | _ =>
    rw [encode_leaf rfl reads]
    exact distinct

/-! The round trip through a text. -/

/-- A value is decoded again from its text if and only if it holds no infinite double and is no
single result set that looks like several. -/
theorem decodeText_again_iff (t : WireType) {d : Json} {v : Value} (distinct : d.Distinct)
    (reads : readShape d t.shape = .ok v) (indent : Option Int) :
    decodeText t.shape (encodeText t.shape indent v).toList = .ok v ↔
      (∀ x, v.Holds x → x.isFinite = true) ∧ ¬ (t = .alias .queryResponse ∧ LooksForEach v) := by
  constructor
  · intro again
    have finite : ∀ x, v.Holds x → x.isFinite = true := by
      have form : (encodeAt v t.shape).Distinct := by
        rw [← encode_of_read t.separated reads]
        exact distinct_encode distinct reads
      have answers := Json.read_written (Value.style indent) form
      rw [encodeText, Json.text, String.toList_ofList, decodeText] at again
      -- A finite form is what its text denotes, and the value has its doubles from there. Otherwise
      -- nothing is denoted.
      by_cases whole : (encodeAt v t.shape).Finite
      · rw [answers.1 whole] at again
        intro x holds
        exact Json.finite_iff.mp whole x (holds_of_read (decode_eq_ok_iff.mp again) holds)
      · obtain ⟨f, refused⟩ := answers.2 whole
        rw [refused] at again
        cases again
    exact ⟨finite, (decodeText_again t distinct (finite_normal_of_read t.separated reads finite)
      reads indent).2.mp again⟩
  · rintro ⟨finite, other⟩
    exact (decodeText_again t distinct (finite_normal_of_read t.separated reads finite) reads
      indent).2.mpr other

/-- What a text is decoded as holds no double that is no number, and no infinite one unless the text
holds a numeral that is too large. Without infinite doubles its text is decoded again, as the same
value unless it is a single result set that looks like several; with one it is not. -/
theorem decodeText_doubles (t : WireType) (text : List Char) (v : Value)
    (decoded : decodeText t.shape text = .ok v) :
    (∀ x, v.Holds x → x.isNaN = false ∧ (¬ x.isFinite = true → HoldsLargeNumeral text)) ∧
      ∀ indent,
        ((∀ x, v.Holds x → x.isFinite = true) →
          ∃ w, decodeText t.shape (encodeText t.shape indent v).toList = .ok w) ∧
        (decodeText t.shape (encodeText t.shape indent v).toList = .ok v ↔
          (∀ x, v.Holds x → x.isFinite = true) ∧
            ¬ (t = .alias .queryResponse ∧ LooksForEach v)) := by
  rw [decodeText] at decoded
  cases spells : Json.read text with
  | error f =>
    rw [spells] at decoded
    cases decoded
  | ok d =>
    rw [spells] at decoded
    obtain ⟨distinct, named⟩ := Json.read_spelled spells
    have reads := decode_eq_ok_iff.mp decoded
    constructor
    · intro x holds
      exact large_of_names (named x (holds_of_read reads holds))
    · intro indent
      refine ⟨?_, decodeText_again_iff t distinct reads indent⟩
      intro finite
      exact (decodeText_again t distinct (finite_normal_of_read t.separated reads finite)
        reads indent).1

/-- The double that `1e400` is read as. -/
def beyond : Float := Decimal.toFloat ⟨1, 400⟩

theorem large_beyond : Double.tooLarge ≤ Decimal.value ⟨1, 400⟩ := by
  have larger : (10 : ℚ) ^ 310 ≤ 10 ^ 400 := pow_le_pow_right₀ (by norm_num) (by norm_num)
  have value : Decimal.value ⟨1, 400⟩ = 10 ^ 400 := by
    rw [Decimal.value, Nat.cast_one, one_mul]
    exact zpow_natCast _ 400
  rw [value]
  exact Decimal.tooLarge_lt.le.trans larger

theorem beyond_infinite : ¬ beyond.isFinite = true := by
  rw [beyond, Decimal.isFinite_toFloat_iff, not_lt]
  exact large_beyond

theorem read_beyond : Json.read "1e400".toList = .ok (.num beyond) := by
  have number : Json.number? "1e400".toList = some (.num beyond, []) := by
    rw [beyond]
    generalize same : Decimal.toFloat = toFloat
    rw [Json.number?.eq_def, same]
    clear same
    rfl
  have value := Json.readValue_number 11 number
  rw [Json.read]
  · show (Json.readValue 12 "1e400".toList >>= _) = _
    rw [value]
    rfl
  · intro rest mark
    cases mark

theorem decode_beyond :
    decodeText Alias.responseFieldValue.shape "1e400".toList = .ok (.json (.num beyond)) := by
  rw [decodeText, read_beyond]
  rfl

theorem decodeText_doubles_large :
    decodeText Alias.responseFieldValue.shape "1e400".toList = .ok (.json (.num beyond)) ∧
      beyond.isNaN = false ∧ HoldsLargeNumeral "1e400".toList ∧
      decodeText Alias.responseFieldValue.shape
        (encodeText Alias.responseFieldValue.shape none (.json (.num beyond))).toList ≠
        .ok (.json (.num beyond)) := by
  obtain ⟨doubles, texts⟩ :=
    decodeText_doubles (.alias .responseFieldValue) "1e400".toList _ decode_beyond
  obtain ⟨number, large⟩ := doubles beyond (.json .num)
  refine ⟨decode_beyond, number, large beyond_infinite, ?_⟩
  intro again
  exact beyond_infinite (((texts none).2.mp again).1 beyond (.json .num))

/-- An infinite double does come from a text. -/
theorem decodeText_infinite :
    ¬ ∀ (t : WireType) (text : List Char) (v : Value), decodeText t.shape text = .ok v →
      ∀ x, v.Holds x → x.isFinite = true := by
  intro always
  exact beyond_infinite (always (.alias .responseFieldValue) _ _ decode_beyond beyond (.json .num))

end AgentWire
