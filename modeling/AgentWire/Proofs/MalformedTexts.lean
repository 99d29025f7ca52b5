import AgentWire.Proofs.GrammarReading
import AgentWire.Proofs.TextRoundTrip
/-!
Malformed texts are those that are no documents, whatever type they are decoded at. A word for a
number that JSON does not have makes a text malformed wherever a value should be, and its failure
names the word.
-/
namespace AgentWire

namespace Json

/-- Where a text can stand: before a value, or behind what opens or separates items or members. -/
inductive Place where
  | value
  | items
  | members

/-- From a place on, a text follows the rules up to where a value should start. -/
inductive Awaits : Place → List Char → List Char → Prop
  | here (rest : List Char) : Awaits .value rest rest
  | array {cs inner rest : List Char} (opened : Gap cs inner) (items : Awaits .items inner rest) :
      Awaits .value ('[' :: cs) rest
  | object {cs inner rest : List Char} (opened : Gap cs inner)
      (members : Awaits .members inner rest) :
      Awaits .value ('\x7b' :: cs) rest
  | firstItem {cs rest : List Char} (value : Awaits .value cs rest) : Awaits .items cs rest
  | nextItem {cs tail next inner rest : List Char} {x : Json} (value : Derives cs (.value x) tail)
      (comma : Gap tail (',' :: next)) (gap : Gap next inner) (items : Awaits .items inner rest) :
      Awaits .items cs rest
  | firstMember {cs tail next inner rest : List Char} {key : String}
      (name : Characters cs key.toList tail) (colon : Gap tail (':' :: next)) (gap : Gap next inner)
      (value : Awaits .value inner rest) :
      Awaits .members ('"' :: cs) rest
  | nextMember {cs tail next inner beyond other more rest : List Char} {key : String} {x : Json}
      (name : Characters cs key.toList tail) (colon : Gap tail (':' :: next)) (gap : Gap next inner)
      (value : Derives inner (.value x) beyond) (comma : Gap beyond (',' :: other))
      (space : Gap other more) (members : Awaits .members more rest) :
      Awaits .members ('"' :: cs) rest

/-- A text has a place for a value where the rest begins. -/
def ValueAt (text rest : List Char) : Prop :=
  ∃ inner, Gap text inner ∧ Awaits .value inner rest

def constants : List String :=
  ["NaN", "Infinity", "-Infinity"]

/-- The failure at a word that JSON does not have. -/
def refusal (word : String) (rest : List Char) : Failure :=
  ⟨.constant word, word.toList ++ rest⟩

theorem readValue_constant {word : String} (refused : word ∈ constants) (fuel : Nat)
    (rest : List Char) :
    readValue (fuel + 1) (word.toList ++ rest) = .error (refusal word rest) := by
  simp only [constants, List.mem_cons, List.not_mem_nil, or_false] at refused
  rcases refused with rfl | rfl | rfl <;> rfl

/-- What a text starts with at a place where a refused word is to come. -/
def Place.Begins (place : Place) (c : Char) : Prop :=
  match place with
  | .members => c = '"'
  | _ => Opens c

theorem Awaits.head {place : Place} {cs rest : List Char} {word : String}
    (refused : word ∈ constants) (awaits : Awaits place cs (word.toList ++ rest)) :
    ∃ c more, cs = c :: more ∧ place.Begins c := by
  generalize ahead : word.toList ++ rest = beyond at awaits
  induction awaits with
  | here =>
    simp only [constants, List.mem_cons, List.not_mem_nil, or_false] at refused
    rcases refused with rfl | rfl | rfl <;> cases ahead <;>
      exact ⟨_, _, rfl, by decide, by decide, by decide, by decide⟩
  | array | object => exact ⟨_, _, rfl, by decide, by decide, by decide, by decide⟩
  | firstItem _ ih => exact ih ahead
  | nextItem value => exact value.head
  | firstMember | nextMember => exact ⟨_, _, rfl, rfl⟩

theorem Awaits.skipBlanks {place : Place} {cs inner rest : List Char} {word : String}
    (refused : word ∈ constants) (gap : Gap cs inner)
    (awaits : Awaits place inner (word.toList ++ rest)) : Json.skipBlanks cs = inner := by
  obtain ⟨c, more, rfl, begins⟩ := awaits.head refused
  apply gap.skipBlanks
  cases place with
  | value => exact begins.1
  | items => exact begins.1
  | members =>
    cases begins
    rfl

/-- The failure of the reader for a place. -/
def Place.Fails (place : Place) (f : Failure) (cs : List Char) : Prop :=
  match place with
  | .value => ∀ fuel, 2 * cs.length ≤ fuel → readValue fuel cs = .error f
  | .items => ∀ fuel, 2 * cs.length + 1 ≤ fuel → readItems fuel cs = .error f
  | .members => ∀ fuel, 2 * cs.length + 1 ≤ fuel → readMembers fuel cs = .error f

/-- A refused word ends the reading of everything that is open around it. -/
theorem Awaits.fails {place : Place} {cs rest : List Char} {word : String}
    (refused : word ∈ constants) (awaits : Awaits place cs (word.toList ++ rest)) :
    place.Fails (refusal word rest) cs := by
  -- What stands before the word is read as in a document, so the calls are paid for as they are
  -- there.
  generalize ahead : word.toList ++ rest = beyond at awaits
  induction awaits with
  | here =>
    subst ahead
    intro fuel enough
    have some : 0 < (word.toList ++ rest).length := by
      obtain ⟨c, more, text, -⟩ := (Awaits.here (word.toList ++ rest)).head refused
      rw [text]
      exact Nat.zero_lt_succ _
    obtain ⟨fuel, rfl, -⟩ := exists_succ (show 0 < fuel by omega)
    exact readValue_constant refused fuel rest
  | array opened items ih =>
    subst ahead
    intro fuel enough
    obtain ⟨fuel, rfl, left⟩ := exists_inside opened enough
    obtain ⟨c, more, rfl, begins⟩ := items.head refused
    rw [readValue, items.skipBlanks refused opened]
    split
    · rename_i closed
      cases closed
      exact (begins.2.1 rfl).elim
    · rw [ih rfl fuel left]
      rfl
  | object opened members ih =>
    subst ahead
    intro fuel enough
    obtain ⟨fuel, rfl, left⟩ := exists_inside opened enough
    obtain ⟨c, more, rfl, begins⟩ := members.head refused
    cases begins
    rw [readValue, members.skipBlanks refused opened]
    show (readMembers fuel _).map _ = _
    rw [ih rfl fuel left]
    rfl
  | firstItem value ih =>
    intro fuel enough
    obtain ⟨fuel, rfl, left⟩ := exists_succ enough
    rw [readItems, ih ahead fuel left]
    rfl
  | nextItem value comma gap items ih =>
    subst ahead
    intro fuel enough
    obtain ⟨fuel, rfl, left⟩ := exists_succ enough
    have shorter := value.length_lt
    have next := comma.around gap
    have first := value.read (comma.mark_ends (by decide)) fuel left
    have failed := ih rfl fuel (by omega)
    simp only [readItems, first, comma.skipBlanks (by decide), items.skipBlanks refused gap, failed,
      bind, Except.bind]
  | firstMember name colon gap value ih =>
    subst ahead
    intro fuel enough
    obtain ⟨fuel, rfl, left⟩ := exists_succ enough
    have named := name.length_lt
    have begun := colon.around gap
    rw [List.length_cons] at left
    have failed := ih rfl fuel (by omega)
    simp only [readMembers, readString_iff.mpr name, colon.skipBlanks (by decide),
      value.skipBlanks refused gap, failed, bind, Except.bind]
  | nextMember name colon gap value comma space members ih =>
    subst ahead
    intro fuel enough
    obtain ⟨fuel, rfl, left⟩ := exists_succ enough
    have named := name.length_lt
    have begun := colon.around gap
    have shorter := value.length_lt
    have next := comma.around space
    rw [List.length_cons] at left
    have first := value.read (comma.mark_ends (by decide)) fuel (by omega)
    have failed := ih rfl fuel (by omega)
    simp only [readMembers, readString_iff.mpr name, colon.skipBlanks (by decide),
      value.skipBlanks gap, first, comma.skipBlanks (by decide), members.skipBlanks refused space,
      failed, bind, Except.bind]

/-- A refused word where a value should be is what is wrong with a text. -/
theorem read_constant {text rest : List Char} {word : String} (refused : word ∈ constants)
    (there : ValueAt text (word.toList ++ rest)) : read text = .error (refusal word rest) := by
  obtain ⟨inner, gap, awaits⟩ := there
  have shorter := gap.length_le
  have failed := awaits.fails refused (2 * text.length + 2) (by omega)
  have skipped := awaits.skipBlanks refused gap
  have unmarked : ∀ more, text ≠ '\ufeff' :: more := by
    obtain ⟨c, later, rfl, begins⟩ := awaits.head refused
    exact unmarked_of_skipBlanks skipped begins.2.2.2
  rw [read]
  · rw [skipped, failed]
    rfl
  · exact unmarked

theorem Denotes.unique {text : List Char} {d other : Json} (denotes : Denotes text d)
    (also : Denotes text other) :
    d = other :=
  Except.ok.inj (denotes.read.symm.trans also.read)

end Json

open Json

theorem decode_ne_malformed (shape : Shape) (d : Json) (m : Malformed) :
    decode shape d ≠ .error (.malformed m) := by
  intro same
  rw [decode] at same
  split at same <;> cases same

theorem decodeText_denotes (shape : Shape) {text : List Char} {d : Json}
    (denotes : Denotes text d) :
    decodeText shape text = decode shape d := by
  rw [decodeText, denotes.read]

theorem decodeText_malformed_iff (shape : Shape) (text : List Char) :
    (∃ m, decodeText shape text = .error (.malformed m)) ↔ ¬∃ d, Denotes text d := by
  constructor
  · rintro ⟨m, malformed⟩ ⟨d, denotes⟩
    rw [decodeText_denotes shape denotes] at malformed
    exact decode_ne_malformed shape d m malformed
  · intro none
    rw [decodeText]
    split
    · rename_i d read
      exact (none ⟨d, read_iff.mp read⟩).elim
    · exact ⟨_, rfl⟩

theorem decodeBytes_malformed_iff (shape : Shape) (bytes : List UInt8) :
    (∃ m, decodeBytes shape bytes = .error (.malformed m)) ↔
      ¬∃ text d, bytes = Utf8.encode text ∧ Denotes text d := by
  constructor
  · rintro malformed ⟨text, d, rfl, denotes⟩
    rw [decodeBytes_encode] at malformed
    exact (decodeText_malformed_iff shape text).mp malformed ⟨d, denotes⟩
  · intro none
    rw [decodeBytes]
    split
    · rename_i text decoded
      refine (decodeText_malformed_iff shape text).mpr ?_
      rintro ⟨d, denotes⟩
      exact none ⟨text, d, Utf8.decode_eq_ok_iff.mp decoded, denotes⟩
    · exact ⟨_, rfl⟩

/-- Decoding bytes or a text at any type calls malformed what is no document in UTF-8 by the
grammar, which everything with a refused word in the place of a value is not, and decodes the
document of everything else. -/
theorem malformed_iff (t : WireType) :
    (∀ text, (∃ m, decodeText t.shape text = .error (.malformed m)) ↔ ¬∃ d, Denotes text d) ∧
      (∀ bytes, (∃ m, decodeBytes t.shape bytes = .error (.malformed m)) ↔
        ¬∃ text d, bytes = Utf8.encode text ∧ Denotes text d) ∧
      (∀ text d, Denotes text d → decodeText t.shape text = decode t.shape d ∧
        decodeBytes t.shape (Utf8.encode text) = decode t.shape d) ∧
      ∀ text word rest, word ∈ constants → ValueAt text (word.toList ++ rest) →
        decodeText t.shape text = .error (.malformed (.json text (refusal word rest))) ∧
          decodeBytes t.shape (Utf8.encode text) =
            .error (.malformed (.json text (refusal word rest))) := by
  refine ⟨decodeText_malformed_iff t.shape, decodeBytes_malformed_iff t.shape, ?_, ?_⟩
  · intro text d denotes
    rw [decodeBytes_encode]
    exact ⟨decodeText_denotes t.shape denotes, decodeText_denotes t.shape denotes⟩
  · intro text word rest refused there
    have malformed : decodeText t.shape text =
        .error (.malformed (.json text (refusal word rest))) := by
      rw [decodeText, read_constant refused there]
    rw [decodeBytes_encode]
    exact ⟨malformed, malformed⟩

section Repeated

theorem gap_space (cs : List Char) : Gap (' ' :: cs) cs :=
  ⟨[' '], by simp, rfl⟩

theorem characters_one {c : Char} (quote : c ≠ '"') (slash : c ≠ '\\') (visible : 0x20 ≤ c.toNat)
    (rest : List Char) :
    Characters (c :: '"' :: rest) [c] rest :=
  .plain quote slash visible (.close rest)

/-- A text with a key that it writes twice, the first time with a word in an array under it. -/
def wordUnderKey : List Char :=
  "\x7b\"x\": [true, NaN], \"x\": 0\x7d".toList

theorem valueAt_wordUnderKey : ValueAt wordUnderKey ("NaN".toList ++ "], \"x\": 0\x7d".toList) := by
  have name : Characters "x\": [true, NaN], \"x\": 0\x7d".toList "x".toList
      ": [true, NaN], \"x\": 0\x7d".toList :=
    characters_one (by decide) (by decide) (by decide) _
  have first : Derives "true, NaN], \"x\": 0\x7d".toList (.value (.bool true))
      ", NaN], \"x\": 0\x7d".toList :=
    .word (w := "true") (by simp [words]) _
  have array : Awaits .value "[true, NaN], \"x\": 0\x7d".toList
      ("NaN".toList ++ "], \"x\": 0\x7d".toList) :=
    .array (gap_none _) (.nextItem first (gap_none _) (gap_space _) (.firstItem (.here _)))
  exact ⟨_, gap_none _, .object (gap_none _) (.firstMember name (gap_none _) (gap_space _) array)⟩

/-- A text with a key that it writes twice, with another one in between. -/
def repeatedKey : List Char :=
  "\x7b\"x\":true,\"y\":null,\"x\":false\x7d".toList

theorem denotes_repeatedKey : Denotes repeatedKey (.obj [("x", .bool false), ("y", .null)]) := by
  have last : Derives "\"x\":false\x7d".toList (.members [("x", .bool false)]) [] :=
    .lastMember (characters_one (by decide) (by decide) (by decide) _) (gap_none _) (gap_none _)
      (.word (w := "false") (by simp [words]) _) (gap_none _)
  have later : Derives "\"y\":null,\"x\":false\x7d".toList
      (.members [("y", .null), ("x", .bool false)]) [] :=
    .member (characters_one (by decide) (by decide) (by decide) _) (gap_none _) (gap_none _)
      (.word (w := "null") (by simp [words]) _) (gap_none _) (gap_none _) last
  have all : Derives "\"x\":true,\"y\":null,\"x\":false\x7d".toList
      (.members [("x", .bool true), ("y", .null), ("x", .bool false)]) [] :=
    .member (characters_one (by decide) (by decide) (by decide) _) (gap_none _) (gap_none _)
      (.word (w := "true") (by simp [words]) _) (gap_none _) (gap_none _) later
  exact ⟨_, [], gap_none _, .object (gap_none _) all (collects_collected _), gap_none _⟩

theorem malformed_iff_twice :
    decodeText (WireType.alias .field).shape wordUnderKey =
        .error (.malformed (.json wordUnderKey (refusal "NaN" "], \"x\": 0\x7d".toList))) ∧
      decodeText (WireType.alias .field).shape repeatedKey =
        decode (WireType.alias .field).shape (.obj [("x", .bool false), ("y", .null)]) :=
  ⟨((malformed_iff (.alias .field)).2.2.2 _ _ _ (by decide) valueAt_wordUnderKey).1,
    ((malformed_iff (.alias .field)).2.2.1 _ _ denotes_repeatedKey).1⟩

end Repeated

end AgentWire
