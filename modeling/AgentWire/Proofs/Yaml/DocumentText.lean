import AgentWire.Proofs.Yaml.Composing
import AgentWire.Text.Utf8

/-! The text of a document: it is in ASCII, and its tokens make up the node that has been
written. -/
namespace AgentWire.Yaml

namespace Node

/-! The node of a datum without marks. -/

theorem ofItems_ofJson (items : List Json) {w : Written}
    (each : ∀ x ∈ items, ofDatumWith w (Datum.ofJson x) = (ofJson x, w)) :
    ofItems w (Datum.ofItems items) = (ofJsonItems items, w) := by
  induction items with
  | nil => rfl
  | cons x rest ih =>
    rw [List.forall_mem_cons] at each
    simp only [Datum.ofItems, ofItems, each.1, ih each.2, ofJsonItems]

theorem ofEntries_ofJson (members : List (String × Json)) {w : Written}
    (each : ∀ m ∈ members, ofDatumWith w (Datum.ofJson m.2) = (ofJson m.2, w)) :
    ofEntries w (Datum.ofMembers members) = (ofJsonMembers members, w) := by
  induction members with
  | nil => rfl
  | cons m rest ih =>
    rw [List.forall_mem_cons] at each
    simp only [Datum.ofMembers, ofEntries, ofDatumWith, each.1, ih each.2, ofJsonMembers]

theorem ofDatumWith_ofJson (j : Json) (w : Written) :
    ofDatumWith w (Datum.ofJson j) = (ofJson j, w) := by
  induction j using Json.by_parts with
  | whole j items members =>
    cases j with
    | arr items' =>
      rw [Datum.ofJson, ofDatumWith]
      dsimp only [Written.mention, Option.bind_none]
      rw [ofItems_ofJson items' items]
      rfl
    | obj members' =>
      rw [Datum.ofJson, ofDatumWith]
      dsimp only [Written.mention, Option.bind_none]
      rw [ofEntries_ofJson members' members]
      rfl
    | _ => rfl

theorem ofDatum_ofJson (j : Json) : ofDatum (Datum.ofJson j) = ofJson j := by
  rw [ofDatum, ofDatumWith_ofJson]

/-! ASCII. -/

open ScalarText (newLine_ascii)

theorem opening_ascii (s : Spot) (indent : Nat) : AsciiText (s.opening indent) := by
  unfold Spot.opening
  split
  · exact .replicate (by decide) _
  · exact newLine_ascii indent

theorem word_ascii (s : Spot) {cs : List Char} (ascii : AsciiText cs) : AsciiText (s.word cs) := by
  unfold Spot.word
  split
  · exact AsciiText.cons_iff.mpr ⟨by decide, ascii⟩
  · exact ascii

theorem writeItems_ascii {items : List Json}
    (each : ∀ x ∈ items, ∀ s, AsciiText (write s (ofJson x))) (column : Nat) :
    AsciiText (writeItems column (ofJsonItems items)) := by
  have sign : IsAscii '-' := by decide
  induction items with
  | nil => exact .nil
  | cons x rest ih =>
    rw [List.forall_mem_cons] at each
    simp [ofJsonItems, writeItems, newLine_ascii, sign, each.1, ih each.2]

theorem memberText_ascii {x : Json} (value : ∀ s, AsciiText (write s (ofJson x))) (column : Nat)
    (key : String) :
    AsciiText (memberText column key x) := by
  have signs : IsAscii '?' ∧ IsAscii ':' := by decide
  have simple (column : Nat) :
      AsciiText (writeSimpleKey (.key column) (.scalar none .str key)) := by
    rw [writeKey_eq]
    exact ScalarText.write_ascii (ScalarText.styled_string _) _
  have announced : AsciiText (write (.announced column) (.scalar none .str key)) := by
    have string : ofJson (.str key) = .scalar none .str key := rfl
    rw [← string, write_scalar (j := .str key) rfl]
    exact word_ascii _ (ScalarText.write_ascii (ScalarText.styled_string _) _)
  unfold memberText
  split
  · simp [simple, signs, value]
  · simp [announced, newLine_ascii, signs, value]

theorem writeEntries_ascii {members : List (String × Json)}
    (each : ∀ m ∈ members, ∀ s, AsciiText (write s (ofJson m.2))) (column : Nat) :
    AsciiText (writeEntries column (ofJsonMembers members)) := by
  induction members with
  | nil => exact .nil
  | cons m rest ih =>
    rw [List.forall_mem_cons] at each
    have entry : writeEntries column (ofJsonMembers (m :: rest)) =
        ScalarText.newLine column ++ memberText column m.1 m.2 ++
          writeEntries column (ofJsonMembers rest) := rfl
    simp [entry, newLine_ascii, memberText_ascii each.1, ih each.2]

theorem write_ascii (j : Json) (s : Spot) : AsciiText (write s (ofJson j)) := by
  induction j using Json.by_parts generalizing s with
  | whole j items members =>
    have brackets : AsciiText ['[', ']'] ∧ AsciiText ['{', '}'] := by decide
    cases scalar : scalar? j with
    | some p =>
      rw [@write_scalar _ p.1 p.2 scalar]
      exact word_ascii _ (ScalarText.write_ascii (ScalarText.styled (scalar_fits scalar)) _)
    | none =>
      cases j with
      | arr items' =>
        cases items' with
        | nil => exact word_ascii s brackets.1
        | cons x rest =>
          have each : ∀ y ∈ x :: rest, ∀ s, AsciiText (write s (ofJson y)) := items
          rw [List.forall_mem_cons] at each
          show AsciiText (s.opening s.sequenceIndent ++
            '-' :: write (.item s.sequenceIndent) (ofJson x) ++
            writeItems s.sequenceIndent (ofJsonItems rest))
          have sign : IsAscii '-' := by decide
          simp [opening_ascii, sign, each.1, writeItems_ascii each.2]
      | obj members' =>
        cases members' with
        | nil => exact word_ascii s brackets.2
        | cons m rest =>
          have each : ∀ n ∈ m :: rest, ∀ s, AsciiText (write s (ofJson n.2)) := members
          rw [List.forall_mem_cons] at each
          show AsciiText (s.opening s.mappingIndent ++ memberText s.mappingIndent m.1 m.2 ++
            writeEntries s.mappingIndent (ofJsonMembers rest))
          simp [opening_ascii, memberText_ascii each.1, writeEntries_ascii each.2]
      | null => cases scalar
      | bool b => cases scalar
      | int i => cases scalar
      | num x => cases scalar
      | str s => cases scalar

/-- Every document is in ASCII, whatever its texts hold. -/
theorem documentText_ascii (j : Json) : AsciiText (documentText (ofJson j)) := by
  rw [documentText, AsciiText.append_iff]
  refine ⟨write_ascii j .root, ?_⟩
  unfold ending
  split
  · split
    · decide +kernel
    · decide
  · decide

end Node

/-! Reading text in ASCII. -/

theorem unifyLineEnds_ascii {cs : List Char} (ascii : AsciiText cs) : unifyLineEnds cs = cs := by
  induction cs with
  | nil => rfl
  | cons c rest ih =>
    rw [AsciiText.cons_iff] at ascii
    have other : c ≠ '\r' := by
      rintro rfl
      exact absurd ascii.1 (by decide)
    rw [unifyLineEnds, if_neg other, ih ascii.2]
    exact fun _ same => absurd same other

theorem all_isAllowed {cs : List Char} (ascii : AsciiText cs) : cs.all isAllowed = true := by
  rw [List.all_eq_true]
  intro c inside
  rcases ascii c inside with rfl | ⟨low, high⟩
  · rfl
  · simp [isAllowed, low, high]

theorem withoutByteOrderMark_ascii {cs : List Char} (ascii : AsciiText cs) :
    withoutByteOrderMark cs = cs := by
  cases cs with
  | nil => rfl
  | cons c rest =>
    have other : c ≠ byteOrderMark := by
      rintro rfl
      exact absurd (AsciiText.cons_iff.mp ascii).1 (by decide)
    exact if_neg other

namespace Node

variable {j : Json} (legible : isLegible 0 false j = true)
include legible

theorem tokens_document :
    Yaml.tokens (unifyLineEnds (documentText (ofJson j))) = documentTokens j := by
  have ascii := documentText_ascii j
  obtain ⟨keys, settled, -⟩ :=
    reads_document legible ((documentText (ofJson j)).length + 1) (Nat.lt_succ_self _)
  rw [unifyLineEnds_ascii ascii, Yaml.tokens, all_isAllowed ascii, withoutByteOrderMark_ascii ascii]
  simp [settle, settled]

omit legible in
/-- The tokens of a value are those of a document without directives. -/
theorem tokens_start (j : Json) (rest : List Token) :
    ∃ t more, tokens false j ++ rest = t :: more ∧ startsDocument t = false := by
  cases j with
  | arr items => cases items <;> exact ⟨_, _, rfl, rfl⟩
  | obj members => cases members <;> exact ⟨_, _, rfl, rfl⟩
  | _ => exact ⟨_, _, rfl, rfl⟩

omit legible in
theorem document_tokens (j : Json) : document (documentTokens j) = .ok (some (ofJson j)) := by
  obtain ⟨ends, written, closed⟩ : ∃ ends, documentTokens j = tokens false j ++ ends ∧
      atEnd ends = .ok () := by
    refine ⟨_, rfl, ?_⟩
    split
    · split <;> rfl
    · rfl
  have composed :=
    composes j Handles.standard (2 * (tokens false j ++ ends).length + 2) .block false ends []
      (by decide) (by simp) (Nat.le_succ _)
  have read : content Handles.standard (tokens false j ++ ends) = .ok (ofJson j, ends) := by
    rw [content, composed]
    rfl
  obtain ⟨t, more, start, other⟩ := tokens_start j ends
  rw [written]
  rw [start] at read ⊢
  simp only [document, other, Bool.false_eq_true, if_false, read]
  show (do
    atEnd ends
    return some (ofJson j)) = _
  rw [closed]
  rfl

/-- A legible value is the node of its text. -/
theorem document_text :
    document (Yaml.tokens (unifyLineEnds (documentText (ofJson j)))) = .ok (some (ofJson j)) := by
  rw [tokens_document legible, document_tokens]

end Node

end AgentWire.Yaml
