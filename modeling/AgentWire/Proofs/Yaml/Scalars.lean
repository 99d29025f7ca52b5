import AgentWire.Yaml.Node.OfTokens
import AgentWire.Yaml.Node.Writer
import AgentWire.Proofs.Yaml.Escaping
import AgentWire.Proofs.Yaml.Numbers

/-! Written scalars: in which style the scalars of JSON values are written, that none of them needs
a tag, and that their text and form give the value back. -/
namespace AgentWire.Yaml

theorem Tag.ofForm_ne_binary (cs : List Char) : Tag.ofForm cs ≠ .binary := by
  unfold Tag.ofForm
  split_ifs <;> simp

namespace ScalarText

/-- A text that needs no tag beside it: a string, or a plain text of its tag's form. -/
def Fits (t : Tag) (cs : List Char) : Prop :=
  t = .str ∨ Tag.ofPlain cs = t ∧ canBePlain cs = true

/-- The styles of a text that needs no tag. -/
inductive Styled (t : Tag) (cs : List Char) : Style → Prop
  | plain (form : Tag.ofPlain cs = t) (can : canBePlain cs = true) : Styled t cs .plain
  | single (string : t = .str) (can : canBeSingle cs = true) : Styled t cs .single
  | double (string : t = .str) : Styled t cs .double

section Styled

variable {t : Tag} {cs : List Char}

theorem styled (fits : Fits t cs) : Styled t cs (style t cs) := by
  have other : t ≠ .binary := by
    rcases fits with string | plain
    · simp [string]
    · exact plain.1 ▸ Tag.ofForm_ne_binary _
  rw [style, if_neg other]
  split
  · rename_i plain
    simp only [Bool.and_eq_true, decide_eq_true_eq] at plain
    exact .plain plain.1 plain.2
  · rename_i special
    have string : t = .str := fits.resolve_right fun plain => special (by simp [plain])
    split
    · exact .single string ‹_›
    · exact .double string

theorem styled_string (cs : List Char) : Styled .str cs (style .str cs) :=
  styled (.inl rfl)

variable {st : Style} (styled : Styled t cs st)
include styled

theorem shownTag_none : Node.shownTag st t cs = none := by
  cases styled with
  | plain form can => simp [Node.shownTag, form]
  | single string can => simp [Node.shownTag, string]
  | double string => simp [Node.shownTag, string]

theorem scalarTag_eq : Node.scalarTag none (decide (st = .plain)) (String.ofList cs) = t := by
  cases styled with
  | plain form can => simpa [Node.scalarTag] using form
  | single string can => simp [Node.scalarTag, string]
  | double string => simp [Node.scalarTag, string]

end Styled

theorem writeScalar_eq {t : Tag} {cs : List Char} (fits : Fits t cs) (s : Node.Spot)
    (foldable : Bool) :
    Node.writeScalar s foldable none t cs =
      s.word (write ⟨s.column + (if s.spaced then 1 else 0), s.scalarIndent, foldable⟩
        (style t cs) cs) := by
  rw [Node.writeScalar, shownTag_none (styled fits)]
  rfl

end ScalarText

/-! Text on one line. -/

namespace ScalarText

section OneLine

variable {room : Room} (flat : room.foldable = false)
include flat

theorem folded_flat {quoted : Char → List Char} (column : Nat) (before : Option Char)
    {cs : List Char} (oneLine : '\n' ∉ cs) :
    folded room quoted column before cs = cs.flatMap quoted := by
  induction cs generalizing column before with
  | nil => rfl
  | cons c rest ih =>
    have feed : c ≠ '\n' := fun same => oneLine (same ▸ List.mem_cons_self)
    simp only [folded, flat, Bool.and_false, Bool.false_and, Bool.false_eq_true,
      if_false, if_neg feed]
    rw [ih _ _ fun inside => oneLine (.tail _ inside), List.flatMap_cons]

theorem escaped_flat (column : Nat) (first afterEscape : Bool) (cs : List Char) :
    escaped room column first afterEscape cs =
      cs.flatMap fun c => if needsEscape c then escape c else [c] := by
  induction cs generalizing column first afterEscape with
  | nil => rfl
  | cons c rest ih =>
    simp only [escaped, flat, Bool.false_and, Bool.false_eq_true, if_false, ih]
    rw [List.flatMap_cons]
    split <;> rfl

/-- A text on one line is written the same everywhere. -/
theorem write_flat {t : Tag} {cs : List Char} {st : Style} (styled : Styled t cs st)
    (oneLine : '\n' ∉ cs) :
    write room st cs = write ⟨0, 0, false⟩ st cs := by
  cases styled with
  | plain => exact (folded_flat flat _ _ oneLine).trans (folded_flat rfl _ _ oneLine).symm
  | single =>
    have same := (@folded_flat _ flat twice (room.column + 1) none _ oneLine).trans
      (@folded_flat ⟨0, 0, false⟩ rfl twice (0 + 1) none _ oneLine).symm
    rw [write, same]
    rfl
  | double =>
    have same := (escaped_flat flat (room.column + 1) true false cs).trans
      (@escaped_flat ⟨0, 0, false⟩ rfl (0 + 1) true false cs).symm
    rw [write, same]
    rfl

end OneLine

theorem lineFeed_escape (c : Char) : '\n' ∉ escape c := by
  have hex (k n : Nat) : '\n' ∉ hexText k n := by
    intro inside
    rcases List.mem_append.mp inside with zeros | digits
    · cases List.eq_of_mem_replicate zeros
    · exact absurd ((Quoted.hexValue_toDigits n).2 _ digits) (by decide)
  unfold escape
  split
  · rename_i letter d found
    have letters : ∀ q ∈ Quoted.escapes, q.1 ≠ '\n' := by decide
    simpa using (letters _ (List.mem_of_find?_eq_some found)).symm
  · dsimp only
    split
    · simp [hex]
    · split <;> simp [hex]

/-- A text on one line stays on one line. -/
theorem lineFeed_write {t : Tag} {cs : List Char} {st : Style} (styled : Styled t cs st)
    (oneLine : '\n' ∉ cs) (column indent : Nat) : '\n' ∉ write ⟨column, indent, false⟩ st cs := by
  cases styled with
  | plain form can =>
    rw [write, folded_flat rfl _ _ oneLine]
    simpa using oneLine
  | single string can =>
    rw [write, folded_flat rfl _ _ oneLine]
    simp only [List.cons_append, List.mem_cons, List.mem_append, List.mem_flatMap,
      List.not_mem_nil, or_false]
    rintro (quote | ⟨c, inside, written⟩ | quote)
    · cases quote
    · unfold twice at written
      split at written
      · simp at written
      · obtain rfl : '\n' = c := by simpa using written
        exact oneLine inside
    · cases quote
  | double string =>
    rw [write, escaped_flat rfl]
    simp only [List.cons_append, List.mem_cons, List.mem_append, List.mem_flatMap,
      List.not_mem_nil, or_false]
    rintro (quote | ⟨c, inside, written⟩ | quote)
    · cases quote
    · split at written
      · exact lineFeed_escape c written
      · obtain rfl : '\n' = c := by simpa using written
        exact oneLine inside
    · cases quote

theorem folded_ascii (room : Room) {quoted : Char → List Char}
    (each : ∀ c, IsAscii c → AsciiText (quoted c)) (column : Nat) (before : Option Char)
    {cs : List Char} (ascii : AsciiText cs) : AsciiText (folded room quoted column before cs) := by
  have feed : IsAscii '\n' := by decide
  have blanks (n : Nat) : AsciiText (List.replicate n ' ') := .replicate (by decide) n
  induction cs generalizing column before with
  | nil => exact .nil
  | cons c rest ih =>
    rw [AsciiText.cons_iff] at ascii
    rw [folded]
    split
    · exact AsciiText.append_iff.mpr ⟨newLine_ascii _, ih _ _ ascii.2⟩
    · split
      · refine AsciiText.append_iff.mpr ⟨?_, ?_⟩
        · split <;> simp [feed]
        · split
          · exact ih _ _ ascii.2
          · exact AsciiText.append_iff.mpr ⟨blanks _, ih _ _ ascii.2⟩
      · exact AsciiText.append_iff.mpr ⟨each c ascii.1, ih _ _ ascii.2⟩

theorem write_ascii {t : Tag} {cs : List Char} {st : Style}
    (styled : Styled t cs st) (room : Room) :
    AsciiText (write room st cs) := by
  cases styled with
  | plain form can =>
    cases cs with
    | nil => cases can
    | cons c rest =>
      exact folded_ascii room (fun c ascii => by simpa using ascii) _ _
        (canBePlain_iff.mp can).ascii
  | single string can =>
    have ascii := isClean_iff.mp (Bool.and_eq_true_iff.mp can).1
    have quote : IsAscii '\'' := by decide
    have twice_ascii (c : Char) (ascii : IsAscii c) : AsciiText (twice c) := by
      unfold twice
      split <;> simp [quote, ascii]
    simp [write, quote, folded_ascii room twice_ascii _ _ ascii]
  | double string =>
    have quote : IsAscii '"' := by decide
    simp [write, quote, escaped_ascii]

/-- A written word starts with a character of a word, and not like a comment. -/
theorem write_starts {t : Tag} {cs : List Char} {st : Style}
    (styled : Styled t cs st) (room : Room) :
    ∃ c rest, write room st cs = c :: rest ∧ IsVisible c ∧ c ≠ '#' := by
  cases styled with
  | plain form can =>
    cases cs with
    | nil => cases can
    | cons c rest =>
      have plain := canBePlain_iff.mp can
      have feed : c ≠ '\n' := fun same => plain.oneLine (same ▸ List.mem_cons_self)
      have comment : c ≠ '#' := by
        rintro rfl
        exact plain.free (by decide +kernel)
      have written : write room .plain (c :: rest) =
          c :: folded room (fun c => [c]) (room.column + 1) (some c) rest := by
        simp [write, folded, feed]
      exact ⟨c, _, written, visible_of_ascii (AsciiText.cons_iff.mp plain.ascii).1 plain.first feed,
        comment⟩
  | single string can => exact ⟨'\'', _, rfl, ⟨by decide, by decide, by decide⟩, by decide⟩
  | double string => exact ⟨'"', _, rfl, ⟨by decide, by decide, by decide⟩, by decide⟩

end ScalarText

/-- The place after a text on one line. -/
theorem past_oneLine {cs : List Char} (ascii : AsciiText cs) (oneLine : '\n' ∉ cs) (p : Place) :
    p.past cs = ⟨p.index + cs.length, p.line, p.column + cs.length⟩ := by
  induction cs generalizing p with
  | nil => rfl
  | cons c rest ih =>
    rw [AsciiText.cons_iff] at ascii
    have feed : c ≠ '\n' := fun same => oneLine (same ▸ List.mem_cons_self)
    have next : p.next c = ⟨p.index + 1, p.line, p.column + 1⟩ := by
      by_cases blank : c = ' '
      · subst blank
        rfl
      · exact (visible_of_ascii ascii.1 blank feed).next p
    rw [Place.past_cons, ih ascii.2 (fun inside => oneLine (.tail _ inside)), next,
      List.length_cons, Place.mk.injEq]
    exact ⟨by dsimp only; omega, rfl, by dsimp only; omega⟩

/-! Scalars of JSON values. -/

namespace Node

def scalar? : Json → Option (Tag × List Char)
  | .null => some (.null, "null".toList)
  | .bool b => some (.bool, (if b then "true" else "false").toList)
  | .int i => some (.int, Datum.intText i)
  | .num x => some (.float, Scalar.floatText x)
  | .str s => some (.str, s.toList)
  | .arr _ => none
  | .obj _ => none

variable {j : Json} {t : Tag} {cs : List Char}

theorem scalar_fits (scalar : scalar? j = some (t, cs)) : ScalarText.Fits t cs := by
  cases j with
  | null =>
    cases scalar
    exact .inr (by decide +kernel)
  | bool b =>
    cases scalar
    cases b <;> exact .inr (by decide +kernel)
  | int i =>
    cases scalar
    have text := Scalar.integer_text i
    exact .inr ⟨text.1, text.2.1⟩
  | num x =>
    cases scalar
    have text := Scalar.float_text x 0
    exact .inr ⟨text.1, text.2.1⟩
  | str s =>
    cases scalar
    exact .inl rfl
  | arr items => cases scalar
  | obj members => cases scalar

theorem scalar_datum (scalar : scalar? j = some (t, cs)) (mark : Nat) :
    Scalar.datum mark t (String.ofList cs) = .ok (Datum.ofJson j) := by
  cases j with
  | null =>
    cases scalar
    rfl
  | bool b =>
    cases scalar
    have words : ∀ b : Bool, Scalar.truth (if b then "true" else "false").toList = .ok b := by
      decide +kernel
    rw [Scalar.datum, String.toList_ofList, words]
    rfl
  | int i =>
    cases scalar
    rw [Scalar.datum, String.toList_ofList, (Scalar.integer_text i).2.2]
    rfl
  | num x =>
    cases scalar
    rw [Scalar.datum, String.toList_ofList]
    exact (Scalar.float_text x mark).2.2
  | str s =>
    cases scalar
    rw [String.ofList_toList]
    rfl
  | arr items => cases scalar
  | obj members => cases scalar

end Node

end AgentWire.Yaml
