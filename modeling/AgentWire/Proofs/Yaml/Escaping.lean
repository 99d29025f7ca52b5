import AgentWire.Proofs.Yaml.Folding

/-! Text in double quotes is read back, unless a line is broken within an escape. After an escape
the writer may break the line and escape the blank that follows; where a line's indentation alone
exceeds the width, it breaks once more between that backslash and the blank. -/
namespace AgentWire.Yaml

/-! Numbers of characters. -/

namespace Quoted

theorem hexValue_append (ds : List Char) (d : Char) :
    hexValue (ds ++ [d]) = hexValue ds * 16 + (Numeral.hexDigit? d).getD 0 := by
  simp [hexValue, List.foldl_append]

theorem hexValue_zeros (n : Nat) (ds : List Char) :
    hexValue (List.replicate n '0' ++ ds) = hexValue ds := by
  induction n with
  | zero => rfl
  | succ n ih =>
    rw [List.replicate_succ, List.cons_append, ← ih]
    rfl

theorem hexDigit_upper : ∀ k < 16, Numeral.hexDigit? (Nat.digitChar k).toUpper = some k := by decide

theorem hexValue_toDigits (n : Nat) : hexValue ((Nat.toDigits 16 n).map Char.toUpper) = n ∧
    ∀ d ∈ (Nat.toDigits 16 n).map Char.toUpper, Numeral.isHexDigit d = true := by
  induction n using Nat.strong_induction_on with
  | h n ih =>
    by_cases small : n < 16
    · rw [Nat.toDigits_of_lt_base small]
      have digit := hexDigit_upper n small
      simp [hexValue, Numeral.isHexDigit, digit]
    · have digit := hexDigit_upper (n % 16) (Nat.mod_lt _ (by decide))
      obtain ⟨value, digits⟩ := ih (n / 16) (Nat.div_lt_self (by omega) (by decide))
      rw [Nat.toDigits_of_base_le (by decide) (Nat.le_of_not_lt small), List.map_append,
        List.map_singleton, hexValue_append, value, digit, List.forall_mem_append]
      refine ⟨?_, digits, by simp [Numeral.isHexDigit, digit]⟩
      rw [Option.getD_some]
      omega

theorem hexText_length (digits n : Nat) (fits : n < 16 ^ digits) (some : 0 < digits) :
    (ScalarText.hexText digits n).length = digits := by
  have short := (Nat.length_toDigits_le_iff (b := 16) (by decide) some).mpr fits
  simp [ScalarText.hexText]
  omega

theorem named_hexText {c : Char} (digits : Nat) :
    named (ScalarText.hexText digits c.toNat) = .ok c := by
  obtain ⟨value, all⟩ := hexValue_toDigits c.toNat
  have number : hexValue (ScalarText.hexText digits c.toNat) = c.toNat := by
    rw [ScalarText.hexText, hexValue_zeros, value]
  have hex : (ScalarText.hexText digits c.toNat).all Numeral.isHexDigit = true := by
    rw [ScalarText.hexText, List.all_append, Bool.and_eq_true, List.all_eq_true, List.all_eq_true]
    refine ⟨fun d inside => ?_, all⟩
    rw [List.eq_of_mem_replicate inside]
    rfl
  have bound := Json.toNat_lt c
  have whole := Json.not_surrogate c
  unfold named
  simp only [number, hex, Bool.not_true, Bool.false_eq_true, if_false]
  rw [if_neg (by omega), if_neg (by simp; omega), Char.ofNat_toNat]

theorem length_four (cs : List Char) (four : cs.length = 4) : ∃ a b c d, cs = [a, b, c, d] := by
  match cs, four with
  | [a, b, c, d], _ => exact ⟨a, b, c, d, rfl⟩

/-! Reading character by character. -/

section Double

variable (gap : Gap) (p : Place) (cs : List Char)

theorem double_blank : double gap p (' ' :: cs) = double (gap.addBlank ' ') (p.next ' ') cs := by
  simp [double, isBreak, isBlank]

theorem double_word {c : Char} (visible : IsVisible c) (quote : c ≠ '"') (slash : c ≠ '\\') :
    double gap p (c :: cs) = Reading.prepend (gap.text ++ [c]) (double .empty (p.next c) cs) := by
  simp [double, quote, slash, visible.isBreak, visible.isBlank]

theorem double_end : double gap p ('"' :: cs) = .ok (gap.text, ⟨p.next '"', cs⟩) := by
  simp [double]

theorem double_break (inside : startsBoundary cs = false) :
    double gap p ('\\' :: '\n' :: cs) =
      Reading.prepend gap.text (double (.joined []) (p.past ['\\', '\n']) cs) := by
  simp [double, isBreak, inside]

theorem double_letter : ∀ q ∈ escapes, double gap p ('\\' :: q.1 :: cs) =
    Reading.prepend (gap.text ++ [q.2]) (double .empty (p.past ['\\', q.1]) cs) := by
  simp only [escapes, List.forall_mem_cons]
  exact ⟨rfl, rfl, rfl, rfl, rfl, rfl, rfl, rfl, rfl, rfl, rfl, rfl, rfl, rfl, rfl, rfl,
    rfl, rfl, by simp⟩

theorem double_blanks (n : Nat) :
    double (.joined []) p (List.replicate n ' ' ++ cs) =
      double (.joined []) (p.past (List.replicate n ' ')) cs := by
  induction n generalizing p with
  | zero => rfl
  | succ n ih =>
    rw [List.replicate_succ, List.cons_append, double_blank]
    exact ih (p.next ' ')

theorem double_newLine {indent : Nat} (indented : 0 < indent) :
    double gap p ('\\' :: ScalarText.newLine indent ++ cs) =
      Reading.prepend gap.text
        (double (.joined []) (p.past ('\\' :: ScalarText.newLine indent)) cs) := by
  rw [ScalarText.newLine, List.cons_append, List.cons_append,
    double_break _ _ _ (startsBoundary_blanks indented cs), double_blanks]
  rfl

theorem double_escape (c : Char) :
    double gap p (ScalarText.escape c ++ cs) =
      Reading.prepend (gap.text ++ [c]) (double .empty (p.past (ScalarText.escape c)) cs) := by
  have number (digits : Nat) := named_hexText (c := c) digits
  have bound := Json.toNat_lt c
  unfold ScalarText.escape
  split
  · rename_i letter d found
    have inside := List.mem_of_find?_eq_some found
    obtain rfl : d = c := by simpa using List.find?_some found
    exact double_letter gap p cs _ inside
  · dsimp only
    split
    · obtain ⟨a, b, two⟩ := List.length_eq_two.mp (hexText_length 2 c.toNat ‹_› (by decide))
      have name := number 2
      rw [two] at name ⊢
      show (do Reading.prepend (gap.text ++ [← named [a, b]]) _) = _
      rw [name]
      rfl
    · split
      · obtain ⟨a, b, d, e, four⟩ := length_four _ (hexText_length 4 c.toNat ‹_› (by decide))
        have name := number 4
        rw [four] at name ⊢
        show (do Reading.prepend (gap.text ++ [← named [a, b, d, e]]) _) = _
        rw [name]
        rfl
      · have eight := hexText_length 8 c.toNat (by omega) (by decide)
        obtain ⟨a, b, d, e, four⟩ :=
          length_four ((ScalarText.hexText 8 c.toNat).take 4) (by simp [eight])
        obtain ⟨f, g, h, i, more⟩ :=
          length_four ((ScalarText.hexText 8 c.toNat).drop 4) (by simp [eight])
        have whole : ScalarText.hexText 8 c.toNat = [a, b, d, e, f, g, h, i] := by
          rw [← List.take_append_drop 4 (ScalarText.hexText 8 c.toNat), four, more]
          rfl
        have name := number 8
        rw [whole] at name ⊢
        show (do Reading.prepend (gap.text ++ [← named [a, b, d, e, f, g, h, i]]) _) = _
        rw [name]
        rfl

end Double

end Quoted

/-! What escaping writes, without the columns that decide where a line is broken. -/

namespace ScalarText

theorem visible_of_kept {c : Char} (kept : needsEscape c = false) (blank : c ≠ ' ') :
    IsVisible c ∧ c ≠ '"' ∧ c ≠ '\\' := by
  simp only [needsEscape, isPlainAscii, Bool.or_eq_false_iff, decide_eq_false_iff_not,
    Bool.not_eq_false', Bool.and_eq_true, decide_eq_true_eq] at kept
  obtain ⟨⟨quote, slash⟩, low, high⟩ := kept
  refine ⟨visible_of_ascii (.inr ⟨low, high⟩) blank ?_, quote, slash⟩
  rintro rfl
  exact absurd low (by decide)

/-- What is written for a text. A broken line goes on with a character that is no blank, or with a
guarded one. -/
inductive Escapes (indent : Nat) : List Char → List Char → Prop
  | nil : Escapes indent [] []
  | char {c : Char} {rest text : List Char} (kept : needsEscape c = false)
      (more : Escapes indent rest text) :
      Escapes indent (c :: rest) (c :: text)
  | escape {c : Char} {rest text : List Char} (more : Escapes indent rest text) :
      Escapes indent (c :: rest) (escape c ++ text)
  | newLine {cs text : List Char} (word : cs.head? ≠ some ' ') (more : Escapes indent cs text) :
      Escapes indent cs ('\\' :: newLine indent ++ text)
  | guard {rest text : List Char} (more : Escapes indent rest text) :
      Escapes indent (' ' :: rest) ('\\' :: ScalarText.newLine indent ++ '\\' :: ' ' :: text)

/-- Whether a blank that more text follows stands right after an escape. -/
def blankAfterEscape : List Char → Bool
  | [] => false
  | c :: rest => needsEscape c && rest.head? = some ' ' && 1 < rest.length || blankAfterEscape rest

/-- Whether text in double quotes is kept: a guard and its blank stay together, since there is room
for both on a new line or none is needed. No line is broken after the first character. -/
def isKept (indent : Nat) (cs : List Char) : Bool :=
  indent < width || !blankAfterEscape (cs.drop 1)

theorem Escapes.of_blank {indent : Nat} {rest text : List Char}
    (both : Escapes indent (' ' :: rest) (' ' :: text)) :
    Escapes indent rest text := by
  generalize whole : ' ' :: text = written at both
  cases both with
  | char kept more =>
    cases whole
    exact more
  | escape more => cases whole
  | newLine word more => cases whole
  | guard more => cases whole

/-- A blank goes right behind its guard, if there is room on the line or nothing follows. -/
theorem escaped_guarded {room : Room} {column : Nat} {rest : List Char}
    (stays : column ≤ width ∨ rest = []) :
    escaped room column false true (' ' :: rest) =
      ' ' :: escaped room (column + 1) false false rest := by
  have together : (room.foldable && !false && !rest.isEmpty && width < column) = false := by
    rcases stays with inside | rfl
    · simp [Nat.not_lt.mpr inside]
    · simp
  rw [escaped, if_neg (by decide), together]
  rfl

theorem escapes_escaped (room : Room) (cs : List Char) (column : Nat) (first afterEscape : Bool)
    (kept : room.foldable = true →
      room.indent < width ∨ blankAfterEscape (if first then cs.drop 1 else cs) = false) :
    Escapes room.indent cs (escaped room column first afterEscape cs) := by
  induction cs generalizing column first afterEscape with
  | nil => exact .nil
  | cons c rest ih =>
    have later (column : Nat) (afterEscape : Bool) :
        Escapes room.indent rest (escaped room column false afterEscape rest) := by
      refine ih column false afterEscape fun foldable => (kept foldable).imp_right fun apart => ?_
      cases first with
      | true => exact apart
      | false => exact (Bool.or_eq_false_iff.mp apart).2
    rw [escaped]
    dsimp only
    split
    · rename_i special
      split
      · rename_i breaks
        simp only [Bool.and_eq_true, Bool.not_eq_true', decide_eq_true_eq] at breaks
        have notFirst : first = false := breaks.1.1.2
        subst notFirst
        have next := later (room.indent + (guard rest).length) true
        simp only [List.append_assoc, List.cons_append]
        refine .escape ?_
        by_cases blank : rest.head? = some ' '
        · obtain ⟨more, rfl⟩ : ∃ more, rest = ' ' :: more := by
            simpa [List.head?_eq_some_iff] using blank
          have guarded : guard (' ' :: more) = ['\\'] := rfl
          rw [guarded] at next ⊢
          have stays : room.indent + 1 ≤ width ∨ more = [] := by
            refine (kept breaks.1.1.1).imp_right fun apart => ?_
            simp [blankAfterEscape, special] at apart
            exact apart.1
          rw [List.length_singleton, escaped_guarded stays] at next ⊢
          exact .guard next.of_blank
        · have unguarded : guard rest = [] := if_neg blank
          rw [unguarded] at next ⊢
          exact .newLine blank next
      · exact .escape (later _ true)
    · rename_i special
      have plain : needsEscape c = false := by simpa using special
      split
      · simp only [List.append_assoc, List.cons_append]
        by_cases blank : c = ' '
        · subst blank
          exact .guard (later _ false)
        · have unguarded : guard (c :: rest) = [] := if_neg (by simpa using blank)
          rw [unguarded]
          exact .newLine (by simpa using blank) (.char plain (later _ false))
      · exact .char plain (later _ false)

theorem isAscii_of_hexDigit {c : Char} (hex : Numeral.isHexDigit c = true) : IsAscii c := by
  unfold Numeral.isHexDigit Numeral.hexDigit? at hex
  split at hex
  · exact isAscii_of_digit ‹_›
  · split at hex
    · rename_i lower
      simp only [Char.le_def, UInt32.le_iff_toNat_le, Bool.and_eq_true, decide_eq_true_eq] at lower
      exact .inr ⟨Nat.le_trans (by decide) lower.1, Nat.lt_of_le_of_lt lower.2 (by decide)⟩
    · split at hex
      · rename_i upper
        simp only [Char.le_def, UInt32.le_iff_toNat_le, Bool.and_eq_true,
          decide_eq_true_eq] at upper
        exact .inr ⟨Nat.le_trans (by decide) upper.1, Nat.lt_of_le_of_lt upper.2 (by decide)⟩
      · cases hex

theorem hexText_ascii (digits n : Nat) : AsciiText (hexText digits n) :=
  AsciiText.append_iff.mpr
    ⟨.replicate (by decide) _,
      fun d inside => isAscii_of_hexDigit ((Quoted.hexValue_toDigits n).2 d inside)⟩

theorem escape_ascii (c : Char) : AsciiText (escape c) := by
  have slash : IsAscii '\\' ∧ IsAscii 'x' ∧ IsAscii 'u' ∧ IsAscii 'U' := by decide
  unfold escape
  split
  · rename_i letter d found
    have letters : ∀ q ∈ Quoted.escapes, ∀ r ∈ Quoted.escapes.find? fun p => p.2 = q.2,
        IsAscii r.1 := by decide
    have same : d = c := by simpa using List.find?_some found
    have ascii := letters (letter, d) (List.mem_of_find?_eq_some found) (letter, d)
      (by rw [same]; exact same ▸ found)
    simp [slash, ascii]
  · dsimp only
    split
    · simp [slash, hexText_ascii]
    · split <;> simp [slash, hexText_ascii]

theorem newLine_ascii (indent : Nat) : AsciiText (newLine indent) :=
  AsciiText.cons_iff.mpr ⟨by decide, .replicate (by decide) _⟩

theorem guard_ascii (cs : List Char) : AsciiText (guard cs) := by
  unfold guard
  split <;> decide

theorem escaped_ascii (room : Room) (column : Nat) (first afterEscape : Bool) (cs : List Char) :
    AsciiText (escaped room column first afterEscape cs) := by
  have slash : IsAscii '\\' := by decide
  induction cs generalizing column first afterEscape with
  | nil => exact .nil
  | cons c rest ih =>
    rw [escaped]
    dsimp only
    split
    · split <;> simp [slash, ih, escape_ascii, newLine_ascii, guard_ascii]
    · rename_i special
      have ascii : IsAscii c := by
        simp only [needsEscape, isPlainAscii, Bool.or_eq_true, not_or, Bool.not_eq_true',
          Bool.and_eq_true, decide_eq_true_eq, Bool.not_eq_false] at special
        exact .inr special.2
      split <;> simp [slash, ih, newLine_ascii, guard_ascii, ascii]

end ScalarText

namespace Quoted

/-- The rest of a text in double quotes, after blanks or at the start of a line. -/
theorem double_escapes {indent : Nat} (indented : 0 < indent) (tail : List Char)
    {cs text : List Char} (escapes : ScalarText.Escapes indent cs text) (gap : Gap) (p : Place)
    (follows : (∃ bs, gap = .blanks bs) ∨ gap = .joined [] ∧ cs.head? ≠ some ' ') :
    double gap p (text ++ '"' :: tail) = .ok (gap.text ++ cs, ⟨p.past (text ++ ['"']), tail⟩) := by
  induction escapes generalizing gap p with
  | nil =>
    rw [List.nil_append, double_end, List.append_nil]
    rfl
  | @char c rest text kept more ih =>
    by_cases blank : c = ' '
    · subst blank
      obtain ⟨bs, rfl⟩ : ∃ bs, gap = .blanks bs := follows.resolve_right fun joined => joined.2 rfl
      rw [List.cons_append, double_blank, Gap.addBlank_blanks, ih _ _ (.inl ⟨_, rfl⟩)]
      simp
    · obtain ⟨visible, quote, slash⟩ := ScalarText.visible_of_kept kept blank
      rw [List.cons_append, double_word _ _ _ visible quote slash, ih .empty _ (.inl ⟨[], rfl⟩)]
      simp
  | @escape c rest text more ih =>
    rw [List.append_assoc, double_escape, ih .empty _ (.inl ⟨[], rfl⟩)]
    simp [Place.past_append]
  | @newLine cs text word more ih =>
    rw [List.append_assoc, double_newLine _ _ _ indented, ih _ _ (.inr ⟨rfl, word⟩)]
    simp [Place.past_append]
  | @guard rest text more ih =>
    have blank : double (.joined []) (p.past ('\\' :: ScalarText.newLine indent))
        ('\\' :: ' ' :: (text ++ '"' :: tail)) =
        Reading.prepend ((Gap.joined []).text ++ [' ']) (double .empty
          ((p.past ('\\' :: ScalarText.newLine indent)).past ['\\', ' ']) (text ++ '"' :: tail)) :=
      double_letter _ _ _ (' ', ' ') (by decide)
    rw [List.append_assoc, double_newLine _ _ _ indented]
    simp only [List.cons_append]
    rw [blank, ih .empty _ (.inl ⟨[], rfl⟩)]
    simp [Place.past_append]

end Quoted

end AgentWire.Yaml
