import AgentWire.Yaml.ScalarText
import AgentWire.Yaml.Unquoted
import AgentWire.Proofs.AsciiText

/-! Folded text is read back. A blank that has become a line break, and a line feed that has become
an empty line, are what the gap between two words gives back; so the gap that the reader carries
says what has been written and not been read yet. -/
namespace AgentWire.Yaml

/-! Places. -/

namespace Place

@[simp] theorem past_nil (p : Place) : p.past [] = p := rfl

@[simp] theorem past_cons (p : Place) (c : Char) (cs : List Char) :
    p.past (c :: cs) = (p.next c).past cs := rfl

theorem past_append (p : Place) (a b : List Char) : p.past (a ++ b) = (p.past a).past b :=
  List.foldl_append

@[simp] theorem next_index (p : Place) (c : Char) : (p.next c).index = p.index + 1 := by
  unfold next
  split
  · rfl
  · split <;> rfl

theorem past_index (p : Place) (cs : List Char) : (p.past cs).index = p.index + cs.length := by
  induction cs generalizing p with
  | nil => rfl
  | cons c rest ih =>
    rw [past_cons, ih, next_index, List.length_cons]
    omega

theorem next_line (p : Place) (c : Char) : p.line ≤ (p.next c).line := by
  unfold next
  split
  · exact Nat.le_succ _
  · split <;> exact Nat.le_refl _

theorem past_line (p : Place) (cs : List Char) : p.line ≤ (p.past cs).line := by
  induction cs generalizing p with
  | nil => exact Nat.le_refl _
  | cons c rest ih => exact Nat.le_trans (p.next_line c) (ih _)

theorem next_lineFeed (p : Place) : p.next '\n' = ⟨p.index + 1, p.line + 1, 0⟩ := rfl

end Place

/-! Characters in ASCII. -/

theorem isBreak_iff {c : Char} (ascii : IsAscii c) : isBreak c = true ↔ c = '\n' := by
  have low := ascii.lt
  unfold isBreak
  constructor
  · intro break_
    simp only [Bool.or_eq_true, decide_eq_true_eq] at break_
    rcases break_ with ((rfl | rfl) | rfl) | rfl
    · rfl
    · exact absurd low (by decide)
    · exact absurd low (by decide)
    · exact absurd low (by decide)
  · rintro rfl
    rfl

theorem isBlank_iff {c : Char} (ascii : IsAscii c) : isBlank c = true ↔ c = ' ' := by
  unfold isBlank
  constructor
  · intro blank
    simp only [Bool.or_eq_true, decide_eq_true_eq] at blank
    rcases blank with rfl | rfl
    · rfl
    · exact absurd ascii (by decide)
  · rintro rfl
    rfl

/-- A character of a word: in ASCII, and neither a blank nor the end of a line. -/
structure IsVisible (c : Char) : Prop where
  ascii : IsAscii c
  not_blank : c ≠ ' '
  not_break : c ≠ '\n'

namespace IsVisible

variable {c : Char} (visible : IsVisible c)
include visible

theorem isBreak : isBreak c = false :=
  Bool.eq_false_iff.mpr fun break_ => visible.not_break ((isBreak_iff visible.ascii).mp break_)

theorem isBlank : isBlank c = false :=
  Bool.eq_false_iff.mpr fun blank => visible.not_blank ((isBlank_iff visible.ascii).mp blank)

theorem isSpace : isSpace c = false := by
  rw [Yaml.isSpace, visible.isBlank, visible.isBreak]
  rfl

theorem next (p : Place) : p.next c = ⟨p.index + 1, p.line, p.column + 1⟩ := by
  have mark : c ≠ byteOrderMark := by
    rintro rfl
    exact absurd visible.ascii (by decide)
  rw [Place.next, visible.isBreak, if_neg (by decide), if_neg mark]

end IsVisible

theorem next_blank (p : Place) : p.next ' ' = ⟨p.index + 1, p.line, p.column + 1⟩ := rfl

theorem past_blanks (p : Place) (n : Nat) :
    p.past (List.replicate n ' ') = ⟨p.index + n, p.line, p.column + n⟩ := by
  induction n generalizing p with
  | zero => rfl
  | succ n ih =>
    rw [List.replicate_succ, Place.past_cons, ih, next_blank, Place.mk.injEq]
    exact ⟨by dsimp only; omega, rfl, by dsimp only; omega⟩

theorem past_newLine (p : Place) (n : Nat) :
    p.past (ScalarText.newLine n) = ⟨p.index + 1 + n, p.line + 1, n⟩ := by
  rw [ScalarText.newLine, Place.past_cons, Place.next_lineFeed, past_blanks, Nat.zero_add]

namespace ScalarText

/-- Clean text is text in ASCII. -/
theorem isClean_iff {cs : List Char} : isClean cs = true ↔ AsciiText cs := by
  simp [isClean, AsciiText, IsAscii, isPlainAscii]

end ScalarText

theorem startsBoundary_blank (cs : List Char) : startsBoundary (' ' :: cs) = false := by
  cases cs with
  | nil => rfl
  | cons b more => cases more <;> simp [startsBoundary]

theorem startsBoundary_lineFeed (cs : List Char) : startsBoundary ('\n' :: cs) = false := by
  cases cs with
  | nil => rfl
  | cons b more => cases more <;> simp [startsBoundary]

theorem startsBoundary_blanks {n : Nat} (some : 0 < n) (cs : List Char) :
    startsBoundary (List.replicate n ' ' ++ cs) = false := by
  obtain ⟨k, rfl⟩ := Nat.exists_eq_succ_of_ne_zero (Nat.pos_iff_ne_zero.mp some)
  exact startsBoundary_blank _

/-! What folding writes, without the columns that decide where a text is folded. -/

theorem visible_of_ascii {c : Char} (ascii : IsAscii c) (blank : c ≠ ' ') (lineFeed : c ≠ '\n') :
    IsVisible c :=
  ⟨ascii, blank, lineFeed⟩

namespace ScalarText

/-- What is written for a text after a character. -/
inductive Folds (indent : Nat) (quoted : Char → List Char) :
    Option Char → List Char → List Char → Prop
  | nil {before : Option Char} : Folds indent quoted before [] []
  | word {before : Option Char} {c : Char} {rest text : List Char} (visible : IsVisible c)
      (more : Folds indent quoted (some c) rest text) :
      Folds indent quoted before (c :: rest) (quoted c ++ text)
  | blank {before : Option Char} {rest text : List Char}
      (more : Folds indent quoted (some ' ') rest text) :
      Folds indent quoted before (' ' :: rest) (' ' :: text)
  | fold {b c : Char} {rest text : List Char} (word : b ≠ ' ') (next : c ≠ ' ')
      (more : Folds indent quoted (some ' ') (c :: rest) text) :
      Folds indent quoted (some b) (' ' :: c :: rest) (newLine indent ++ text)
  | lineFeed {before : Option Char} {rest text : List Char}
      (more : Folds indent quoted (some '\n') rest text) :
      Folds indent quoted before ('\n' :: rest)
        ((if before = some '\n' then ['\n'] else ['\n', '\n']) ++
          ((if rest.head? = some '\n' then [] else List.replicate indent ' ') ++ text))

theorem folds_folded (room : Room) (quoted : Char → List Char) (blank : quoted ' ' = [' '])
    (column : Nat) (before : Option Char) {cs : List Char} (ascii : AsciiText cs) :
    Folds room.indent quoted before cs (folded room quoted column before cs) := by
  induction cs generalizing column before with
  | nil => exact .nil
  | cons c rest ih =>
    rw [AsciiText.cons_iff] at ascii
    have later (column : Nat) := ih column (some c) ascii.2
    rw [folded]
    split
    · rename_i fold
      simp only [Bool.and_eq_true, decide_eq_true_eq, ne_eq, Bool.not_eq_true',
        Option.isSome_iff_exists] at fold
      obtain ⟨⟨⟨⟨⟨⟨rfl, _⟩, _⟩, b, rfl⟩, word⟩, more⟩, single⟩ := fold
      cases rest with
      | nil => cases more
      | cons d rest => exact .fold (by simpa using word) (by simpa using single) (later _)
    · split
      · rename_i feed
        subst feed
        by_cases next : rest.head? = some '\n'
        · have text := @Folds.lineFeed _ _ before _ _ (later 0)
          rw [if_pos next, List.nil_append] at text
          rwa [if_pos next]
        · have text := @Folds.lineFeed _ _ before _ _ (later room.indent)
          rw [if_neg next] at text
          rwa [if_neg next]
      · rename_i feed
        by_cases space : c = ' '
        · subst space
          rw [blank]
          exact .blank (later _)
        · exact .word (visible_of_ascii ascii.1 space feed) (later _)

/-- What stands between a line feed and what follows it on the page: blanks, or nothing before
another line feed. In neither case a document ends there. -/
theorem folds_lineFeed {indent : Nat} (indented : 0 < indent) {quoted : Char → List Char}
    {rest text : List Char} (more : Folds indent quoted (some '\n') rest text) (tail : List Char) :
    ∃ n, (if rest.head? = some '\n' then [] else List.replicate indent ' ') = List.replicate n ' ' ∧
      startsBoundary (List.replicate n ' ' ++ (text ++ tail)) = false := by
  by_cases next : rest.head? = some '\n'
  · refine ⟨0, if_pos next, ?_⟩
    cases more with
    | lineFeed => exact startsBoundary_lineFeed _
    | nil => cases next
    | word visible => exact absurd (by simpa using next) visible.not_break
    | blank => cases next
    | fold => cases next
  · exact ⟨indent, if_neg next, startsBoundary_blanks indented _⟩

theorem blankAtBreak_cons {a : Char} {cs : List Char} (apart : blankAtBreak (a :: cs) = false) :
    blankAtBreak cs = false := by
  cases cs with
  | nil => rfl
  | cons b rest =>
    rw [blankAtBreak, Bool.or_eq_false_iff] at apart
    exact apart.2

theorem blankAtBreak_after {before : Option Char} {c : Char} {rest : List Char}
    (apart : blankAtBreak (before.toList ++ c :: rest) = false) :
    blankAtBreak (c :: rest) = false := by
  cases before with
  | none => exact apart
  | some b => exact blankAtBreak_cons apart

theorem blankAtBreak_blank {cs : List Char} (apart : blankAtBreak (' ' :: cs) = false) :
    cs.head? ≠ some '\n' := by
  cases cs with
  | nil => simp
  | cons b rest =>
    simpa [blankAtBreak] using fun same : b = '\n' => by simp [blankAtBreak, same] at apart

theorem blankAtBreak_lineFeed {cs : List Char} (apart : blankAtBreak ('\n' :: cs) = false) :
    cs.head? ≠ some ' ' := by
  cases cs with
  | nil => simp
  | cons b rest =>
    simpa [blankAtBreak] using fun same : b = ' ' => by simp [blankAtBreak, same] at apart

end ScalarText

/-! Gaps. -/

namespace Gap

@[simp] theorem text_empty : Gap.empty.text = [] := rfl

@[simp] theorem text_blanks (bs : List Char) : (Gap.blanks bs).text = bs := rfl

@[simp] theorem text_joined : (Gap.joined []).text = [] := rfl

/-- A gap with the end of a line in it drops blanks. -/
@[simp] theorem addBlank_addBreak (gap : Gap) (b c : Char) :
    (gap.addBreak b).addBlank c = gap.addBreak b := by
  cases gap <;> rfl

@[simp] theorem addBlank_blanks (bs : List Char) (c : Char) :
    (Gap.blanks bs).addBlank c = .blanks (bs ++ [c]) := rfl

/-- A gap stands for what has been written since the last word: nothing or blanks, one blank that
has become the end of a line, or line feeds. -/
inductive Follows : Option Char → List Char → Gap → Prop
  | word {before : Option Char} {cs : List Char} (blank : before ≠ some ' ')
      (lineFeed : before ≠ some '\n') :
      Follows before cs .empty
  | blanks {bs cs : List Char} : Follows (some ' ') cs (.blanks bs)
  | folded {c : Char} {cs : List Char} (visible : IsVisible c) :
      Follows (some ' ') (c :: cs) (.broken '\n' [])
  | lineFeeds {n : Nat} {cs : List Char} (blank : cs.head? ≠ some ' ') :
      Follows (some '\n') cs (.broken '\n' (List.replicate (n + 1) '\n'))

theorem addBreak_lineFeeds (n : Nat) : (Gap.broken '\n' (List.replicate n '\n')).addBreak '\n' =
    .broken '\n' (List.replicate (n + 1) '\n') := by
  rw [addBreak, List.replicate_succ']

theorem text_lineFeeds (n : Nat) :
    (Gap.broken '\n' (List.replicate (n + 1) '\n')).text = List.replicate (n + 1) '\n' := by
  simp [text, breakText, List.replicate_succ]

/-- Before a blank that is kept there are blanks at most. -/
theorem Follows.blanks_of_blank {before : Option Char} {cs : List Char} {gap : Gap}
    (follows : Follows before (' ' :: cs) gap) : ∃ bs, gap = .blanks bs := by
  cases follows with
  | word => exact ⟨_, rfl⟩
  | blanks => exact ⟨_, rfl⟩
  | lineFeeds head => exact absurd rfl head
  | folded visible => exact absurd rfl visible.not_blank

/-- Before a blank that becomes a line break there is nothing. -/
theorem Follows.empty_of_fold {b : Char} {cs : List Char} {gap : Gap}
    (follows : Follows (some b) (' ' :: cs) gap) (word : b ≠ ' ') : gap = .empty := by
  cases follows with
  | word => rfl
  | blanks => exact absurd rfl word
  | lineFeeds head => exact absurd rfl head
  | folded visible => exact absurd rfl visible.not_blank

end Gap

/-! Single quotes. -/

namespace Quoted

theorem prepend_prepend (a b : List Char) (r : Reading) :
    Reading.prepend a (Reading.prepend b r) = Reading.prepend (a ++ b) r := by
  cases r <;> simp [Reading.prepend, Except.map]

@[simp] theorem prepend_ok (a value : List Char) (c : Cursor) :
    Reading.prepend a (.ok (value, c)) = .ok (a ++ value, c) := rfl

section Single

variable (gap : Gap) (p : Place) (cs : List Char)

theorem single_blank : single gap p (' ' :: cs) = single (gap.addBlank ' ') (p.next ' ') cs := rfl

theorem single_lineFeed (inside : startsBoundary cs = false) :
    single gap p ('\n' :: cs) = single (gap.addBreak '\n') (p.next '\n') cs := by
  simp [single, isBreak, inside]

theorem single_twice :
    single gap p ('\'' :: '\'' :: cs) =
      Reading.prepend (gap.text ++ ['\'']) (single .empty (p.past ['\'', '\'']) cs) := rfl

theorem single_word {c : Char} (visible : IsVisible c) (quote : c ≠ '\'') :
    single gap p (c :: cs) = Reading.prepend (gap.text ++ [c]) (single .empty (p.next c) cs) := by
  simp [single, quote, visible.isBreak, visible.isBlank]

theorem single_end (other : cs.head? ≠ some '\'') :
    single gap p ('\'' :: cs) = .ok (gap.text, ⟨p.next '\'', cs⟩) := by
  cases cs with
  | nil => rfl
  | cons c rest =>
    have quote : c ≠ '\'' := by simpa using other
    simp [single, quote]

theorem single_blanks (n : Nat) (b : Char) :
    single (gap.addBreak b) p (List.replicate n ' ' ++ cs) =
      single (gap.addBreak b) (p.past (List.replicate n ' ')) cs := by
  induction n generalizing p with
  | zero => rfl
  | succ n ih =>
    rw [List.replicate_succ, List.cons_append, single_blank, Gap.addBlank_addBreak, ih]; rfl

theorem single_newLine {indent : Nat} (indented : 0 < indent) :
    single gap p (ScalarText.newLine indent ++ cs) =
      single (gap.addBreak '\n') (p.past (ScalarText.newLine indent)) cs := by
  rw [ScalarText.newLine, List.cons_append,
    single_lineFeed _ _ _ (startsBoundary_blanks indented cs), single_blanks]
  rfl

end Single

/-- The rest of a text in single quotes, after a gap. The induction is on what is written; what the
writer has left open stands in the gap. -/
theorem single_folded {indent : Nat} (indented : 0 < indent) {tail : List Char}
    (other : tail.head? ≠ some '\'') {before : Option Char} {cs text : List Char}
    (folds : ScalarText.Folds indent ScalarText.twice before cs text) {gap : Gap} (p : Place)
    (ascii : AsciiText cs) (apart : ScalarText.blankAtBreak (before.toList ++ cs) = false)
    (follows : Gap.Follows before cs gap) :
    single gap p (text ++ '\'' :: tail) =
      .ok (gap.text ++ cs, ⟨p.past (text ++ ['\'']), tail⟩) := by
  induction folds generalizing gap p with
  | nil =>
    rw [List.nil_append, single_end gap p tail other, List.append_nil]
    rfl
  | @word before c rest text visible more ih =>
    rw [AsciiText.cons_iff] at ascii
    have later (p : Place) := ih p ascii.2 (ScalarText.blankAtBreak_after apart)
      (.word (by simpa using visible.not_blank) (by simpa using visible.not_break))
    rw [List.append_assoc, ScalarText.twice]
    split
    · rename_i quote
      subst quote
      show single gap p ('\'' :: '\'' :: (text ++ '\'' :: tail)) = _
      rw [single_twice, later]
      simp [Gap.text_empty]
    · rename_i quote
      show single gap p (c :: (text ++ '\'' :: tail)) = _
      rw [single_word _ _ _ visible quote, later]
      simp [Gap.text_empty]
  | @blank before rest text more ih =>
    rw [AsciiText.cons_iff] at ascii
    obtain ⟨bs, rfl⟩ := follows.blanks_of_blank
    rw [List.cons_append, single_blank, Gap.addBlank_blanks]
    refine (ih (p.next ' ') ascii.2 (ScalarText.blankAtBreak_after apart) .blanks).trans ?_
    simp [Gap.text]
  | @fold b c rest text word next more ih =>
    rw [AsciiText.cons_iff] at ascii
    have apart_rest := ScalarText.blankAtBreak_after apart
    have lineFeed : c ≠ '\n' := by simpa using ScalarText.blankAtBreak_blank apart_rest
    have visible := visible_of_ascii (AsciiText.cons_iff.mp ascii.2).1 next lineFeed
    obtain rfl := follows.empty_of_fold word
    rw [List.append_assoc, single_newLine _ _ _ indented]
    refine (ih (p.past (ScalarText.newLine indent)) ascii.2 apart_rest (.folded visible)).trans ?_
    rw [Gap.text_empty]
    simp [Gap.text, breakText, Place.past_append]
  | @lineFeed before rest text more ih =>
    rw [AsciiText.cons_iff] at ascii
    have apart_rest := ScalarText.blankAtBreak_after apart
    have head := ScalarText.blankAtBreak_lineFeed apart_rest
    obtain ⟨n, blanks, inside⟩ := ScalarText.folds_lineFeed indented more ('\'' :: tail)
    rw [blanks]
    have later (k : Nat) (p : Place) :
        single ((Gap.broken '\n' (List.replicate k '\n')).addBreak '\n') p
          (List.replicate n ' ' ++ (text ++ '\'' :: tail)) =
        .ok (List.replicate (k + 1) '\n' ++ rest,
          ⟨p.past (List.replicate n ' ' ++ (text ++ ['\''])), tail⟩) := by
      rw [single_blanks, Gap.addBreak_lineFeeds]
      refine (ih (p.past (List.replicate n ' ')) ascii.2 apart_rest (.lineFeeds head)).trans ?_
      rw [Gap.text_lineFeeds, Place.past_append p]
    simp only [List.append_assoc]
    cases follows with
    | word space feed =>
      rw [if_neg feed, List.cons_append, List.singleton_append]
      rw [single_lineFeed _ _ _ (startsBoundary_lineFeed _), single_lineFeed _ _ _ inside]
      exact later 0 _
    | blanks => simp [ScalarText.blankAtBreak] at apart
    | folded visible => exact absurd rfl visible.not_break
    | @lineFeeds k =>
      rw [if_pos rfl, List.singleton_append, single_lineFeed _ _ _ inside, later,
        Gap.text_lineFeeds, List.replicate_succ' (n := k + 1), List.append_assoc]
      rfl

end Quoted

/-! Without quotes. -/

namespace ScalarText

/-- What makes a text plain. -/
structure IsPlain (c : Char) (rest : List Char) : Prop where
  ascii : AsciiText (c :: rest)
  oneLine : '\n' ∉ c :: rest
  first : c ≠ ' '
  last : (c :: rest).getLast? ≠ some ' '
  free : c ∉ reserved
  word : c = '?' ∨ c = ':' ∨ c = '-' → endsWord rest = false
  clear : hasIndicator (c :: rest) = false
  start : (c :: rest).take 3 ≠ ['-', '-', '-']
  stop : (c :: rest).take 3 ≠ ['.', '.', '.']

theorem canBePlain_iff {c : Char} {rest : List Char} :
    canBePlain (c :: rest) = true ↔ IsPlain c rest := by
  have words : ((c = '?' || c = ':' || c = '-') && endsWord rest) = false ↔
      (c = '?' ∨ c = ':' ∨ c = '-' → endsWord rest = false) := by
    cases endsWord rest <;> simp [and_assoc]
  have held : reserved.contains c = false ↔ c ∉ reserved := by
    rw [← List.contains_iff_mem, Bool.not_eq_true]
  have inside : (c :: rest).contains '\n' = false ↔ '\n' ∉ c :: rest := by
    rw [← List.contains_iff_mem, Bool.not_eq_true]
  unfold canBePlain
  simp only [Bool.and_eq_true, Bool.not_eq_true', isClean_iff, words, held, inside,
    decide_eq_true_eq, ne_eq, Bool.or_eq_false_iff, decide_eq_false_iff_not]
  constructor
  · rintro ⟨⟨⟨⟨⟨⟨⟨ascii, oneLine⟩, first⟩, last⟩, free⟩, word⟩, clear⟩, start, stop⟩
    exact ⟨ascii, oneLine, first, last, free, word, clear, start, stop⟩
  · rintro ⟨ascii, oneLine, first, last, free, word, clear, start, stop⟩
    exact ⟨⟨⟨⟨⟨⟨⟨ascii, oneLine⟩, first⟩, last⟩, free⟩, word⟩, clear⟩, start, stop⟩

theorem hasIndicator_cons {a : Char} {cs : List Char} (clear : hasIndicator (a :: cs) = false) :
    hasIndicator cs = false := by
  unfold hasIndicator at clear
  split at clear
  · cases clear
  · rename_i same
    cases same
    exact (Bool.or_eq_false_iff.mp clear).2
  · rename_i same
    cases same
    exact clear
  · rename_i same
    cases same

theorem hasIndicator_after {before : Option Char} {c : Char} {rest : List Char}
    (clear : hasIndicator (before.toList ++ c :: rest) = false) :
    hasIndicator (c :: rest) = false := by
  cases before with
  | none => exact clear
  | some b => exact hasIndicator_cons clear

theorem hasIndicator_colon {cs : List Char} (clear : hasIndicator (':' :: cs) = false) :
    endsWord cs = false := by
  rw [hasIndicator] at clear
  exact (Bool.or_eq_false_iff.mp clear).1

/-- Within a word a text goes on with a character of a word, folded or not. -/
theorem folds_endsWord {indent : Nat} {before : Option Char} {cs text : List Char}
    (folds : Folds indent (fun c => [c]) before cs text) (goes : endsWord cs = false)
    (tail : List Char) :
    endsWord (text ++ tail) = false := by
  cases folds with
  | nil => cases goes
  | word => exact goes
  | blank => cases goes
  | fold => cases goes
  | lineFeed => cases goes

end ScalarText

namespace Plain

@[simp] theorem prepend_nil (r : Reading) : Reading.prepend [] r = r := rfl

theorem prepend_prepend (a b : List Char) (r : Reading) :
    Reading.prepend a (Reading.prepend b r) = Reading.prepend (a ++ b) r := by
  simp [Reading.prepend]

section Read

variable (least : Nat) (gap : Gap) (p : Place) (cs : List Char)

theorem read_blank :
    read false least gap p (' ' :: cs) = read false least (gap.addBlank ' ') (p.next ' ') cs := rfl

theorem read_lineFeed (inside : startsBoundary cs = false) :
    read false least gap p ('\n' :: cs) =
      read false least (gap.addBreak '\n') (p.next '\n') cs := by
  simp [read, isBreak, inside]

theorem read_word {c : Char} (visible : IsVisible c) (colon : c = ':' → endsWord cs = false)
    (comment : c = '#' → gap = .empty) (indented : gap.isBroken = true → least ≤ p.column) :
    read false least gap p (c :: cs) =
      Reading.prepend (gap.text ++ [c]) (read false least .empty (p.next c) cs) := by
  have goes : (stops false c cs || (gap ≠ .empty && c = '#') ||
      (gap.isBroken && !false && p.column < least)) = false := by
    simp only [stops, visible.isSpace, Bool.false_and, Bool.or_false, Bool.false_or, Bool.not_false,
      Bool.and_true, Bool.or_eq_false_iff, Bool.and_eq_false_iff, decide_eq_false_iff_not,
      Nat.not_lt, ne_eq, not_not]
    refine ⟨⟨?_, ?_⟩, ?_⟩
    · by_cases same : c = ':'
      · exact .inr (colon same)
      · exact .inl same
    · by_cases same : c = '#'
      · exact .inl (by simpa using comment same)
      · exact .inr same
    · cases broken : gap.isBroken with
      | false => exact .inl rfl
      | true => exact .inr (indented broken)
  rw [read, if_neg visible.not_blank, visible.isBreak, if_neg (by decide),
    if_neg (by rw [goes]; decide)]

theorem read_blanks (n : Nat) (b : Char) :
    read false least (gap.addBreak b) p (List.replicate n ' ' ++ cs) =
      read false least (gap.addBreak b) (p.past (List.replicate n ' ')) cs := by
  induction n generalizing p with
  | zero => rfl
  | succ n ih =>
    rw [List.replicate_succ, List.cons_append, read_blank, Gap.addBlank_addBreak, ih]; rfl

theorem read_newLine {indent : Nat} (indented : 0 < indent) :
    read false least gap p (ScalarText.newLine indent ++ cs) =
      read false least (gap.addBreak '\n') (p.past (ScalarText.newLine indent)) cs := by
  rw [ScalarText.newLine, List.cons_append,
    read_lineFeed _ _ _ _ (startsBoundary_blanks indented cs), read_blanks]
  rfl

end Read

/-- The rest of a plain text, after a gap, up to the place where it has been written completely. -/
theorem read_folded {indent least : Nat} (indented : 0 < indent) (enough : least ≤ indent)
    (tail : List Char) {before : Option Char} {cs text : List Char}
    (folds : ScalarText.Folds indent (fun c => [c]) before cs text) {gap : Gap} (p : Place)
    (ascii : AsciiText cs) (oneLine : '\n' ∉ before.toList ++ cs)
    (clear : ScalarText.hasIndicator (before.toList ++ cs) = false)
    (ends : (before.toList ++ cs).getLast? ≠ some ' ') (follows : Gap.Follows before cs gap)
    (aligned : gap.isBroken = true → least ≤ p.column) :
    read false least gap p (text ++ tail) =
      Reading.prepend (gap.text ++ cs) (read false least .empty (p.past text) tail) := by
  induction folds generalizing gap p with
  | @nil before =>
    have empty : gap = .empty := by
      cases follows with
      | word => rfl
      | blanks => exact absurd rfl ends
      | lineFeeds => simp at oneLine
    subst empty
    rfl
  | @word before c rest text visible more ih =>
    rw [AsciiText.cons_iff] at ascii
    have clear_rest := ScalarText.hasIndicator_after clear
    have colon : c = ':' → endsWord (text ++ tail) = false := by
      rintro rfl
      exact ScalarText.folds_endsWord more (ScalarText.hasIndicator_colon clear_rest) tail
    have comment : c = '#' → gap = .empty := by
      rintro rfl
      cases follows with
      | word => rfl
      | blanks => simp [ScalarText.hasIndicator] at clear
      | folded => simp [ScalarText.hasIndicator] at clear
      | lineFeeds => simp at oneLine
    rw [List.append_assoc, List.singleton_append, read_word _ _ _ _ visible colon comment aligned]
    rw [ih (p.next c) ascii.2 (by simp_all) clear_rest (by simp_all)
      (.word (by simpa using visible.not_blank) (by simpa using visible.not_break))
      (by simp [Gap.empty, Gap.isBroken])]
    rw [prepend_prepend, Gap.text_empty, List.nil_append, List.append_assoc, Place.past_append]
    rfl
  | @blank before rest text more ih =>
    rw [AsciiText.cons_iff] at ascii
    obtain ⟨bs, rfl⟩ := follows.blanks_of_blank
    rw [List.cons_append, read_blank, Gap.addBlank_blanks]
    rw [ih (p.next ' ') ascii.2 (by simp_all) (ScalarText.hasIndicator_after clear) (by simp_all)
      .blanks (by simp [Gap.isBroken])]
    simp [Gap.text]
  | @fold b c rest text word next more ih =>
    rw [AsciiText.cons_iff] at ascii
    have lineFeed : c ≠ '\n' := by
      rintro rfl
      simp at oneLine
    have visible := visible_of_ascii (AsciiText.cons_iff.mp ascii.2).1 next lineFeed
    obtain rfl := follows.empty_of_fold word
    rw [List.append_assoc, read_newLine _ _ _ _ indented]
    have later := @ih (.broken '\n' []) (p.past (ScalarText.newLine indent)) ascii.2 (by simp_all)
      (ScalarText.hasIndicator_after clear) (by simp_all) (.folded visible)
      (fun _ => by rw [past_newLine]; exact enough)
    refine later.trans ?_
    rw [Gap.text_empty]
    simp [Gap.text, breakText, Place.past_append]
  | lineFeed => simp at oneLine

end Plain

end AgentWire.Yaml
