import AgentWire.Proofs.Yaml.Scalars

/-! Reading token by token. What the reader finds depends on the next character that is neither
blank nor the end of a line alone; so the tokens of a text are known once they are known for the
lines that follow. -/
namespace AgentWire.Yaml

namespace Lexer

/-- The reader outside of flow collections. -/
def here (blocks : List Nat) (may : Bool) (candidate : Option Candidate) (p : Place)
    (cs : List Char) : Lexer :=
  ⟨⟨p, cs⟩, blocks, may, candidate, []⟩

/-- Reading goes well and gives these tokens. What turns out to be a key stands no further left. -/
def Reads (s : Lexer) (ts : List Token) : Prop :=
  ∀ fuel, s.cursor.rest.length < fuel → ∃ keys, settleFrom (marksFrom fuel s) = ⟨keys, none, ts⟩ ∧
    ∀ k ∈ keys, s.cursor.place.index ≤ k.1

theorem settleFrom_tokens (tks : List Token) (marks : List Mark) :
    settleFrom (tks.map .token ++ marks) =
      { settleFrom marks with tokens := tks ++ (settleFrom marks).tokens } := by
  induction tks with
  | nil => rfl
  | cons t rest ih => rw [List.map_cons, List.cons_append, settleFrom, ih]; rfl

theorem lookup_none {keys : List (Nat × Bool)} {i : Nat} (later : ∀ k ∈ keys, i < k.1) :
    keys.lookup i = none := by
  rw [List.lookup_eq_none_iff]
  intro k inside
  have above := later k inside
  simp
  omega

section Reads

variable {s next : Lexer} {ts : List Token}

theorem Reads.last {tks : List Token} (step : s.step = .ok (tks.map .token, none)) :
    s.Reads tks := by
  intro fuel enough
  obtain ⟨n, rfl⟩ : ∃ n, fuel = n + 1 := ⟨fuel - 1, by omega⟩
  refine ⟨[], ?_, by simp⟩
  have settled := settleFrom_tokens tks []
  rw [List.append_nil] at settled
  simp only [marksFrom, step, settled, settleFrom, List.append_nil]

/-- A step that takes some characters and gives some tokens. -/
theorem Reads.step (tks : List Token) (step : s.step = .ok (tks.map .token, some next))
    (shorter : next.cursor.rest.length < s.cursor.rest.length)
    (later : s.cursor.place.index ≤ next.cursor.place.index) (reads : next.Reads ts) :
    s.Reads (tks ++ ts) := by
  intro fuel enough
  obtain ⟨n, rfl⟩ : ∃ n, fuel = n + 1 := ⟨fuel - 1, by omega⟩
  obtain ⟨keys, settled, above⟩ := reads n (by omega)
  refine ⟨keys, ?_, fun k inside => Nat.le_trans later (above k inside)⟩
  simp only [marksFrom, step, settleFrom_tokens, settled]

/-- A word that might have been a key and is none. -/
theorem Reads.word (tks : List Token)
    (step : s.step = .ok (.mayBeKey s.cursor.place.index :: tks.map .token, some next))
    (shorter : next.cursor.rest.length < s.cursor.rest.length)
    (later : s.cursor.place.index < next.cursor.place.index) (reads : next.Reads ts) :
    s.Reads (tks ++ ts) := by
  intro fuel enough
  obtain ⟨n, rfl⟩ : ∃ n, fuel = n + 1 := ⟨fuel - 1, by omega⟩
  obtain ⟨keys, settled, above⟩ := reads n (by omega)
  refine ⟨keys, ?_, fun k inside => Nat.le_trans (Nat.le_of_lt later) (above k inside)⟩
  have none := lookup_none (i := s.cursor.place.index) fun k inside =>
    Nat.lt_of_lt_of_le later (above k inside)
  simp only [marksFrom, step, List.cons_append, settleFrom, settleFrom_tokens, settled, none]

/-- A word with a colon after it. -/
theorem Reads.key {colon : Lexer} {word : Token} {opens : Bool}
    (step : s.step = .ok ([.mayBeKey s.cursor.place.index, .token word], some colon))
    (step_colon : colon.step = .ok ([.isKey s.cursor.place.index opens, .token .value], some next))
    (shorter : next.cursor.rest.length + 1 < s.cursor.rest.length)
    (later : s.cursor.place.index < next.cursor.place.index) (reads : next.Reads ts) :
    s.Reads ((if opens then [.blockMapping] else []) ++ .key :: word :: .value :: ts) := by
  intro fuel enough
  obtain ⟨n, rfl⟩ : ∃ n, fuel = n + 2 := ⟨fuel - 2, by omega⟩
  obtain ⟨keys, settled, above⟩ := reads n (by omega)
  refine ⟨(s.cursor.place.index, opens) :: keys, ?_, ?_⟩
  · simp only [marksFrom, step, step_colon, List.cons_append, List.nil_append, settleFrom, settled,
      List.lookup_cons_self]
    cases opens <;> rfl
  · rw [List.forall_mem_cons]
    exact ⟨Nat.le_refl _, fun k inside => Nat.le_trans (Nat.le_of_lt later) (above k inside)⟩

theorem step_congr (same : s.advance = next.advance) : s.step = next.step := by
  unfold Lexer.step
  rw [same]

/-- Moving on before a token changes nothing. -/
theorem Reads.of_advance (same : s.advance = next.advance)
    (shorter : next.cursor.rest.length ≤ s.cursor.rest.length)
    (later : s.cursor.place.index ≤ next.cursor.place.index) (reads : next.Reads ts) :
    s.Reads ts := by
  intro fuel enough
  obtain ⟨keys, settled, above⟩ := reads fuel (by omega)
  refine ⟨keys, ?_, fun k inside => Nat.le_trans later (above k inside)⟩
  obtain ⟨n, rfl⟩ : ∃ n, fuel = n + 1 := ⟨fuel - 1, by omega⟩
  simp only [marksFrom, step_congr same] at settled ⊢
  cases step : next.step with
  | ok result =>
    rw [step] at settled
    obtain ⟨marks, _ | after⟩ := result
    · exact settled
    · exact settled
  | error fault =>
    rw [step] at settled
    cases settled

end Reads

/-! The way to the next token. -/

theorem skipSpace_visible {c : Char} (visible : IsVisible c) (comment : c ≠ '#') (may : Bool)
    (p : Place) (cs : List Char) : skipSpace false may false p (c :: cs) = (may, ⟨p, c :: cs⟩) := by
  simp [skipSpace, visible.isBreak, visible.not_blank, comment]

theorem skipSpace_line (may comment : Bool) (p : Place) (cs : List Char) :
    p.line ≤ (skipSpace false may comment p cs).2.place.line := by
  induction cs generalizing may comment p with
  | nil => exact Nat.le_refl _
  | cons c rest ih =>
    unfold skipSpace
    split_ifs
    · exact Nat.le_trans (p.next_line c) (ih _ _ _)
    · exact Nat.le_trans (p.next_line c) (ih _ _ _)
    · exact Nat.le_trans (p.next_line c) (ih _ _ _)
    · exact Nat.le_refl _

section Advance

variable (blocks : List Nat) (may : Bool) (candidate : Option Candidate) (p : Place)
  (cs : List Char)

theorem advance_here : (here blocks may candidate p cs).advance =
    (refresh (skipSpace false may false p cs).2.place candidate).map fun k =>
      here blocks (skipSpace false may false p cs).1 k (skipSpace false may false p cs).2.place
        (skipSpace false may false p cs).2.rest := by
  have flow : (here blocks may candidate p cs).inFlow = false := rfl
  unfold advance
  rw [flow]
  simp only [here]
  generalize skipSpace false may false p cs = skipped
  obtain ⟨may, cursor⟩ := skipped
  cases refresh cursor.place candidate <;> rfl

theorem advance_blank : (here blocks may candidate p (' ' :: cs)).advance =
    (here blocks may candidate (p.next ' ') cs).advance := by
  rw [advance_here, advance_here]
  rfl

/-- At the end of a line no word before it can be a key any more. -/
theorem advance_lineFeed (stale : ∀ k ∈ candidate, k.place.line ≤ p.line ∧ k.required = false) :
    (here blocks may candidate p ('\n' :: cs)).advance =
      (here blocks true none (p.next '\n') cs).advance := by
  have skip : skipSpace false may false p ('\n' :: cs) =
      skipSpace false true false (p.next '\n') cs := by
    simp [skipSpace, isBreak]
  have below : p.line + 1 ≤ (skipSpace false true false (p.next '\n') cs).2.place.line :=
    skipSpace_line true false (p.next '\n') cs
  rw [advance_here, advance_here, skip]
  cases candidate with
  | none => rfl
  | some k =>
    obtain ⟨line, free⟩ := stale k rfl
    have apart : k.place.line ≠ (skipSpace false true false (p.next '\n') cs).2.place.line := by
      omega
    have none : refresh (skipSpace false true false (p.next '\n') cs).2.place (some k) =
        .ok none := by
      simp [refresh, Candidate.isStale, apart, free]
    rw [none]
    rfl

end Advance

/-! Lines. -/

end Lexer

/-- The column a line starts at and its text, up to the end of the document. -/
structure Line where
  column : Nat
  text : List Char

namespace Line

def chars (l : Line) : List Char :=
  List.replicate l.column ' ' ++ l.text

/-- A line with a word or a sign on it, or none at the end of the document. -/
def Starts (l : Line) : Prop :=
  l.text = [] ∨ ∃ c rest, l.text = c :: rest ∧ IsVisible c ∧ c ≠ '#'

/-- What the reader finds from a line on. -/
def Reads (blocks : List Nat) (l : Line) (ts : List Token) : Prop :=
  ∀ i n, (Lexer.here blocks true none ⟨i, n, l.column⟩ l.text).Reads ts

end Line

namespace Lexer

variable {blocks : List Nat} {may : Bool} {candidate : Option Candidate} {p : Place}
  {ts : List Token}

theorem reads_blanks (n : Nat) {cs : List Char}
    (reads : (here blocks may candidate ⟨p.index + n, p.line, p.column + n⟩ cs).Reads ts) :
    (here blocks may candidate p (List.replicate n ' ' ++ cs)).Reads ts := by
  induction n generalizing p with
  | zero => exact reads
  | succ n ih =>
    refine .of_advance (advance_blank _ _ _ _ _) (Nat.le_succ _) (Nat.le_succ _) (ih ?_)
    have same : (⟨(p.next ' ').index + n, (p.next ' ').line, (p.next ' ').column + n⟩ : Place) =
        ⟨p.index + (n + 1), p.line, p.column + (n + 1)⟩ := by
      rw [next_blank, Place.mk.injEq]
      exact ⟨by dsimp only; omega, rfl, by dsimp only; omega⟩
    rw [same]
    exact reads

theorem reads_line {l : Line} (stale : ∀ k ∈ candidate, k.place.line ≤ p.line ∧ k.required = false)
    (reads : l.Reads blocks ts) : (here blocks may candidate p ('\n' :: l.chars)).Reads ts := by
  refine .of_advance (advance_lineFeed _ _ _ _ _ stale) (Nat.le_succ _) (Nat.le_succ _)
    (reads_blanks _ ?_)
  rw [Place.next_lineFeed, Nat.zero_add]
  exact reads _ _

/-! The next token. -/

theorem step_visible {c : Char} (visible : IsVisible c) (comment : c ≠ '#')
    (fresh : refresh p candidate = .ok candidate) (cs : List Char) :
    (here blocks may candidate p (c :: cs)).step =
      ((here (closeBlocks p.column blocks).2 may candidate p (c :: cs)).token c cs).map
        fun (marks, s) => ((closeBlocks p.column blocks).1 ++ marks, some s) := by
  have skip := skipSpace_visible visible comment may p cs
  have advanced : (here blocks may candidate p (c :: cs)).advance =
      .ok (here blocks may candidate p (c :: cs)) := by
    rw [advance_here, skip, fresh]
    rfl
  have closed : (here blocks may candidate p (c :: cs)).dedent =
      ((closeBlocks p.column blocks).1,
        here (closeBlocks p.column blocks).2 may candidate p (c :: cs)) := by
    have flow : (here blocks may candidate p (c :: cs)).inFlow = false := rfl
    rw [dedent, flow]
    rfl
  unfold Lexer.step
  rw [advanced]
  show (match (here blocks may candidate p (c :: cs)).dedent with
    | (ends, s) => do
      let (marks, s) ← s.token c cs
      return (ends ++ marks, some s)) = _
  rw [closed]
  dsimp only
  cases (here (closeBlocks p.column blocks).2 may candidate p (c :: cs)).token c cs <;> rfl

/-- A token at a column of the innermost block, or further right. -/
theorem step_here {c : Char} (visible : IsVisible c) (comment : c ≠ '#')
    (inside : ∀ n ∈ blocks.head?, n ≤ p.column) (fresh : refresh p candidate = .ok candidate)
    (cs : List Char) :
    (here blocks may candidate p (c :: cs)).step =
      ((here blocks may candidate p (c :: cs)).token c cs).map
        fun (marks, s) => (marks, some s) := by
  have closed : closeBlocks p.column blocks = ([], blocks) := by
    cases blocks with
    | nil => rfl
    | cons n rest => rw [closeBlocks, if_neg (Nat.not_lt.mpr (inside n rfl))]
  rw [step_visible visible comment fresh, closed]
  rfl

theorem step_end :
    (here blocks may none p []).step = .ok (blocks.map fun _ => .token .blockEnd, none) := rfl

/-- A block ends before what stands further left. -/
theorem reads_dedent {n : Nat} {l : Line} (starts : l.Starts) (left : l.text ≠ [] → l.column < n)
    (reads : l.Reads blocks ts) : l.Reads (n :: blocks) (.blockEnd :: ts) := by
  intro i line fuel enough
  obtain ⟨keys, settled, above⟩ := reads i line fuel enough
  refine ⟨keys, ?_, above⟩
  obtain ⟨m, rfl⟩ : ∃ m, fuel = m + 1 := ⟨fuel - 1, by omega⟩
  -- The reader takes the same step, with the end of one more block before it.
  have step : (here (n :: blocks) true none ⟨i, line, l.column⟩ l.text).step =
      (here blocks true none ⟨i, line, l.column⟩ l.text).step.map fun (marks, s) =>
        (.token .blockEnd :: marks, s) := by
    rcases starts with nothing | ⟨c, rest, text, visible, comment⟩
    · rw [nothing, step_end, step_end]
      rfl
    · have closed : closeBlocks l.column (n :: blocks) =
          (.token .blockEnd :: (closeBlocks l.column blocks).1,
            (closeBlocks l.column blocks).2) := by
        rw [closeBlocks, if_pos (left (by simp [text]))]
      rw [text, step_visible visible comment rfl, step_visible visible comment rfl, closed]
      dsimp only
      cases (here (closeBlocks l.column blocks).2 true none ⟨i, line, l.column⟩ (c :: rest)).token c
        rest <;> rfl
  simp only [marksFrom, step] at settled ⊢
  cases taken : (here blocks true none ⟨i, line, l.column⟩ l.text).step with
  | ok result =>
    rw [taken] at settled
    obtain ⟨marks, _ | after⟩ := result
    · show settleFrom (.token .blockEnd :: marks) = _
      rw [settleFrom, settled]
    · show settleFrom (.token .blockEnd :: (marks ++ marksFrom m after)) = _
      rw [settleFrom, settled]
  | error fault =>
    rw [taken] at settled
    cases settled

/-! Words. -/

/-- The word that starts here, as far as it may be a key. -/
def candidateAt (blocks : List Nat) (may : Bool) (p : Place) : Option Candidate :=
  if may then some ⟨p, blocks.head? = some p.column⟩ else none

def noteAt (may : Bool) (p : Place) : List Mark :=
  if may then [.mayBeKey p.index] else []

theorem noteCandidate_here (cs : List Char) : (here blocks may none p cs).noteCandidate =
    .ok (noteAt may p, here blocks may (candidateAt blocks may p) p cs) := by
  cases may <;> rfl

theorem token_single (cs : List Char) : (here blocks may candidate p ('\'' :: cs)).token '\'' cs =
    (here blocks may candidate p ('\'' :: cs)).quotedToken Quoted.single := by
  simp [token]

theorem token_double (cs : List Char) : (here blocks may candidate p ('"' :: cs)).token '"' cs =
    (here blocks may candidate p ('"' :: cs)).quotedToken Quoted.double := by
  simp [token]

theorem startsPlain_of_plain {c : Char} {rest : List Char} (plain : ScalarText.IsPlain c rest)
    {cs : List Char} (word : c = '?' ∨ c = ':' ∨ c = '-' → endsWord cs = false) :
    startsPlain false c cs = true := by
  by_cases sign : c = '?' ∨ c = ':' ∨ c = '-'
  · have goes := word sign
    rcases sign with rfl | rfl | rfl <;> simp [startsPlain, goes]
  · have split_ : indicators.all fun d =>
      ScalarText.reserved.contains d || d = '?' || d = ':' || d = '-' := by
      decide +kernel
    have other : indicators.contains c = false := by
      rw [← Bool.not_eq_true, List.contains_iff_mem]
      intro inside
      have kinds := List.all_eq_true.mp split_ c inside
      simp only [Bool.or_eq_true, decide_eq_true_eq, List.contains_iff_mem] at kinds
      rcases kinds with ((reserved | same) | same) | same
      · exact plain.free reserved
      · exact sign (.inl same)
      · exact sign (.inr (.inl same))
      · exact sign (.inr (.inr same))
    have visible := visible_of_ascii (AsciiText.cons_iff.mp plain.ascii).1 plain.first
      fun same => plain.oneLine (same ▸ List.mem_cons_self)
    rw [startsPlain, visible.isSpace, other]
    rfl

theorem token_plain {c : Char} {rest : List Char} (plain : ScalarText.IsPlain c rest)
    {cs : List Char} (word : c = '?' ∨ c = ':' ∨ c = '-' → endsWord cs = false)
    (bound : startsBoundary (c :: cs) = false) :
    (here blocks may candidate p (c :: cs)).token c cs =
      (here blocks may candidate p (c :: cs)).plainToken := by
  have reserved : ScalarText.reserved = ['#', ',', '[', ']', '{', '}', '&', '*', '!', '|', '>',
      '\'', '"', '%', '@', '\x60'] := by
    decide +kernel
  have free := plain.free
  simp only [reserved, List.mem_cons, List.not_mem_nil, or_false, not_or] at free
  have flow : (here blocks may candidate p (c :: cs)).inFlow = false := rfl
  have item : (decide (c = '-') && endsWord cs) = false := by
    rw [Bool.and_eq_false_imp]
    exact fun same => word (.inr (.inr (of_decide_eq_true same)))
  have key : (decide (c = '?') && (false || endsWord cs)) = false := by
    rw [Bool.false_or, Bool.and_eq_false_imp]
    exact fun same => word (.inl (of_decide_eq_true same))
  have value : (decide (c = ':') && (false || endsWord cs)) = false := by
    rw [Bool.false_or, Bool.and_eq_false_imp]
    exact fun same => word (.inr (.inl (of_decide_eq_true same)))
  have starts := startsPlain_of_plain plain word
  unfold token
  simp only [flow, bound, item, key, value, free, starts, Bool.and_false, decide_false,
    Bool.false_and, Bool.false_eq_true, if_false, if_true]

/-- What stands behind a word: nothing has been passed, but plain reading goes on to the next
word. -/
def afterWord (plain : Bool) (least : Nat) (p : Place) (tail : List Char) : Plain.Reading :=
  if plain then Plain.read false least .empty p tail else ⟨[], false, ⟨p, tail⟩⟩

/-- What follows a word: the colon of a key, or the end of a line. -/
def EndsWith (tail : List Char) : Prop :=
  tail.head? = some ':' ∨ tail.head? = some '\n'

theorem folds_sign {indent : Nat} {before : Option Char} {cs text tail more : List Char} {d : Char}
    (sign : d = '-' ∨ d = '.') (ends : EndsWith tail)
    (folds : ScalarText.Folds indent (fun c => [c]) before cs text)
    (written : text ++ tail = d :: more) :
    ∃ rest text', cs = d :: rest ∧ ScalarText.Folds indent (fun c => [c]) (some d) rest text' ∧
      text' ++ tail = more := by
  have other : d ≠ ':' ∧ d ≠ '\n' ∧ d ≠ ' ' := by rcases sign with rfl | rfl <;> decide
  cases folds with
  | nil =>
    rw [List.nil_append] at written
    rcases ends with colon | feed
    · rw [written] at colon
      exact absurd (Option.some.inj colon) other.1
    · rw [written] at feed
      exact absurd (Option.some.inj feed) other.2.1
  | word visible more => cases written; exact ⟨_, _, rfl, more, rfl⟩
  | blank more => exact absurd (List.cons.inj written).1.symm other.2.2
  | fold word next more => exact absurd (List.cons.inj written).1.symm other.2.1
  | lineFeed more =>
    split at written
    · exact absurd (List.cons.inj written).1.symm other.2.1
    · exact absurd (List.cons.inj written).1.symm other.2.1

theorem startsBoundary_plain {c : Char} {rest : List Char} (plain : ScalarText.IsPlain c rest)
    {indent : Nat} {text tail : List Char}
    (folds : ScalarText.Folds indent (fun c => [c]) (some c) rest text) (ends : EndsWith tail) :
    startsBoundary (c :: (text ++ tail)) = false := by
  rw [← Bool.not_eq_true]
  intro bound
  unfold startsBoundary at bound
  split at bound
  · rename_i a b d more written
    simp only [Bool.and_eq_true, Bool.or_eq_true, decide_eq_true_eq] at bound
    obtain ⟨⟨⟨sign, rfl⟩, rfl⟩, -⟩ := bound
    rw [List.cons.injEq] at written
    obtain ⟨rfl, written⟩ := written
    obtain ⟨rest, text, rfl, folds, written⟩ := folds_sign sign ends folds written
    obtain ⟨rest, text, rfl, -, -⟩ := folds_sign sign ends folds written
    rcases sign with rfl | rfl
    · exact plain.start rfl
    · exact plain.stop rfl
  · cases bound

/-- The least column of a line that goes on with a plain text. -/
def leastIn : List Nat → Nat
  | [] => 0
  | n :: _ => n + 1

theorem plainToken_here (cs : List Char) : (here blocks may none p cs).plainToken =
    let r := Plain.read false (leastIn blocks) .empty p cs
    .ok (noteAt may p ++ [.token (.scalar true (String.ofList r.value))],
      here blocks r.crossed (candidateAt blocks may p) r.rest.place r.rest.rest) := by
  rw [plainToken, noteCandidate_here]
  cases blocks <;> rfl

theorem quotedToken_here (read : Gap → Place → List Char → Quoted.Reading) (quote : Char)
    (cs : List Char) :
    (here blocks may none p (quote :: cs)).quotedToken read =
      (read .empty (p.next quote) cs).map fun (value, rest) =>
        (noteAt may p ++ [.token (.scalar false (String.ofList value))],
          here blocks false (candidateAt blocks may p) rest.place rest.rest) := by
  rw [quotedToken, wordToken, noteCandidate_here]
  have skipped : (here blocks may (candidateAt blocks may p) p (quote :: cs)).cursor.skip 1 =
      ⟨p.next quote, cs⟩ := rfl
  dsimp only [bind, Except.bind]
  rw [skipped]
  cases read .empty (p.next quote) cs <;> rfl

/-- How the reader reads a written word. -/
theorem step_word {t : Tag} {cs : List Char} {st : Style} (styled : ScalarText.Styled t cs st)
    (room : Room) (indented : 0 < room.indent)
    (kept : st = .double → room.foldable = true → ScalarText.isKept room.indent cs = true)
    (may : Bool) (tail : List Char) (ends : EndsWith tail) (enough : leastIn blocks ≤ room.indent)
    (inside : ∀ n ∈ blocks.head?, n ≤ p.column) :
    (here blocks may none p (ScalarText.write room st cs ++ tail)).step =
      let after :=
        afterWord (st = .plain) (leastIn blocks) (p.past (ScalarText.write room st cs)) tail
      .ok (noteAt may p ++ [.token (.scalar (st = .plain) (String.ofList (cs ++ after.value)))],
        some (here blocks after.crossed (candidateAt blocks may p) after.rest.place
          after.rest.rest)) := by
  have other : tail.head? ≠ some '\'' := by
    rcases ends with colon | feed
    · simp [colon]
    · simp [feed]
  cases styled with
  | plain form can =>
    obtain ⟨c, rest, rfl⟩ : ∃ c rest, cs = c :: rest := by
      cases cs with
      | nil => cases can
      | cons c rest => exact ⟨c, rest, rfl⟩
    have plain := ScalarText.canBePlain_iff.mp can
    have folds := ScalarText.folds_folded room (fun c => [c]) rfl room.column none plain.ascii
    have read := Plain.read_folded indented enough tail folds p plain.ascii
      (by simpa using plain.oneLine) plain.clear plain.last (.word (by simp) (by simp))
      (by simp [Gap.empty, Gap.isBroken])
    have written : ScalarText.write room .plain (c :: rest) =
        ScalarText.folded room (fun c => [c]) room.column none (c :: rest) := rfl
    rw [written]
    generalize ScalarText.folded room (fun c => [c]) room.column none
      (c :: rest) = text at folds read
    cases folds with
    | @word _ _ _ text visible more =>
      have comment : c ≠ '#' := by
        rintro rfl
        exact plain.free (by decide +kernel)
      have word : c = '?' ∨ c = ':' ∨ c = '-' → endsWord (text ++ tail) = false :=
        fun sign => ScalarText.folds_endsWord more (plain.word sign) tail
      show (here blocks may none p (c :: (text ++ tail))).step = _
      rw [step_here visible comment inside rfl,
        token_plain plain word (startsBoundary_plain plain more ends), plainToken_here]
      rw [List.append_assoc, List.singleton_append] at read
      rw [read]
      rfl
    | blank => exact absurd rfl plain.first
    | lineFeed => exact absurd List.mem_cons_self plain.oneLine
  | single string can =>
    have can' := Bool.and_eq_true_iff.mp can
    have ascii := ScalarText.isClean_iff.mp can'.1
    have folds := ScalarText.folds_folded room ScalarText.twice rfl (room.column + 1) none ascii
    have apart : ScalarText.blankAtBreak (none.toList ++ cs) = false := by simpa using can'.2
    have read := Quoted.single_folded indented other folds (p.next '\'') ascii apart
      (.word (by simp) (by simp))
    have written : ScalarText.write room .single cs ++ tail =
        '\'' :: (ScalarText.folded room ScalarText.twice (room.column + 1) none cs ++
          '\'' :: tail) := by
      simp [ScalarText.write]
    rw [written, step_here ⟨by decide, by decide, by decide⟩ (by decide) inside rfl, token_single,
      quotedToken_here, read]
    simp [afterWord, Except.map, ScalarText.write]
  | double string =>
    have escapes :=
      ScalarText.escapes_escaped room cs (room.column + 1) true false fun foldable => by
        simpa [ScalarText.isKept] using kept rfl foldable
    have read := Quoted.double_escapes indented tail escapes .empty (p.next '"') (.inl ⟨[], rfl⟩)
    have written : ScalarText.write room .double cs ++ tail =
        '"' :: (ScalarText.escaped room (room.column + 1) true false cs ++ '"' :: tail) := by
      simp [ScalarText.write]
    rw [written, step_here ⟨by decide, by decide, by decide⟩ (by decide) inside rfl, token_double,
      quotedToken_here, read]
    simp [afterWord, Except.map, ScalarText.write]

/-- A word that is no key is forgotten on later lines. -/
theorem advance_stale (cs : List Char)
    (stale : ∀ k ∈ candidate, k.place.line < p.line ∧ k.required = false) :
    (here blocks may candidate p cs).advance = (here blocks may none p cs).advance := by
  have below := skipSpace_line may false p cs
  rw [advance_here, advance_here]
  cases candidate with
  | none => rfl
  | some k =>
    obtain ⟨line, free⟩ := stale k rfl
    have apart : k.place.line ≠ (skipSpace false may false p cs).2.place.line := by omega
    have none : refresh (skipSpace false may false p cs).2.place (some k) = .ok none := by
      simp [refresh, Candidate.isStale, apart, free]
    rw [none]
    rfl

end Lexer

/-- A line that goes on with none of the words before it: it stands further left than they may, or
ends the document. -/
structure Line.Follows (blocks : List Nat) (l : Line) : Prop where
  starts : l.Starts
  left : l.text ≠ [] → l.column < Lexer.leastIn blocks ∨ l.column = 0 ∧ startsBoundary l.text = true

namespace Plain

theorem read_stop {least : Nat} {p : Place} {c : Char} (visible : IsVisible c)
    (left : p.column < least) (b : Char) (cs : List Char) :
    read false least (Gap.empty.addBreak b) p (c :: cs) = ⟨[], true, ⟨p, c :: cs⟩⟩ := by
  rw [read, if_neg visible.not_blank, visible.isBreak, if_neg (by decide), if_pos]
  · rfl
  · simp [Gap.empty, Gap.addBreak, Gap.isBroken, left]

/-- A plain text ends with its line. -/
theorem read_follows {blocks : List Nat} {l : Line} (follows : l.Follows blocks) (p : Place) :
    read false (Lexer.leastIn blocks) .empty p ('\n' :: l.chars) =
      ⟨[], true, ⟨⟨p.index + 1 + l.column, p.line + 1, l.column⟩, l.text⟩⟩ := by
  have place : (p.next '\n').past (List.replicate l.column ' ') = ⟨p.index + 1 + l.column,
      p.line + 1, l.column⟩ := by
    rw [past_blanks, Place.next_lineFeed, Nat.zero_add]
  by_cases bound : startsBoundary l.chars = true
  · have first : l.column = 0 := by
      by_contra some
      rw [Line.chars, startsBoundary_blanks (Nat.pos_of_ne_zero some)] at bound
      cases bound
    have chars : l.chars = l.text := by rw [Line.chars, first]; rfl
    rw [chars] at bound ⊢
    rw [first]
    simp [read, isBreak, bound, Place.next_lineFeed]
  · rw [read_lineFeed _ _ _ _ (by simpa using bound), Line.chars, read_blanks, place]
    rcases follows.starts with nothing | ⟨c, rest, text, visible, comment⟩
    · rw [nothing]
      rfl
    · have left : l.column < Lexer.leastIn blocks := by
        refine (follows.left (by simp [text])).resolve_right fun start => bound ?_
        rw [Line.chars, start.1]
        exact start.2
      rw [text]
      exact read_stop visible left _ _

end Plain

namespace Lexer

variable {blocks : List Nat} {may : Bool} {p : Place} {ts : List Token}

theorem afterWord_lineFeed (plain : Bool) {l : Line} (follows : l.Follows blocks) (p : Place) :
    afterWord plain (leastIn blocks) p ('\n' :: l.chars) =
      if plain then ⟨[], true, ⟨⟨p.index + 1 + l.column, p.line + 1, l.column⟩, l.text⟩⟩
      else ⟨[], false, ⟨p, '\n' :: l.chars⟩⟩ := by
  rw [afterWord, Plain.read_follows follows]

theorem afterWord_colon (plain : Bool) (least : Nat) (p : Place) {cs : List Char}
    (ends : endsWord cs = true) :
    afterWord plain least p (':' :: cs) = ⟨[], false, ⟨p, ':' :: cs⟩⟩ := by
  cases plain with
  | false => rfl
  | true =>
    have stops : Plain.stops false ':' cs = true := by simp [Plain.stops, ends]
    simp [afterWord, Plain.read, isBreak, stops, Gap.empty, Gap.isBroken]

theorem reads_noted {cs : List Char} {t : Token} {next : Lexer}
    (step : (here blocks may none p cs).step = .ok (noteAt may p ++ [.token t], some next))
    (shorter : next.cursor.rest.length < cs.length) (later : p.index < next.cursor.place.index)
    (reads : next.Reads ts) :
    (here blocks may none p cs).Reads (t :: ts) := by
  cases may with
  | false => exact Reads.step [t] step shorter (Nat.le_of_lt later) reads
  | true => exact Reads.word [t] step shorter later reads

/-- Where a value stands, nothing but a key need not stand. -/
theorem candidateAt_free (may : Bool) (inside : ∀ n ∈ blocks.head?, n < p.column) :
    ∀ k ∈ candidateAt blocks may p, k.place = p ∧ k.required = false := by
  intro k candidate
  cases may with
  | false => cases candidate
  | true =>
    cases candidate
    exact ⟨rfl, decide_eq_false fun first => absurd (inside _ first) (Nat.lt_irrefl _)⟩

/-- A word that is a value, up to the end of its line. -/
theorem reads_scalar {t : Tag} {cs : List Char} {st : Style} (styled : ScalarText.Styled t cs st)
    (room : Room) (indented : 0 < room.indent)
    (kept : st = .double → room.foldable = true → ScalarText.isKept room.indent cs = true)
    (enough : leastIn blocks ≤ room.indent) (inside : ∀ n ∈ blocks.head?, n < p.column) {l : Line}
    (follows : l.Follows blocks) (reads : l.Reads blocks ts) :
    (here blocks may none p (ScalarText.write room st cs ++ '\n' :: l.chars)).Reads
      (.scalar (st = .plain) (String.ofList cs) :: ts) := by
  have step := step_word styled room indented kept may ('\n' :: l.chars) (.inr rfl) enough
    fun n first => Nat.le_of_lt (inside n first)
  have stale := candidateAt_free may inside
  have index := Place.past_index p (ScalarText.write room st cs)
  have line := Place.past_line p (ScalarText.write room st cs)
  have some : 0 < (ScalarText.write room st cs).length := by
    obtain ⟨c, rest, text, -⟩ := ScalarText.write_starts styled room
    simp [text]
  rw [afterWord_lineFeed _ follows] at step
  generalize ScalarText.write room st cs = w at *
  generalize decide (st = .plain) = plain at step ⊢
  cases plain with
  | true =>
    simp only [if_true, List.append_nil] at step
    refine reads_noted step ?_ ?_ (.of_advance (advance_stale _ fun k candidate => ?_)
      (Nat.le_refl _) (Nat.le_refl _) (reads _ _))
    · simp [here, Line.chars]
      omega
    · show p.index < (p.past w).index + 1 + l.column
      omega
    · obtain ⟨place, free⟩ := stale k candidate
      rw [place]
      exact ⟨Nat.lt_succ_of_le line, free⟩
  | false =>
    simp only [Bool.false_eq_true, if_false, List.append_nil] at step
    refine reads_noted step ?_ ?_ (reads_line (fun k candidate => ?_) reads)
    · simp [here]
      omega
    · show p.index < (p.past w).index
      omega
    · obtain ⟨place, free⟩ := stale k candidate
      rw [place]
      exact ⟨line, free⟩

/-- The open blocks once one may have opened at a column. -/
def opened (blocks : List Nat) (column : Nat) : List Nat :=
  if leastIn blocks ≤ column then column :: blocks else blocks

section Opening

variable (candidate : Option Candidate) (cs : List Char) (column : Nat)

theorem opensAt_here :
    (here blocks may candidate p cs).opensAt column = decide (leastIn blocks ≤ column) := by
  cases blocks <;> rfl

theorem openAt_here :
    (here blocks may candidate p cs).openAt column =
      here (opened blocks column) may candidate p cs := by
  rw [openAt, opensAt_here, opened]
  by_cases opens : leastIn blocks ≤ column <;> simp [opens, here]

end Opening

theorem token_colon {candidate : Option Candidate} {cs : List Char} (ends : endsWord cs = true) :
    (here blocks may candidate p (':' :: cs)).token ':' cs =
      (here blocks may candidate p (':' :: cs)).valueToken := by
  simp [token, ends]

theorem valueToken_key (k : Candidate) (cs : List Char) :
    (here blocks may (some k) p (':' :: cs)).valueToken =
      .ok ([.isKey k.place.index (leastIn blocks ≤ k.place.column), .token .value],
        here (opened blocks k.place.column) false none (p.next ':') cs) := by
  show Except.ok
    ([Mark.isKey k.place.index ((here blocks may (some k) p (':' :: cs)).opensAt k.place.column),
      .token .value],
     { (here blocks may (some k) p (':' :: cs)).openAt k.place.column with
       mayStartKey := false, candidate := none }.skip 1) = _
  rw [opensAt_here, openAt_here]
  rfl

/-- A word on one line with a colon after it is a key. It opens a block, unless it stands in the
innermost one. -/
theorem reads_key {t : Tag} {cs : List Char} {st : Style} (styled : ScalarText.Styled t cs st)
    (oneLine : '\n' ∉ cs) {column indent : Nat} (indented : 0 < indent)
    (short : (ScalarText.write ⟨column, indent, false⟩ st cs).length ≤ keyLimit)
    (enough : leastIn blocks ≤ indent) (inside : ∀ n ∈ blocks.head?, n ≤ p.column)
    {after : List Char} (ends : endsWord after = true)
    (reads : (here (opened blocks p.column) false none
      ⟨p.index + (ScalarText.write ⟨column, indent, false⟩ st cs).length + 1, p.line,
        p.column + (ScalarText.write ⟨column, indent, false⟩ st cs).length + 1⟩ after).Reads ts) :
    (here blocks true none p (ScalarText.write ⟨column, indent, false⟩ st cs ++ ':' :: after)).Reads
      ((if leastIn blocks ≤ p.column then [.blockMapping] else []) ++
        .key :: .scalar (st = .plain) (String.ofList cs) :: .value :: ts) := by
  have step := step_word styled ⟨column, indent, false⟩ indented (by simp) true (':' :: after)
    (.inl rfl) enough inside
  have place := past_oneLine (ScalarText.write_ascii styled ⟨column, indent, false⟩)
    (ScalarText.lineFeed_write styled oneLine column indent) p
  have some : 0 < (ScalarText.write ⟨column, indent, false⟩ st cs).length := by
    obtain ⟨c, rest, text, -⟩ := ScalarText.write_starts styled ⟨column, indent, false⟩
    simp [text]
  rw [afterWord_colon _ _ _ ends, place] at step
  generalize ScalarText.write ⟨column, indent, false⟩ st cs = w at *
  simp only [List.append_nil] at step
  have fresh : refresh ⟨p.index + w.length, p.line, p.column + w.length⟩
      (candidateAt blocks true p) =
      .ok (candidateAt blocks true p) := by
    have recent : ¬ keyLimit < w.length := by omega
    simp [candidateAt, refresh, Candidate.isStale, recent]
  have colon := @step_here blocks false _ _ ':' ⟨by decide, by decide, by decide⟩ (by decide)
    (fun n first => Nat.le_trans (inside n first) (Nat.le_add_right p.column w.length)) fresh after
  rw [token_colon ends] at colon
  rw [candidateAt, if_pos rfl, valueToken_key] at colon
  have read := Reads.key step colon (by simp [here]; omega) (by simp [here]) reads
  simpa using read

/-! Signs. -/

/-- A sign of its own: the token for a block that it opens, and its own token. -/
inductive Sign : Char → Token → Token → Prop
  | item : Sign '-' .blockSequence .item
  | key : Sign '?' .blockMapping .key
  | value : Sign ':' .blockMapping .value

theorem startsBoundary_item {cs : List Char} (ends : endsWord cs = true) :
    startsBoundary ('-' :: cs) = false := by
  cases cs with
  | nil => rfl
  | cons c rest =>
    have other : '-' ≠ c := by
      rintro rfl
      cases ends
    cases rest <;> simp [startsBoundary, other]

section Sign

variable (cs : List Char)

theorem itemToken_here : (here blocks true none p ('-' :: cs)).itemToken =
    .ok ((if leastIn blocks ≤ p.column then [.token .blockSequence] else []) ++ [.token .item],
      here (opened blocks p.column) true none (p.next '-') cs) := by
  have column : (here blocks true none p ('-' :: cs)).column = p.column := rfl
  unfold itemToken
  rw [column, opensAt_here, openAt_here]
  by_cases opens : leastIn blocks ≤ p.column <;> simp only [opens] <;> rfl

theorem keyToken_here : (here blocks true none p ('?' :: cs)).keyToken =
    .ok ((if leastIn blocks ≤ p.column then [.token .blockMapping] else []) ++ [.token .key],
      here (opened blocks p.column) true none (p.next '?') cs) := by
  have column : (here blocks true none p ('?' :: cs)).column = p.column := rfl
  unfold keyToken
  rw [column, opensAt_here, openAt_here]
  by_cases opens : leastIn blocks ≤ p.column <;> simp only [opens] <;> rfl

theorem valueToken_here : (here blocks true none p (':' :: cs)).valueToken =
    .ok ((if leastIn blocks ≤ p.column then [.token .blockMapping] else []) ++ [.token .value],
      here (opened blocks p.column) true none (p.next ':') cs) := by
  have column : (here blocks true none p (':' :: cs)).column = p.column := rfl
  have none : (here blocks true none p (':' :: cs)).candidate = none := rfl
  unfold valueToken
  rw [none, column, opensAt_here, openAt_here]
  by_cases opens : leastIn blocks ≤ p.column <;> simp only [opens] <;> rfl

end Sign

theorem token_sign {c : Char} {block sign : Token} (isSign : Sign c block sign) {cs : List Char}
    (ends : endsWord cs = true) : (here blocks true none p (c :: cs)).token c cs =
      .ok ((if leastIn blocks ≤ p.column then [.token block] else []) ++ [.token sign],
        here (opened blocks p.column) true none (p.next c) cs) := by
  cases isSign with
  | item =>
    rw [← itemToken_here]
    simp [token, ends, startsBoundary_item ends]
  | key =>
    rw [← keyToken_here]
    simp [token, ends]
  | value => rw [token_colon ends, valueToken_here]

/-- A sign opens a block, unless it stands in the innermost one. -/
theorem reads_sign {c : Char} {block sign : Token} (isSign : Sign c block sign) {cs : List Char}
    (ends : endsWord cs = true) (inside : ∀ n ∈ blocks.head?, n ≤ p.column)
    (reads : (here (opened blocks p.column) true none
      ⟨p.index + 1, p.line, p.column + 1⟩ cs).Reads ts) :
    (here blocks true none p (c :: cs)).Reads
      ((if leastIn blocks ≤ p.column then [block] else []) ++ sign :: ts) := by
  have visible : IsVisible c ∧ c ≠ '#' := by
    cases isSign <;> exact ⟨⟨by decide, by decide, by decide⟩, by decide⟩
  have step := @step_here _ true none _ _ visible.1 visible.2 inside rfl cs
  rw [token_sign isSign ends, visible.1.next] at step
  have read := Reads.step ((if leastIn blocks ≤ p.column then [block] else []) ++ [sign])
    (step.trans ?_) (by simp [here]) (by simp [here]) reads
  · simpa using read
  · by_cases opens : leastIn blocks ≤ p.column <;> simp [opens, Except.map]

/-! Empty collections, the only ones between brackets. -/

inductive Brackets : Char → Char → Token → Token → Prop
  | sequence : Brackets '[' ']' .flowSequence .flowSequenceEnd
  | mapping : Brackets '{' '}' .flowMapping .flowMappingEnd

section Brackets

variable {a b : Char} {opening closing : Token} (brackets : Brackets a b opening closing)
include brackets

theorem token_opening (cs : List Char) : (here blocks may none p (a :: cs)).token a cs =
    .ok (noteAt may p ++ [.token opening],
      ⟨⟨p.next a, cs⟩, blocks, true, none, [candidateAt blocks may p]⟩) := by
  have token : (here blocks may none p (a :: cs)).token a cs =
      (here blocks may none p (a :: cs)).flowStart opening := by
    cases brackets <;> simp [token]
  rw [token, flowStart, noteCandidate_here]
  rfl

theorem step_closing (blocks : List Nat) {k : Option Candidate} (fresh : refresh p k = .ok k)
    (cs : List Char) :
    (⟨⟨p, b :: cs⟩, blocks, true, none, [k]⟩ : Lexer).step =
      .ok ([.token closing], some (here blocks false k (p.next b) cs)) := by
  have advanced : (⟨⟨p, b :: cs⟩, blocks, true, none, [k]⟩ : Lexer).advance =
      .ok ⟨⟨p, b :: cs⟩, blocks, true, none, [k]⟩ := by
    have stays : skipSpace true true false p (b :: cs) = (true, ⟨p, b :: cs⟩) := by
      cases brackets <;> simp [skipSpace, isBreak]
    have flow : (⟨⟨p, b :: cs⟩, blocks, true, none, [k]⟩ : Lexer).inFlow = true := rfl
    have outer : [k].mapM (refresh p) = .ok [k] := by
      rw [List.mapM_cons, fresh]
      rfl
    unfold advance
    rw [flow]
    dsimp only
    rw [stays]
    dsimp only
    rw [outer]
    rfl
  have token : (⟨⟨p, b :: cs⟩, blocks, true, none, [k]⟩ : Lexer).token b cs =
      .ok ([.token closing], here blocks false k (p.next b) cs) := by
    cases brackets <;> simp [token] <;> rfl
  unfold Lexer.step
  rw [advanced]
  show (do
    let (marks, s) ← (⟨⟨p, b :: cs⟩, blocks, true, none, [k]⟩ : Lexer).token b cs
    return (marks, some s)) = _
  rw [token]
  rfl

theorem reads_brackets (inside : ∀ n ∈ blocks.head?, n < p.column) {l : Line}
    (reads : l.Reads blocks ts) :
    (here blocks may none p (a :: b :: '\n' :: l.chars)).Reads (opening :: closing :: ts) := by
  have visible : (IsVisible a ∧ a ≠ '#') ∧ IsVisible b := by
    cases brackets <;> exact ⟨⟨⟨by decide, by decide, by decide⟩, by decide⟩, by decide,
      by decide, by decide⟩
  have stale := candidateAt_free may inside
  have step := @step_here _ may none _ _ visible.1.1 visible.1.2
    (fun n first => Nat.le_of_lt (inside n first)) rfl (b :: '\n' :: l.chars)
  rw [token_opening brackets] at step
  have fresh : refresh (p.next a) (candidateAt blocks may p) = .ok (candidateAt blocks may p) := by
    rw [visible.1.1.next]
    cases may with
    | false => rfl
    | true =>
      have recent : ¬ keyLimit < 1 := by decide
      simp [candidateAt, refresh, Candidate.isStale, recent]
  have close := step_closing brackets blocks fresh ('\n' :: l.chars)
  refine reads_noted step (by simp) (by simp)
    (Reads.step [closing] close (by simp [here]) (by simp [here])
      (reads_line (fun k candidate => ?_) reads))
  obtain ⟨place, free⟩ := stale k candidate
  rw [place, visible.1.1.next, visible.2.next]
  exact ⟨Nat.le_refl _, free⟩

end Brackets

/-! The end of a document. -/

theorem reads_nothing : Line.Reads blocks ⟨0, []⟩ (blocks.map fun _ => .blockEnd) := by
  intro i n
  exact Reads.last (by rw [step_end, List.map_map]; rfl)

/-- Three points after a plain text that is a document. -/
theorem reads_documentEnd : Line.Reads [] ⟨0, "...\n".toList⟩ [.documentEnd] := by
  intro i n
  have text : "...\n".toList = ['.', '.', '.', '\n'] := by decide +kernel
  have step : (here [] true none ⟨i, n, 0⟩ ['.', '.', '.', '\n']).step =
      .ok ([.token .documentEnd], some (here [] false none ⟨i + 3, n, 3⟩ ['\n'])) := by
    rw [step_here ⟨by decide, by decide, by decide⟩ (by decide) (by simp) rfl]
    rfl
  show (here [] true none ⟨i, n, 0⟩ "...\n".toList).Reads _
  rw [text]
  exact Reads.step [.documentEnd] step (by simp [here]) (by simp [here])
    (@reads_line _ _ _ _ _ ⟨0, []⟩ (by simp) (@reads_nothing []))

end Lexer

end AgentWire.Yaml
