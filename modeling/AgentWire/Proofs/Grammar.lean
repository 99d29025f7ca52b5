import AgentWire.Proofs.Spelling

/-! The grammar of JSON, as rules on what a text starts with and what is left of it, and that the
readers of numbers and strings follow these rules. -/
namespace AgentWire.Json

/-! Numbers. -/

def Digits (ds : List Char) : Prop :=
  ds ≠ [] ∧ ∀ c ∈ ds, c.isDigit = true

/-- The digits after a point, or none. -/
inductive Fraction : List Char → List Char → List Char → Prop
  | none (rest : List Char) : Fraction rest [] rest
  | point {ds : List Char} (digits : Digits ds) (rest : List Char) :
      Fraction ('.' :: (ds ++ rest)) ds rest

/-- The exponent that a text starts with, or none. -/
inductive Power : List Char → Option Int → List Char → Prop
  | none (rest : List Char) : Power rest none rest
  | plain {e : Char} {ds : List Char} (letter : e = 'e' ∨ e = 'E') (digits : Digits ds)
      (rest : List Char) :
      Power (e :: (ds ++ rest)) (some (Nat.ofDigitChars 10 ds 0)) rest
  | plus {e : Char} {ds : List Char} (letter : e = 'e' ∨ e = 'E') (digits : Digits ds)
      (rest : List Char) :
      Power (e :: '+' :: (ds ++ rest)) (some (Nat.ofDigitChars 10 ds 0)) rest
  | minus {e : Char} {ds : List Char} (letter : e = 'e' ∨ e = 'E') (digits : Digits ds)
      (rest : List Char) :
      Power (e :: '-' :: (ds ++ rest)) (some (-(Nat.ofDigitChars 10 ds 0 : Int))) rest

/-- A number: digits without a zero in front make an integer, unless a fraction or an exponent makes
them a double. -/
inductive IsNumber : List Char → Json → List Char → Prop
  | integer (negative : Bool) {ds : List Char} (whole : Whole ds) (rest : List Char) :
      IsNumber (minus negative ++ (ds ++ rest))
        (.int (if negative then -(Nat.ofDigitChars 10 ds 0 : Int) else Nat.ofDigitChars 10 ds 0))
        rest
  | double (negative : Bool) {ds cs part tail rest : List Char} {power : Option Int}
      (whole : Whole ds) (fraction : Fraction cs part tail) (scale : Power tail power rest)
      (some : part ≠ [] ∨ power ≠ none) :
      IsNumber (minus negative ++ (ds ++ cs))
        (.num (if negative then -Decimal.toFloat ⟨Nat.ofDigitChars 10 (ds ++ part) 0,
          power.getD 0 - part.length⟩
          else Decimal.toFloat ⟨Nat.ofDigitChars 10 (ds ++ part) 0, power.getD 0 - part.length⟩))
        rest

theorem fraction_of_read (cs : List Char) :
    Fraction cs ((fraction? cs).getD ([], cs)).1 ((fraction? cs).getD ([], cs)).2 := by
  cases read : fraction? cs with
  | none => exact .none cs
  | some both =>
    obtain ⟨some, all, rfl⟩ := fraction_eq_some read
    exact .point ⟨some, all⟩ _

theorem power_of_read {cs rest : List Char} {n : Int} (read : exponent? cs = some (n, rest)) :
    Power cs (some n) rest := by
  obtain ⟨c, ds, letter, some, all, ⟨rfl, rfl⟩ | ⟨rfl, rfl⟩ | ⟨rfl, rfl⟩⟩ := exponent_eq_some read
  · exact .minus letter ⟨some, all⟩ _
  · exact .plus letter ⟨some, all⟩ _
  · exact .plain letter ⟨some, all⟩ _

theorem isNumber_of_read {cs rest : List Char} {j : Json} (read : number? cs = some (j, rest)) :
    IsNumber cs j rest := by
  obtain ⟨negative, unsigned, whole, tail, rfl, found, ends⟩ := number_cases read
  obtain ⟨rfl, isWhole⟩ := whole_of_integerPart found
  have fraction := fraction_of_read tail
  generalize ((fraction? tail).getD ([], tail)).1 = part at ends fraction
  generalize ((fraction? tail).getD ([], tail)).2 = more at ends fraction
  cases ends with
  | integer empty =>
    subst empty
    cases fraction with
    | none => exact .integer negative isWhole _
    | point digits => exact absurd rfl digits.1
  | pointed digits =>
    have number := IsNumber.double negative isWhole fraction (.none _) (.inl digits)
    exact number
  | scaled scale =>
    have number :=
      IsNumber.double negative isWhole fraction (power_of_read scale) (.inr (Option.some_ne_none _))
    exact number

theorem Digits.append_eq {ds rest : List Char} (isDigits : Digits ds) (ends : NoDigit rest) :
    digits (ds ++ rest) = (ds, rest) :=
  digits_append isDigits.2 ends

theorem Power.read {cs rest : List Char} {power : Option Int} (scale : Power cs power rest)
    (ends : NumberEnds rest) :
    exponent? cs = power.map fun n => (n, rest) := by
  have follows := ends.noDigit
  cases scale with
  | none => exact ends.exponent_none
  | @plain e ds letter digits =>
    have read := digits.append_eq follows
    obtain ⟨c, more, rfl⟩ := List.exists_cons_of_ne_nil digits.1
    have digit := digits.2 c List.mem_cons_self
    have minus : c ≠ '-' := by
      rintro rfl
      contradiction
    have plus : c ≠ '+' := by
      rintro rfl
      contradiction
    rw [List.cons_append] at read ⊢
    rcases letter with rfl | rfl <;> simp [exponent?, read, minus, plus]
  | plus letter digits =>
    have read := digits.append_eq follows
    obtain ⟨c, more, rfl⟩ := List.exists_cons_of_ne_nil digits.1
    rw [List.cons_append] at read ⊢
    rcases letter with rfl | rfl <;> simp [exponent?, read]
  | minus letter digits =>
    have read := digits.append_eq follows
    obtain ⟨c, more, rfl⟩ := List.exists_cons_of_ne_nil digits.1
    rw [List.cons_append] at read ⊢
    rcases letter with rfl | rfl <;> simp [exponent?, read]

theorem Power.head {cs rest : List Char} {power : Option Int} (scale : Power cs power rest) :
    power = .none ∧ cs = rest ∨ ∃ e more, (e = 'e' ∨ e = 'E') ∧ cs = e :: more := by
  cases scale with
  | none => exact .inl ⟨rfl, rfl⟩
  | plain letter => exact .inr ⟨_, _, letter, rfl⟩
  | plus letter => exact .inr ⟨_, _, letter, rfl⟩
  | minus letter => exact .inr ⟨_, _, letter, rfl⟩

theorem Power.noDigit {cs rest : List Char} {power : Option Int} (scale : Power cs power rest)
    (ends : NumberEnds rest) :
    NoDigit cs := by
  rcases scale.head with ⟨-, rfl⟩ | ⟨e, more, letter, rfl⟩
  · exact ends.noDigit
  · exact noDigit_cons (by rcases letter with rfl | rfl <;> rfl)

theorem Fraction.read {cs part rest : List Char} (fraction : Fraction cs part rest)
    (ends : NoDigit rest) (point : ∀ more, rest ≠ '.' :: more) :
    (fraction? cs).getD ([], cs) = (part, rest) := by
  cases fraction with
  | none => rw [fraction_none point, Option.getD_none]
  | point digits => rw [fraction_append digits.1 digits.2 ends, Option.getD_some]

theorem Fraction.noDigit {cs part rest : List Char} (fraction : Fraction cs part rest)
    (ends : NoDigit rest) :
    NoDigit cs := by
  cases fraction with
  | none => exact ends
  | point => exact noDigit_cons rfl

/-- A number is read, if nothing follows that would go on with it. -/
theorem IsNumber.read {cs rest : List Char} {j : Json} (number : IsNumber cs j rest)
    (ends : NumberEnds rest) :
    number? cs = some (j, rest) := by
  cases number with
  | integer negative whole => exact number_integer negative whole ends
  | @double negative ds cs part tail _ power whole fraction scale some =>
    -- Each part ends where the next one begins, so the facts on what follows come from the back.
    have follows := scale.noDigit ends
    have point : ∀ more, tail ≠ '.' :: more := by
      intro more text
      rcases scale.head with ⟨-, rfl⟩ | ⟨e, _, letter, rfl⟩
      · exact (ends _ _ text).2.1 rfl
      · cases text
        rcases letter with same | same <;> cases same
    have counted : (part.isEmpty && power.isNone) = false := by
      rcases some with part_some | power_some
      · simp [part_some]
      · simp [Option.isNone_eq_false_iff.mpr (Option.isSome_iff_ne_none.mpr power_some)]
    rw [number_minus negative (whole.append_not_minus cs),
      integerPart_append whole (fraction.noDigit follows)]
    simp only [Option.bind_eq_bind, Option.bind_some, fraction.read follows point, scale.read ends]
    cases power with
    | none =>
      simp only [Option.map_none]
      rw [counted]
      rcases scale.head with ⟨-, rfl⟩ | ⟨e, _, letter, rfl⟩
      · rfl
      · cases scale
        rfl
    | some n => simp

/-! Strings. -/

/-- The letters that may follow a backslash, and the characters they name. -/
def escapeLetters : List (Char × Char) :=
  [('"', '"'), ('\\', '\\'), ('/', '/'), ('b', '\x08'), ('f', '\x0c'), ('n', '\n'),
    ('r', '\r'), ('t', '\t')]

/-- A text that starts with the escape of a unit. -/
inductive Escaped : List Char → Nat → List Char → Prop
  | unit {a b c d : Char} {n : Nat} (value : hexUnit? a b c d = some n) (rest : List Char) :
      Escaped ('\\' :: 'u' :: a :: b :: c :: d :: rest) n rest

def IsSurrogate (n : Nat) : Prop := 0xD800 ≤ n ∧ n < 0xE000

def IsPair (n m : Nat) : Prop := (0xD800 ≤ n ∧ n < 0xDC00) ∧ 0xDC00 ≤ m ∧ m < 0xE000

/-- The characters of a string from behind its opening quote on. Two escaped surrogates that are a
pair name one character. One without its partner names none and counts as U+FFFD. -/
inductive Characters : List Char → List Char → List Char → Prop
  | close (rest : List Char) : Characters ('"' :: rest) [] rest
  | plain {c : Char} {cs s rest : List Char} (quote : c ≠ '"') (slash : c ≠ '\\')
      (visible : 0x20 ≤ c.toNat) (more : Characters cs s rest) : Characters (c :: cs) (c :: s) rest
  | letter {e d : Char} {cs s rest : List Char} (named : (e, d) ∈ escapeLetters)
      (more : Characters cs s rest) :
      Characters ('\\' :: e :: cs) (d :: s) rest
  | unit {cs tail s rest : List Char} {n : Nat} (escaped : Escaped cs n tail)
      (single : ¬ IsSurrogate n) (more : Characters tail s rest) :
      Characters cs (Char.ofNat n :: s) rest
  | pair {cs inner tail s rest : List Char} {n m : Nat} (first : Escaped cs n inner)
      (second : Escaped inner m tail) (both : IsPair n m) (more : Characters tail s rest) :
      Characters cs (Char.ofNat (0x10000 + (n - 0xD800) * 0x400 + (m - 0xDC00)) :: s) rest
  | lone {cs tail s rest : List Char} {n : Nat} (escaped : Escaped cs n tail) (half : IsSurrogate n)
      (apart : ∀ m beyond, Escaped tail m beyond → ¬ IsPair n m) (more : Characters tail s rest) :
      Characters cs ('\ufffd' :: s) rest

/-- The pieces of a string from behind its opening quote on. -/
inductive Pieces : List Char → List Piece → List Char → Prop
  | close (rest : List Char) : Pieces ('"' :: rest) [] rest
  | plain {c : Char} {cs rest : List Char} {ps : List Piece} (quote : c ≠ '"') (slash : c ≠ '\\')
      (visible : 0x20 ≤ c.toNat) (more : Pieces cs ps rest) : Pieces (c :: cs) (.char c :: ps) rest
  | letter {e d : Char} {cs rest : List Char} {ps : List Piece} (named : (e, d) ∈ escapeLetters)
      (more : Pieces cs ps rest) : Pieces ('\\' :: e :: cs) (.char d :: ps) rest
  | unit {cs tail rest : List Char} {n : Nat} {ps : List Piece} (escaped : Escaped cs n tail)
      (more : Pieces tail ps rest) : Pieces cs (.unit n :: ps) rest

theorem shortEscape_iff {e d : Char} : shortEscape? e = some d ↔ (e, d) ∈ escapeLetters := by
  simp only [shortEscape?, escapeLetters, List.mem_cons, List.not_mem_nil, or_false, Prod.mk.injEq]
  split_ifs <;> simp_all [eq_comm]

theorem escapeLetter_ne_u {e d : Char} (named : (e, d) ∈ escapeLetters) : e ≠ 'u' := by
  rintro rfl
  cases shortEscape_iff.mpr named

theorem pieces_of_read {start cs rest : List Char} {ps : List Piece}
    (read : readPieces start cs = .ok (ps, rest)) :
    Pieces cs ps rest := by
  fun_induction readPieces start cs generalizing ps rest with
  | case2 =>
    cases read
    exact .close _
  | case4 h1 h2 h3 h4 n c tail value quote ih =>
    obtain ⟨both, inner, made⟩ := map_eq_ok_iff.mp read
    cases made
    exact .unit (.unit value _) (ih inner)
  | case7 e more letter d named quote ih =>
    obtain ⟨both, inner, made⟩ := map_eq_ok_iff.mp read
    cases made
    exact .letter (shortEscape_iff.mp named) (ih inner)
  | case10 c more quote slash visible ih =>
    obtain ⟨both, inner, made⟩ := map_eq_ok_iff.mp read
    cases made
    exact .plain quote slash (Nat.le_of_not_lt visible) (ih inner)
  | _ => cases read

theorem Pieces.ne_nil {cs rest : List Char} {ps : List Piece} (pieces : Pieces cs ps rest) :
    cs ≠ [] := by
  cases pieces with
  | unit escaped =>
    cases escaped
    exact List.cons_ne_nil _ _
  | _ => exact List.cons_ne_nil _ _

theorem Pieces.read {cs rest : List Char} {ps : List Piece} (pieces : Pieces cs ps rest)
    (start : List Char) :
    readPieces start cs = .ok (ps, rest) := by
  induction pieces with
  | close => exact readPieces_quote start _
  | plain quote slash visible more ih =>
    rw [readPieces_plain start quote slash (Nat.not_lt.mpr visible), ih]
    rfl
  | letter named more ih =>
    rw [readPieces_short start (shortEscape_iff.mpr named) (escapeLetter_ne_u named), ih]
    rfl
  | @unit cs tail rest n ps escaped more ih =>
    obtain ⟨e, beyond, rfl⟩ := List.exists_cons_of_ne_nil more.ne_nil
    cases escaped with
    | unit value => simp [readPieces, value, ih, Except.map]

/-! Pieces and characters. -/

theorem isPair_iff {n m : Nat} : IsPair n m ↔ (isHighSurrogate n && isLowSurrogate m) = true := by
  simp [IsPair, isHighSurrogate, isLowSurrogate]

theorem joinPieces_single {n : Nat} {ps : List Piece}
    (apart : ∀ m more, ps = .unit m :: more → ¬ IsPair n m) :
    joinPieces (.unit n :: ps) = unitChar n :: joinPieces ps := by
  cases ps with
  | nil => rfl
  | cons p more =>
    cases p with
    | char c => rfl
    | unit m => rw [joinPieces, if_neg fun pair => apart m more rfl (isPair_iff.mpr pair)]

/-- The next unit is escaped next. -/
theorem Pieces.escaped_iff {cs rest : List Char} {ps : List Piece}
    (pieces : Pieces cs ps rest) {m : Nat} :
    (∃ beyond, Escaped cs m beyond) ↔ ∃ more, ps = .unit m :: more := by
  cases pieces with
  | close =>
    refine iff_of_false ?_ ?_
    · rintro ⟨_, escaped⟩
      cases escaped
    · rintro ⟨_, same⟩
      cases same
  | plain quote slash =>
    refine iff_of_false ?_ ?_
    · rintro ⟨_, escaped⟩
      cases escaped
      exact slash rfl
    · rintro ⟨_, same⟩
      cases same
  | letter named =>
    refine iff_of_false ?_ ?_
    · rintro ⟨_, escaped⟩
      cases escaped
      exact escapeLetter_ne_u named rfl
    · rintro ⟨_, same⟩
      cases same
  | unit escaped more =>
    constructor
    · rintro ⟨_, other⟩
      cases escaped with
      | unit value =>
        cases other with
        | unit again =>
          cases value.symm.trans again
          exact ⟨_, rfl⟩
    · rintro ⟨_, same⟩
      cases same
      exact ⟨_, escaped⟩

/-- A string stands for what its pieces give together. -/
theorem Pieces.characters {cs rest : List Char} {ps : List Piece} (pieces : Pieces cs ps rest) :
    Characters cs (joinPieces ps) rest := by
  -- A pair takes two pieces at once, so the induction is on their number.
  induction count : ps.length using Nat.strongRecOn generalizing cs ps with
  | ind k ih =>
    subst count
    cases pieces with
    | close => exact .close _
    | plain quote slash visible more => exact .plain quote slash visible (ih _ (by simp) more rfl)
    | letter named more => exact .letter named (ih _ (by simp) more rfl)
    | @unit _ tail _ n ps escaped more =>
      by_cases pair : ∃ m later, ps = .unit m :: later ∧ IsPair n m
      · obtain ⟨m, later, rfl, pair⟩ := pair
        have high_low := isPair_iff.mp pair
        rw [Bool.and_eq_true] at high_low
        rw [joinPieces_pair high_low.1 high_low.2]
        cases more with
        | unit second more => exact .pair escaped second pair (ih _ (by simp) more rfl)
      · have apart : ∀ m later, ps = .unit m :: later → ¬ IsPair n m :=
          fun m later same both => pair ⟨m, later, same, both⟩
        rw [joinPieces_single apart, unitChar]
        have rest := ih _ (by simp) more rfl
        by_cases half : IsSurrogate n
        · rw [if_pos (by simpa [IsSurrogate] using half)]
          refine .lone escaped half (fun m beyond next => ?_) rest
          obtain ⟨later, same⟩ := more.escaped_iff.mp ⟨beyond, next⟩
          exact apart m later same
        · rw [if_neg (by simpa [IsSurrogate] using half)]
          exact .unit escaped half rest

theorem Characters.pieces {cs s rest : List Char} (characters : Characters cs s rest) :
    ∃ ps, Pieces cs ps rest ∧ joinPieces ps = s := by
  induction characters with
  | close rest => exact ⟨[], .close rest, rfl⟩
  | @plain c _ _ _ quote slash visible _ ih =>
    obtain ⟨ps, pieces, rfl⟩ := ih
    exact ⟨.char c :: ps, .plain quote slash visible pieces, rfl⟩
  | @letter _ d _ _ _ named _ ih =>
    obtain ⟨ps, pieces, rfl⟩ := ih
    exact ⟨.char d :: ps, .letter named pieces, rfl⟩
  | @unit _ _ _ _ n escaped single _ ih =>
    obtain ⟨ps, pieces, rfl⟩ := ih
    refine ⟨.unit n :: ps, .unit escaped pieces, ?_⟩
    rw [joinPieces_single, unitChar, if_neg (by simpa [IsSurrogate] using single)]
    rintro m more - ⟨high, -⟩
    exact single ⟨high.1, by omega⟩
  | @pair _ _ _ _ _ n m first second both _ ih =>
    obtain ⟨ps, pieces, rfl⟩ := ih
    have high_low := isPair_iff.mp both
    rw [Bool.and_eq_true] at high_low
    exact ⟨.unit n :: .unit m :: ps, .unit first (.unit second pieces),
      joinPieces_pair high_low.1 high_low.2 ps⟩
  | @lone _ _ _ _ n escaped half apart _ ih =>
    obtain ⟨ps, pieces, rfl⟩ := ih
    refine ⟨.unit n :: ps, .unit escaped pieces, ?_⟩
    rw [joinPieces_single, unitChar, if_pos (by simpa [IsSurrogate] using half)]
    rintro m more rfl
    obtain ⟨beyond, next⟩ := pieces.escaped_iff.mpr ⟨more, rfl⟩
    exact apart m beyond next

theorem readString_iff {start cs rest : List Char} {s : String} :
    readString start cs = .ok (s, rest) ↔ Characters cs s.toList rest := by
  rw [readString, map_eq_ok_iff]
  constructor
  · rintro ⟨⟨ps, r⟩, read, same⟩
    cases same
    rw [String.toList_ofList]
    exact (pieces_of_read read).characters
  · intro characters
    obtain ⟨ps, pieces, joined⟩ := characters.pieces
    refine ⟨(ps, rest), pieces.read start, ?_⟩
    show (s, rest) = (String.ofList (joinPieces ps), rest)
    rw [joined, String.ofList_toList]

end AgentWire.Json
