import AgentWire.Datum.Literal
import AgentWire.Proofs.JsonText
import AgentWire.Proofs.Yaml.Folding

/-! Numbers as plain scalars. A written number has the form of its own tag and of no other, can be
written plain, and is read back as the same number. A double always has a point in its text, since a
text without one is an integer or a string. -/
namespace AgentWire.Yaml

open Json (Whole minus)
open NumberText

/-! The characters of numbers. -/

def IsNumeral (c : Char) : Prop :=
  c.isDigit = true ∨ c ∈ ['.', 'e', '+', '-']

namespace IsNumeral

variable {c : Char} (numeral : IsNumeral c)
include numeral

theorem ascii : IsAscii c := by
  rcases numeral with digit | sign
  · exact isAscii_of_digit digit
  · have signs : ['.', 'e', '+', '-'].all fun c => IsAscii c := by decide
    exact of_decide_eq_true (List.all_eq_true.mp signs c sign)

theorem ne {d : Char} (digit : d.isDigit = false) (sign : d ∉ ['.', 'e', '+', '-']) : c ≠ d := by
  rintro rfl
  rcases numeral with digits | signs
  · exact absurd digits (by simp [digit])
  · exact sign signs

theorem visible : IsVisible c :=
  ⟨numeral.ascii, numeral.ne rfl (by decide), numeral.ne rfl (by decide)⟩

/-- Only the capital letters of ASCII have a lower case in it. -/
theorem alone : LowerCase.alone c = [c] := by
  have starts : LowerCase.runs.all fun r => 0x7F ≤ r.1 || r.1 = 0x41 && r.2.1 = 0x5A := by
    decide +kernel
  have low := numeral.ascii.lt
  have small : c.toNat < 0x41 ∨ 0x5A < c.toNat := by
    rcases numeral with digit | sign
    · have bounds : 48 ≤ c.toNat ∧ c.toNat ≤ 57 := by
        simpa [Char.isDigit, UInt32.le_iff_toNat_le] using digit
      omega
    · have signs : ['.', 'e', '+', '-'].all fun c => c.toNat < 0x41 || 0x5A < c.toNat := by decide
      simpa using List.all_eq_true.mp signs c sign
  rw [LowerCase.alone, if_neg (numeral.ne (by decide) (by decide)), List.find?_eq_none.mpr]
  rintro ⟨first, last, step, shift⟩ inside
  have start := List.all_eq_true.mp starts _ inside
  simp only [Bool.or_eq_true, Bool.and_eq_true, decide_eq_true_eq] at start ⊢
  omega

end IsNumeral

theorem ascii_eq {cs : List Char} (ascii : AsciiText cs) : Numeral.ascii cs = some cs := by
  induction cs with
  | nil => rfl
  | cons c rest ih =>
    rw [AsciiText.cons_iff] at ascii
    have low := ascii.1.lt
    have same : Numeral.ascii? c = some c := if_pos (by omega)
    have later : rest.mapM Numeral.ascii? = some rest := ih ascii.2
    rw [Numeral.ascii, List.mapM_cons, same, later]
    rfl

/-- Whether a text starts like a number. No word does. -/
def startsNumber : List Char → Bool
  | [] => false
  | c :: _ => c.isDigit || c = '-'

/-- A written number: a digit with a sign before it or none, and further characters of numbers. -/
structure IsNumber (unsigned : List Char) : Prop where
  start : ∃ d rest, unsigned = d :: rest ∧ d.isDigit = true
  all : ∀ c ∈ unsigned, IsNumeral c

namespace IsNumber

variable {unsigned : List Char} (number : IsNumber unsigned)
include number

theorem signed (negative : Bool) : ∀ c ∈ minus negative ++ unsigned, IsNumeral c := by
  intro c inside
  rcases List.mem_append.mp inside with sign | inside
  · cases negative with
    | true => exact .inr (by simp_all [minus])
    | false => cases sign
  · exact number.all c inside

theorem absent (negative : Bool) {d : Char} (digit : d.isDigit = false)
    (sign : d ∉ ['.', 'e', '+', '-']) :
    d ∉ minus negative ++ unsigned :=
  fun inside => (number.signed negative d inside).ne digit sign rfl

theorem clean (negative : Bool) : AsciiText (minus negative ++ unsigned) :=
  fun c inside => (number.signed negative c inside).ascii

theorem hasIndicator (negative : Bool) :
    ScalarText.hasIndicator (minus negative ++ unsigned) = false := by
  have comment := number.absent negative (d := '#') rfl (by decide)
  have colon := number.absent negative (d := ':') rfl (by decide)
  generalize minus negative ++ unsigned = cs at comment colon
  induction cs with
  | nil => rfl
  | cons c rest ih =>
    have later := ih (fun inside => comment (.tail _ inside)) (fun inside => colon (.tail _ inside))
    unfold ScalarText.hasIndicator
    split
    · rename_i same
      cases same
      simp at comment
    · rename_i same
      cases same
      simp at colon
    · rename_i same
      cases same
      exact later
    · rfl

theorem canBePlain (negative : Bool) :
    ScalarText.canBePlain (minus negative ++ unsigned) = true := by
  have clean := number.clean negative
  have lineFeed := number.absent negative (d := '\n') rfl (by decide)
  have blank := number.absent negative (d := ' ') rfl (by decide)
  have clear := number.hasIndicator negative
  have last : (minus negative ++ unsigned).getLast? ≠ some ' ' :=
    fun last => blank (List.mem_of_getLast? last)
  obtain ⟨d, rest, rfl, digit⟩ := number.start
  have visible : IsVisible d := (number.all d List.mem_cons_self).visible
  have other {c : Char} (sign : c.isDigit = false) : d ≠ c := by
    rintro rfl
    exact absurd digit (by simp [sign])
  cases negative with
  | true =>
    exact ScalarText.canBePlain_iff.mpr
      { ascii := clean, oneLine := lineFeed, first := by decide, last, free := by decide,
        word := fun _ => visible.isSpace, clear,
        start := by simp [other (c := '-') rfl],
        stop := by simp }
  | false =>
    have open_ : ScalarText.reserved.all (!·.isDigit) = true := by decide +kernel
    exact ScalarText.canBePlain_iff.mpr
      { ascii := clean, oneLine := lineFeed, first := other rfl, last,
        free := fun inside => by simpa [digit] using List.all_eq_true.mp open_ d inside,
        word := by simp [other (c := '?') rfl, other (c := ':') rfl, other (c := '-') rfl],
        clear,
        start := by simp [other (c := '-') rfl],
        stop := by simp [other (c := '.') rfl] }

/-! The form of a number. -/

theorem formOf (negative : Bool) :
    Tag.formOf (minus negative ++ unsigned) = minus negative ++ unsigned := by
  have lineFeed := number.absent negative (d := '\n') rfl (by decide)
  have last : (minus negative ++ unsigned).getLast? ≠ some '\n' :=
    fun last => lineFeed (List.mem_of_getLast? last)
  rw [Tag.formOf, decide_eq_false last, Bool.false_and, if_neg (by decide)]

theorem startsNumber_eq (negative : Bool) : startsNumber (minus negative ++ unsigned) = true := by
  obtain ⟨d, rest, rfl, digit⟩ := number.start
  cases negative with
  | true => rfl
  | false => simp [minus, startsNumber, digit]

theorem not_word (negative : Bool) (words : List (List Char))
    (others : words.all (!startsNumber ·) = true) :
    minus negative ++ unsigned ∉ words := by
  intro inside
  have other := List.all_eq_true.mp others _ inside
  simp [number.startsNumber_eq negative] at other

theorem not_null (negative : Bool) : Tag.isNull (minus negative ++ unsigned) = false := by
  have word := number.not_word negative
    [[], ['~'], "null".toList, "Null".toList, "NULL".toList] (by decide +kernel)
  rw [Tag.isNull, ← Bool.not_eq_true, List.contains_iff_mem]
  exact word

theorem not_bool (negative : Bool) : Tag.isBool (minus negative ++ unsigned) = false := by
  have word :=
    number.not_word negative (Tag.truthWords.flatMap fun p => Tag.casings p.1) (by decide +kernel)
  simp only [List.mem_flatMap, not_exists, not_and] at word
  simp only [Tag.isBool, List.any_eq_false, List.contains_iff_mem]
  exact fun p inside => word p inside

theorem dropSign (negative : Bool) : Tag.dropSign (minus negative ++ unsigned) = unsigned := by
  cases negative with
  | true => rfl
  | false =>
    obtain ⟨d, rest, rfl, digit⟩ := number.start
    show Tag.dropSign (d :: rest) = _
    unfold Tag.dropSign
    split
    · rename_i same
      cases same
      cases digit
    · rename_i same
      cases same
      cases digit
    · rfl

theorem colonParts (negative : Bool) :
    Tag.colonParts (minus negative ++ unsigned) = [minus negative ++ unsigned] :=
  List.splitOn_eq_singleton (number.absent negative rfl (by decide))

/-! The text of a number for its readers. -/

theorem withoutUnderscores (negative : Bool) :
    (minus negative ++ unsigned).filter (· ≠ '_') = minus negative ++ unsigned :=
  List.filter_eq_self.mpr fun c inside =>
    decide_eq_true ((number.signed negative c inside).ne rfl (by decide))

theorem signed_eq (negative : Bool) :
    Numeral.signed (minus negative ++ unsigned) = (negative, unsigned) := by
  cases negative with
  | true => rfl
  | false =>
    obtain ⟨d, rest, rfl, digit⟩ := number.start
    show Numeral.signed (d :: rest) = _
    unfold Numeral.signed
    split
    · rename_i same
      cases same
      cases digit
    · rename_i same
      cases same
      cases digit
    · rfl

theorem trim_eq : Numeral.trim unsigned = unsigned := by
  have kept : ∀ c ∈ unsigned, Numeral.isAsciiBlank c = false := by
    intro c inside
    have numeral := number.all c inside
    have low : 0x20 ≤ c.toNat := by
      rcases numeral.ascii with rfl | low
      · exact absurd rfl (numeral.ne (d := '\n') rfl (by decide))
      · exact low.1
    simp [Numeral.isAsciiBlank, numeral.ne (d := ' ') rfl (by decide)]
    omega
  have stays {cs : List Char} (all : ∀ c ∈ cs, Numeral.isAsciiBlank c = false) :
      cs.dropWhile Numeral.isAsciiBlank = cs := by
    cases cs with
    | nil => rfl
    | cons c rest => rw [List.dropWhile_cons, all c List.mem_cons_self, if_neg (by decide)]
  rw [Numeral.trim, stays kept, stays (by simpa using kept), List.reverse_reverse]

theorem lowerCase_eq (negative : Bool) :
    lowerCase (minus negative ++ unsigned) = minus negative ++ unsigned := by
  have all := number.signed negative
  unfold lowerCase
  generalize minus negative ++ unsigned = cs at *
  generalize ([] : List Char) = before
  induction cs generalizing before with
  | nil => rfl
  | cons c rest ih =>
    have numeral := all c List.mem_cons_self
    rw [LowerCase.textAfter, ih (fun d inside => all d (.tail _ inside)),
      if_neg (numeral.ne (by decide) (by decide)), numeral.alone]
    rfl

end IsNumber

/-! Integers. -/

theorem isNumber_of_digits {ds : List Char} (some : ds ≠ []) (all : ∀ c ∈ ds, c.isDigit = true) :
    IsNumber ds := by
  cases ds with
  | nil => exact absurd rfl some
  | cons d rest =>
    exact ⟨⟨d, rest, rfl, all d List.mem_cons_self⟩, fun c inside => .inl (all c inside)⟩

theorem isUnsignedInteger_whole {ds : List Char} (whole : Whole ds) :
    Tag.isUnsignedInteger ds = true := by
  obtain ⟨d, rest, rfl⟩ := List.exists_cons_of_ne_nil whole.some
  by_cases zero : d = '0'
  · subst zero
    rw [whole.alone rest rfl]
    rfl
  · have digit := whole.all d List.mem_cons_self
    have digits : ∀ c ∈ rest, c.isDigit = true := fun c inside => whole.all c (.tail _ inside)
    have grouped : Tag.isGroupedFrom Tag.isNonzeroDigit (d :: rest) = true := by
      simpa [Tag.isGroupedFrom, Tag.isNonzeroDigit, digit, zero] using fun c inside =>
        .inl (digits c inside)
    unfold Tag.isUnsignedInteger
    split
    · rfl
    · rename_i same
      cases same
      exact absurd rfl zero
    · rename_i same
      cases same
      exact absurd rfl zero
    · rename_i same
      cases same
      exact absurd rfl zero
    · rw [grouped, Bool.true_or]

theorem ofPlain_integer (negative : Bool) {ds : List Char} (whole : Whole ds) :
    Tag.ofPlain (minus negative ++ ds) = .int := by
  have number := isNumber_of_digits whole.some whole.all
  rw [Tag.ofPlain, number.formOf, Tag.ofForm, number.not_null, number.not_bool, Tag.isInteger,
    number.dropSign, isUnsignedInteger_whole whole]
  rfl

theorem naturalFrom_digits {ds : List Char} (all : ∀ c ∈ ds, c.isDigit = true) (n : Nat) :
    naturalFrom 10 n ds = some (Nat.ofDigitChars 10 ds n) := by
  induction ds generalizing n with
  | nil => rfl
  | cons c rest ih =>
    have digit := all c List.mem_cons_self
    have bounds : 48 ≤ c.toNat ∧ c.toNat ≤ 57 := by
      simpa [Char.isDigit, UInt32.le_iff_toNat_le] using digit
    have value : digitValue? c = some (c.toNat - 48) := if_pos digit
    have small : c.toNat - 48 < 10 := by omega
    rw [naturalFrom.eq_3, value]
    · simp only [Option.bind_eq_bind, Option.bind_some, if_pos small]
      rw [ih (fun d inside => all d (.tail _ inside)), Nat.ofDigitChars_cons, Nat.mul_comm]
      rfl
    · rintro _ _ rfl
      cases digit

theorem natural_digits {ds : List Char} (some : ds ≠ []) (all : ∀ c ∈ ds, c.isDigit = true) :
    natural? 10 ds = Option.some (Nat.ofDigitChars 10 ds 0) := by
  have read := naturalFrom_digits all 0
  cases ds with
  | nil => exact absurd rfl some
  | cons c rest =>
    rw [naturalFrom.eq_3] at read
    · simpa [natural?] using read
    · rintro _ _ rfl
      cases all '_' List.mem_cons_self

namespace Scalar

theorem integerIn_ten {ds : List Char} (whole : Whole ds) :
    integerIn 10 ds = .ok (Nat.ofDigitChars 10 ds 0 : Int) := by
  have number := isNumber_of_digits whole.some whole.all
  have ascii : AsciiText ds := number.clean false
  have plain : Numeral.signed ds = (false, ds) := number.signed_eq false
  have base : withoutBase 10 ds = ds := by
    unfold withoutBase
    split
    · exact if_neg (by simp [baseLetter?])
    · rfl
  have read : integer? 10 ds = some (Nat.ofDigitChars 10 ds 0 : Int) := by
    simp [integer?, ascii_eq ascii, number.trim_eq, plain, base,
      natural_digits whole.some whole.all]
  rw [integerIn, read]

theorem unsigned_whole {ds : List Char} (whole : Whole ds) :
    unsigned ds = .ok (Nat.ofDigitChars 10 ds 0 : Int) := by
  have number := isNumber_of_digits whole.some whole.all
  have colon : ds.contains ':' = false := by
    rw [← Bool.not_eq_true, List.contains_iff_mem]
    exact number.absent false rfl (by decide)
  have read := integerIn_ten whole
  obtain ⟨d, rest, rfl⟩ := List.exists_cons_of_ne_nil whole.some
  by_cases zero : d = '0'
  · subst zero
    rw [whole.alone rest rfl]
    rfl
  · have other {more : List Char} (same : d :: rest = '0' :: more) : False :=
      zero (List.cons.inj same).1
    unfold unsigned
    split
    · rename_i same
      cases same
    · exact (other ‹_›).elim
    · exact (other ‹_›).elim
    · exact (other ‹_›).elim
    · exact (other ‹_›).elim
    · rw [colon, if_neg (by decide), read]

theorem integer_whole (negative : Bool) {ds : List Char} (whole : Whole ds) :
    integer (minus negative ++ ds) =
      .ok (if negative then -(Nat.ofDigitChars 10 ds 0 : Int) else Nat.ofDigitChars 10 ds 0) := by
  have number := isNumber_of_digits whole.some whole.all
  rw [integer, number.withoutUnderscores, number.signed_eq]
  dsimp only
  rw [unsigned_whole whole]
  rfl

theorem integer_text (i : Int) :
    Tag.ofPlain (Datum.intText i) = .int ∧ ScalarText.canBePlain (Datum.intText i) = true ∧
      integer (Datum.intText i) = .ok i := by
  have text : Datum.intText i = minus (decide (i < 0)) ++ Nat.toDigits 10 i.natAbs := by
    simp [Datum.intText, minus]
  have whole := Json.whole_toDigits i.natAbs
  have number := isNumber_of_digits whole.some whole.all
  refine ⟨text ▸ ofPlain_integer _ whole, text ▸ number.canBePlain _, ?_⟩
  rw [text, integer_whole _ whole, Nat.ofDigitChars_ten_toDigits]
  split <;> rename_i sign <;> simp only [decide_eq_true_eq] at sign <;> congr 1 <;> omega

end Scalar

/-! Doubles. -/

/-- A power of ten after a number, or none. -/
inductive IsPower : List Char → Int → Prop
  | none : IsPower [] 0
  | some (negative : Bool) {ds : List Char} (some : ds ≠ []) (all : ∀ c ∈ ds, c.isDigit = true) :
      IsPower ('e' :: (if negative then '-' else '+') :: ds)
        (if negative then -(Nat.ofDigitChars 10 ds 0 : Int) else Nat.ofDigitChars 10 ds 0)

/-- A double without its sign: digits, a point, more digits, and perhaps a power of ten. -/
structure IsPointed (whole part power : List Char) (e : Int) : Prop where
  whole : Whole whole
  behind : part ≠ []
  part : ∀ c ∈ part, c.isDigit = true
  power : IsPower power e

/-- Only a text with a power of ten may have no point. -/
theorem layOut_shape {d : Decimal} (written : 0 < d.digits ∨ d = ⟨0, 0⟩) :
    (∃ whole part power e, IsPointed whole part power e ∧
      layOut number d = whole ++ '.' :: (part ++ power)) ∨
      ∃ whole power e, Whole whole ∧ IsPower power e ∧ power ≠ [] ∧
        layOut number d = whole ++ power := by
  rw [layOut]
  split
  · have place : ((Nat.toDigits 10 d.digits).length : Int) + d.exponent - 1 + 1 =
        (Nat.toDigits 10 d.digits).length + d.exponent := by omega
    obtain ⟨whole, part, front, behind, all, text, -⟩ := Json.positional_shape written
    rw [place, text]
    exact .inl ⟨whole, part, [], 0, ⟨front, behind, all, .none⟩, by rw [List.append_nil]⟩
  · generalize ((Nat.toDigits 10 d.digits).length : Int) + d.exponent - 1 = lead
    have digits : ∀ c ∈ padded number.exponentWidth lead.natAbs, c.isDigit = true :=
      Json.append_isDigit Json.zeros_isDigit toDigits_isDigit
    have power := IsPower.some (decide (lead < 0)) (by simp [padded]) digits
    simp only [decide_eq_true_eq] at power
    have all := toDigits_isDigit (n := d.digits)
    split
    · exact absurd ‹_› Nat.toDigits_ne_nil
    · rename_i c text
      exact .inr ⟨[c], _, _, Json.whole_singleton text, power, by simp, rfl⟩
    · rename_i c more several text
      have some : more ≠ [] := fun none => several none
      exact .inl ⟨[c], more, _, _, ⟨Json.whole_singleton text, some,
        fun b inside => all b (by simp_all), power⟩, by simp⟩

namespace IsPointed

variable {whole part power : List Char} {e : Int} (pointed : IsPointed whole part power e)
include pointed

theorem isNumber : IsNumber (whole ++ '.' :: (part ++ power)) := by
  obtain ⟨d, rest, text, digit⟩ := (isNumber_of_digits pointed.whole.some pointed.whole.all).start
  refine ⟨⟨d, rest ++ '.' :: (part ++ power), by rw [text]; rfl, digit⟩, ?_⟩
  have tail : ∀ c ∈ power, IsNumeral c := by
    cases pointed.power with
    | none => simp
    | some negative _ all =>
      simp only [List.forall_mem_cons]
      refine ⟨.inr (by simp), .inr ?_, fun c inside => .inl (all c inside)⟩
      split <;> simp
  simp only [List.forall_mem_append, List.forall_mem_cons]
  exact ⟨fun c inside => .inl (pointed.whole.all c inside), .inr (by simp),
    fun c inside => .inl (pointed.part c inside), tail⟩

theorem exponent_power : NumberText.exponent? power = some e := by
  cases pointed.power with
  | none => rfl
  | @some negative ds some all =>
    have sign : Numeral.signed ((if negative then '-' else '+') :: ds) = (negative, ds) := by
      cases negative <;> rfl
    have nonempty : ds.isEmpty = false := by simpa using some
    have digits : ds.all Char.isDigit = true := List.all_eq_true.mpr all
    simp [NumberText.exponent?, sign, nonempty, digits]

theorem power_ends : Json.NoDigit power := by
  cases pointed.power with
  | none => intro c more text; cases text
  | some => exact Json.noDigit_cons (by decide)

theorem decimal_eq : decimal? (whole ++ '.' :: (part ++ power)) =
    some (Decimal.toFloat ⟨Nat.ofDigitChars 10 (whole ++ part) 0, e - part.length⟩) := by
  have front :=
    @Json.digits_append _ ('.' :: (part ++ power)) pointed.whole.all (Json.noDigit_cons (by decide))
  have behind := Json.digits_append pointed.part pointed.power_ends
  simp only [Json.digits, List.span_eq_takeWhile_dropWhile, Prod.mk.injEq] at front behind
  have nonempty : whole.isEmpty = false := by simpa using pointed.whole.some
  simp [decimal?, front, behind, nonempty, pointed.exponent_power]

theorem number_eq (negative : Bool) :
    Json.number? (minus negative ++ (whole ++ '.' :: (part ++ power))) =
      some (.num (if negative then
        -Decimal.toFloat ⟨Nat.ofDigitChars 10 (whole ++ part) 0, e - part.length⟩
        else Decimal.toFloat ⟨Nat.ofDigitChars 10 (whole ++ part) 0, e - part.length⟩), []) := by
  have ends : Json.NumberEnds [] := by
    intro c more text
    cases text
  have power := pointed.power
  cases power with
  | none =>
    have read := Json.number_fraction negative pointed.whole pointed.behind pointed.part ends
    rw [zero_sub]
    exact read
  | @some below ds some all =>
    have letter (more : List Char) : Json.NoDigit ('e' :: more) := Json.noDigit_cons (by decide)
    have fraction :=
      Json.fraction_append pointed.behind pointed.part (letter ((if below then '-' else '+') :: ds))
    have exponent := Json.exponent_append below some all ends.noDigit
    rw [List.append_nil] at exponent
    have read := @Json.number_exponent negative _ _ ('.' :: part) _ _ pointed.whole
      (by rw [List.cons_append, fraction]; rfl) (Json.noDigit_cons (by decide)) _ exponent
    exact read

end IsPointed

/-- A zero behind the point changes nothing. -/
theorem toFloat_pointed (ds : List Char) (e : Int) :
    (⟨Nat.ofDigitChars 10 (ds ++ ['0']) 0, e - 1⟩ : Decimal).toFloat =
      (⟨Nat.ofDigitChars 10 ds 0, e⟩ : Decimal).toFloat := by
  have last : Nat.ofDigitChars 10 (ds ++ ['0']) 0 = 10 * Nat.ofDigitChars 10 ds 0 := by
    rw [Nat.ofDigitChars_append]
    exact Nat.add_zero _
  apply Decimal.toFloat_congr
  have power : (10 : ℚ) ^ (e - 1) * 10 = 10 ^ e := by
    rw [← zpow_add_one₀ (by norm_num), sub_add_cancel]
  simp only [Decimal.value, last]
  push_cast
  rw [← power]
  ring

/-- A point is put in front of the power of ten. -/
theorem pointed_flatMap {cs : List Char} (letter : 'e' ∉ cs) (more : List Char)
    (other : 'e' ∉ more) :
    (cs ++ 'e' :: more).flatMap (fun c => if c = 'e' then ".0e".toList else [c]) =
      cs ++ '.' :: '0' :: 'e' :: more := by
  have same {ds : List Char} (letter : 'e' ∉ ds) :
      ds.flatMap (fun c => if c = 'e' then ".0e".toList else [c]) = ds := by
    induction ds with
    | nil => rfl
    | cons c rest ih =>
      have first : c ≠ 'e' := fun same => letter (same ▸ List.mem_cons_self)
      rw [List.flatMap_cons, if_neg first, ih fun inside => letter (.tail _ inside)]
      rfl
  rw [List.flatMap_append, List.flatMap_cons, same letter, same other]
  rfl

/-- The text of a double with its sign and its point. -/
theorem floatText_shape {x : Float} (finite : x.isFinite = true) :
    ∃ whole part power e y, IsPointed whole part power e ∧
      Scalar.floatText x = minus (signBit x) ++ (whole ++ '.' :: (part ++ power)) ∧
      decimal? (whole ++ '.' :: (part ++ power)) = some y ∧ (if signBit x then -y else y) = x ∧
      y.isNaN = false := by
  obtain ⟨written, -⟩ := Shortest.ofMagnitude_read finite
  have ends : Json.NumberEnds [] := by
    intro c more text
    cases text
  have read := Json.number_finite finite ends
  have text : NumberText.finite x =
      minus (signBit x) ++ layOut number (Shortest.ofMagnitude (Dyadic.ofFloat x)) := rfl
  have shown : Scalar.floatText x =
      if (NumberText.finite x).contains '.' then NumberText.finite x
      else (NumberText.finite x).flatMap fun c => if c = 'e' then ".0e".toList else [c] := by
    rw [Scalar.floatText, Json.isNaN_of_finite finite, finite]
    rfl
  rw [List.append_nil] at read
  rcases layOut_shape written with ⟨whole, part, power, e, pointed, laid⟩ | ⟨whole, power, e,
    whole', power', some, laid⟩
  · rw [laid] at text
    rw [text, pointed.number_eq] at read
    have point : (NumberText.finite x).contains '.' = true := by simp [text]
    have value : (if signBit x then
        -Decimal.toFloat ⟨Nat.ofDigitChars 10 (whole ++ part) 0, e - part.length⟩
      else Decimal.toFloat ⟨Nat.ofDigitChars 10 (whole ++ part) 0, e - part.length⟩) = x := by
      simpa using read
    exact ⟨whole, part, power, e, _, pointed, by rw [shown, if_pos point, text], pointed.decimal_eq,
      value, Decimal.isNaN_toFloat _⟩
  · have pointed : IsPointed whole ['0'] power e := ⟨whole', by simp, Json.zero_isDigit, power'⟩
    have decimal := pointed.decimal_eq
    rw [List.length_singleton, Nat.cast_one, toFloat_pointed] at decimal
    have number := isNumber_of_digits whole'.some whole'.all
    cases power' with
    | none => exact absurd rfl some
    | @some below ds digits all =>
      have exponent := Json.exponent_append below digits all ends.noDigit
      rw [List.append_nil] at exponent
      have value :=
        @Json.number_exponent (signBit x) _ [] [] _ _ whole' rfl (Json.noDigit_cons (by decide))
          _ exponent
      rw [laid] at text
      rw [text] at read
      have letterless {cs : List Char} (all : ∀ c ∈ cs, c.isDigit = true) {c : Char}
          (other : c.isDigit = false) : c ∉ cs :=
        fun inside => absurd (all c inside) (by simp [other])
      have sign {c : Char} (other : c ≠ '-') : c ∉ minus (signBit x) := by
        cases signBit x <;> simp [minus, other]
      have front : 'e' ∉ minus (signBit x) ++ whole := by
        simp [sign, letterless whole'.all (c := 'e') rfl]
      have behind : 'e' ∉ (if below then '-' else '+') :: ds := by
        cases below <;> simp [letterless all (c := 'e') rfl]
      have point : (NumberText.finite x).contains '.' = false := by
        rw [← Bool.not_eq_true, List.contains_iff_mem, text]
        cases below <;> simp [sign, letterless whole'.all (c := '.') rfl,
          letterless all (c := '.') rfl]
      refine ⟨whole, ['0'], _, _, _, pointed, ?_, decimal, ?_, Decimal.isNaN_toFloat _⟩
      · rw [shown, point, if_neg (by decide), text, ← List.append_assoc,
          pointed_flatMap front _ behind]
        simp
      · simpa using value.symm.trans read

/-! The form of a double. -/

theorem not_unsignedInteger {cs : List Char} (point : '.' ∈ cs) (colon : ':' ∉ cs) :
    Tag.isUnsignedInteger cs = false := by
  have grouped {digit : Char → Bool} (other : digit '.' = false) {ds : List Char}
      (inside : '.' ∈ ds) : Tag.isGrouped digit ds = false := by
    rw [Tag.isGrouped, Bool.and_eq_false_iff, List.all_eq_false]
    exact .inr ⟨'.', inside, by simp [other]⟩
  unfold Tag.isUnsignedInteger
  split
  · simp at point
  · exact grouped rfl (by simpa using point)
  · exact grouped rfl (by simpa using point)
  · exact grouped rfl (by simpa using point)
  · have parts : Tag.colonParts cs = [cs] := List.splitOn_eq_singleton colon
    rw [Tag.isSexagesimal, parts, Bool.or_false]
    cases cs with
    | nil => rfl
    | cons c rest =>
      rw [Tag.isGroupedFrom, Bool.and_eq_false_iff, List.all_eq_false]
      rcases List.mem_cons.mp point with rfl | inside
      · exact .inl rfl
      · exact .inr ⟨'.', inside, by simp⟩

namespace IsPointed

variable {whole part power : List Char} {e : Int} (pointed : IsPointed whole part power e)
include pointed

theorem isExponentOrNone :
    Tag.isExponentOrNone ((part ++ power).dropWhile Tag.isDigitOrUnderscore) = true := by
  have digits : ∀ c ∈ part, Tag.isDigitOrUnderscore c = true := fun c inside => by
    rw [Tag.isDigitOrUnderscore, pointed.part c inside, Bool.true_or]
  rw [List.dropWhile_append_of_pos digits]
  cases pointed.power with
  | none => rfl
  | @some below ds some all =>
    have nonempty : ds.isEmpty = false := by simpa using some
    have digits : ds.all Char.isDigit = true := List.all_eq_true.mpr all
    have letter : Tag.isDigitOrUnderscore 'e' = false := by decide
    cases below <;> simp [Tag.isExponentOrNone, letter, nonempty, digits]

theorem isFloat (negative : Bool) :
    Tag.isFloat (minus negative ++ (whole ++ '.' :: (part ++ power))) = true := by
  have number := pointed.isNumber
  have point : ∀ c ∈ whole, c ≠ '.' := by
    rintro c inside rfl
    cases pointed.whole.all _ inside
  have split_ : Tag.atPoint? (whole ++ '.' :: (part ++ power)) = some (whole, part ++ power) := by
    have run : (whole ++ '.' :: (part ++ power)).span (· ≠ '.') =
        (whole, '.' :: (part ++ power)) := by
      rw [List.span_eq_takeWhile_dropWhile, List.takeWhile_append_of_pos (by simpa using point),
        List.dropWhile_append_of_pos (by simpa using point)]
      simp
    rw [Tag.atPoint?, run]
    rfl
  have grouped : Tag.isGroupedFrom Char.isDigit whole = true := by
    obtain ⟨d, rest, rfl, digit⟩ := (isNumber_of_digits pointed.whole.some pointed.whole.all).start
    simpa [Tag.isGroupedFrom, digit] using fun c inside =>
      .inl (pointed.whole.all c (.tail _ inside))
  have starts := number.startsNumber_eq negative
  have unsigned := number.dropSign negative
  generalize minus negative ++ (whole ++ '.' :: (part ++ power)) = cs at *
  unfold Tag.isFloat
  rw [unsigned]
  dsimp only
  rw [split_]
  split
  · cases starts
  · rename_i same
    cases same
    rw [grouped, pointed.isExponentOrNone]
    simp
  · rename_i same
    cases same

theorem ofPlain_eq (negative : Bool) :
    Tag.ofPlain (minus negative ++ (whole ++ '.' :: (part ++ power))) = .float := by
  have number := pointed.isNumber
  have integer : Tag.isInteger (minus negative ++ (whole ++ '.' :: (part ++ power))) = false := by
    rw [Tag.isInteger, number.dropSign]
    exact not_unsignedInteger (by simp) (number.absent false rfl (by decide))
  rw [Tag.ofPlain, number.formOf, Tag.ofForm, number.not_null, number.not_bool, integer,
    pointed.isFloat]
  rfl

end IsPointed

namespace Scalar

theorem toLower_digit {c : Char} (digit : c.isDigit = true) : c.toLower = c := by
  have bounds : 48 ≤ c.toNat ∧ c.toNat ≤ 57 := by
    simpa [Char.isDigit, UInt32.le_iff_toNat_le] using digit
  rw [Char.toLower, dif_neg]
  rintro ⟨above, -⟩
  have least : 'A'.toNat ≤ c.toNat := UInt32.le_iff_toNat_le.mp above
  exact absurd (Nat.le_trans least bounds.2) (by decide)

theorem double_of_number {unsigned : List Char} (number : IsNumber unsigned) {y : Float}
    (value : decimal? unsigned = some y) : double unsigned = .ok y := by
  have ascii : AsciiText unsigned := number.clean false
  have plain : Numeral.signed unsigned = (false, unsigned) := number.signed_eq false
  have magnitude : magnitude? unsigned = some y := by
    obtain ⟨d, rest, rfl, digit⟩ := number.start
    have other {c : Char} {word : List Char} (letter : c.isDigit = false) :
        (d :: rest).map Char.toLower ≠ c :: word := by
      intro same
      rw [List.map_cons, toLower_digit digit] at same
      cases same
      simp [digit] at letter
    have inf : (d :: rest).map Char.toLower ≠ "inf".toList := other rfl
    have infinity : (d :: rest).map Char.toLower ≠ "infinity".toList := other rfl
    have nan : (d :: rest).map Char.toLower ≠ "nan".toList := other rfl
    rw [magnitude?, decide_eq_false inf, decide_eq_false infinity, if_neg (by decide),
      if_neg nan, value]
  simp [double, double?, ascii_eq ascii, number.trim_eq, plain, magnitude]

/-- A double that is neither finite nor no number. -/
theorem infinite_eq {x : Float} (isNumber : x.isNaN = false) (large : x.isFinite = false) :
    (if signBit x then -infinity else infinity) = x ∧ infinity.isNaN = false := by
  have same : infinity = Double.packed (.infinity .positive) := rfl
  have unpacked : Double.unpacked infinity = .infinity .positive :=
    Double.unpacked_packed (.infinity .positive)
  have negative : -infinity = Double.packed (.infinity .negative) := by
    rw [← Double.packed_unpacked (-infinity), Double.unpacked_neg, unpacked]
    rfl
  have bits := Double.shows_unpacked x
  have special : (Double.unpacked x).isNaN = false := isNumber
  have beyond : (Double.unpacked x).isFinite = false := large
  have whole := Double.packed_unpacked x
  refine ⟨?_, ?_⟩
  · cases kind : Double.unpacked x with
    | notANumber => rw [kind] at special; cases special
    | zero => rw [kind] at beyond; cases beyond
    | finite => rw [kind] at beyond; cases beyond
    | infinity s =>
      rw [kind] at bits whole
      cases s with
      | positive => rw [bits.2, ← whole]; exact same
      | negative => rw [bits.2, ← whole]; exact negative
  · show (Double.unpacked infinity).isNaN = false
    rw [unpacked]
    rfl

theorem float_text (x : Float) (mark : Nat) :
    Tag.ofPlain (floatText x) = .float ∧ ScalarText.canBePlain (floatText x) = true ∧
      float mark (floatText x) = .ok (.num x) := by
  cases isNumber : x.isNaN with
  | true =>
    have text : floatText x = ".nan".toList := by
      rw [floatText, isNumber]
      rfl
    have plain : Tag.ofPlain ".nan".toList = .float ∧ ScalarText.canBePlain ".nan".toList = true ∧
        lowerCase (".nan".toList.filter (· ≠ '_')) = ".nan".toList := by decide +kernel
    have same : x = notANumber := by
      have none : x = Float.nan := by simpa using isNumber
      rw [none]
      rfl
    rw [text]
    refine ⟨plain.1, plain.2.1, ?_⟩
    rw [float, plain.2.2, same]
    rfl
  | false =>
  cases finite : x.isFinite with
  | true =>
    obtain ⟨whole, part, power, e, y, pointed, text, value, signed, some⟩ := floatText_shape finite
    have number := pointed.isNumber
    have colon : (whole ++ '.' :: (part ++ power)).contains ':' = false := by
      rw [← Bool.not_eq_true, List.contains_iff_mem]
      exact number.absent false rfl (by decide)
    have read := double_of_number number value
    have starts := number.startsNumber_eq false
    have inf : whole ++ '.' :: (part ++ power) ≠ ".inf".toList := by
      intro same
      rw [minus, if_neg (by decide), List.nil_append, same] at starts
      cases starts
    have nan : whole ++ '.' :: (part ++ power) ≠ ".nan".toList := by
      intro same
      rw [minus, if_neg (by decide), List.nil_append, same] at starts
      cases starts
    have nonempty : (minus (signBit x) ++ (whole ++ '.' :: (part ++ power))).isEmpty = false := by
      simp
    rw [text]
    refine ⟨pointed.ofPlain_eq _, number.canBePlain _, ?_⟩
    rw [float, number.withoutUnderscores, number.lowerCase_eq, number.signed_eq]
    dsimp only
    rw [nonempty, if_neg (by decide), if_neg inf, if_neg nan, colon, if_neg (by decide), read]
    show Except.ok (if y.isNaN then Datum.nan mark else .num (if signBit x then -y else y)) = _
    rw [some, if_neg (by decide), signed]
  | false =>
    obtain ⟨value, infinite⟩ := infinite_eq isNumber finite
    have tags : ∀ negative : Bool,
        Tag.ofPlain (if negative then "-.inf" else ".inf").toList = .float ∧
          ScalarText.canBePlain (if negative then "-.inf" else ".inf").toList = true := by
      decide +kernel
    have text : floatText x = (if signBit x then "-.inf" else ".inf").toList := by
      rw [floatText, isNumber, finite]
      rfl
    have plain : ∀ negative : Bool, let text := (if negative then "-.inf" else ".inf").toList
        lowerCase (text.filter (· ≠ '_')) = text ∧ text.isEmpty = false ∧
          Numeral.signed text = (negative, ".inf".toList) := by decide +kernel
    obtain ⟨lower, nonempty, sign⟩ := plain (signBit x)
    rw [text]
    refine ⟨(tags _).1, (tags _).2, ?_⟩
    rw [float, lower, sign]
    dsimp only
    rw [nonempty, if_neg (by decide), if_pos rfl, infinite, if_neg Bool.false_ne_true, value]

end Scalar

end AgentWire.Yaml
