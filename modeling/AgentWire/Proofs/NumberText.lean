import AgentWire.Json.Reader
import AgentWire.Json.Writer
import AgentWire.Proofs.Decimals
/-!
Written numbers. A number that is written is read back, whatever follows that does not go on with
it: an integer as that integer, a finite double as the very same double.
-/
namespace AgentWire

namespace NumberText

theorem toDigits_isDigit {n : Nat} : ∀ c ∈ Nat.toDigits 10 n, c.isDigit = true := by
  intro c inside
  exact Nat.isDigit_of_mem_toDigits (by decide) (by decide) inside

/-- Only zero is written with a zero in front. -/
theorem toDigits_head {n : Nat} (positive : 0 < n) {c : Char} {rest : List Char}
    (written : Nat.toDigits 10 n = c :: rest) : c ≠ '0' := by
  induction n using Nat.strongRecOn generalizing c rest with
  | ind n ih =>
    by_cases small : n < 10
    · rw [Nat.toDigits_of_lt_base small] at written
      have first : ∀ k < 10, 0 < k → Nat.digitChar k ≠ '0' := by decide
      cases written
      exact first n small positive
    · rw [Nat.toDigits_of_base_le (by decide) (by omega)] at written
      cases front : Nat.toDigits 10 (n / 10) with
      | nil => exact absurd front Nat.toDigits_ne_nil
      | cons d more =>
        rw [front] at written
        cases written
        exact ih (n / 10) (by omega) (by omega) front

end NumberText

namespace Json

open NumberText

/-- The text goes on with something else than a digit. -/
def NoDigit (rest : List Char) : Prop := ∀ c more, rest = c :: more → c.isDigit = false

/-- A digit, a point or the letter of an exponent would go on with a number. -/
def NumberEnds (rest : List Char) : Prop :=
  ∀ c more, rest = c :: more → c.isDigit = false ∧ c ≠ '.' ∧ c ≠ 'e' ∧ c ≠ 'E'

theorem NumberEnds.noDigit {rest : List Char} (ends : NumberEnds rest) : NoDigit rest := by
  intro c more text
  exact (ends c more text).1

theorem noDigit_cons {c : Char} {rest : List Char} (other : c.isDigit = false) :
    NoDigit (c :: rest) := by
  intro d more text
  cases text
  exact other

theorem digits_append {ds rest : List Char} (all : ∀ c ∈ ds, c.isDigit = true)
    (ends : NoDigit rest) :
    digits (ds ++ rest) = (ds, rest) := by
  rw [digits, List.span_eq_takeWhile_dropWhile, List.takeWhile_append_of_pos all,
    List.dropWhile_append_of_pos all]
  cases rest with
  | nil => simp
  | cons c more => simp [ends c more rfl]

/-- The integer part of a number. A zero in front stands alone. -/
structure Whole (ds : List Char) : Prop where
  some : ds ≠ []
  all : ∀ c ∈ ds, c.isDigit = true
  alone : ∀ more, ds = '0' :: more → more = []

theorem zero_isDigit : ∀ c ∈ ['0'], c.isDigit = true :=
  List.forall_mem_singleton.mpr rfl

theorem whole_zero : Whole ['0'] :=
  ⟨List.cons_ne_nil _ _, zero_isDigit, by simp⟩

theorem whole_toDigits (n : Nat) : Whole (Nat.toDigits 10 n) := by
  refine ⟨Nat.toDigits_ne_nil, toDigits_isDigit, ?_⟩
  intro more written
  by_cases zero : n = 0
  · subst zero
    cases written
    rfl
  · exact absurd rfl (toDigits_head (Nat.pos_of_ne_zero zero) written)

theorem integerPart_append {ds rest : List Char} (whole : Whole ds) (ends : NoDigit rest) :
    integerPart? (ds ++ rest) = some (ds, rest) := by
  obtain ⟨some, all, alone⟩ := whole
  cases ds with
  | nil => contradiction
  | cons c more =>
    by_cases zero : c = '0'
    · subst zero
      rw [alone more rfl]
      rfl
    · have digit := all c List.mem_cons_self
      rw [List.cons_append, integerPart?.eq_2 _ _ (by simpa using zero), if_pos digit,
        ← List.cons_append, digits_append all ends]

theorem fraction_append {ds rest : List Char} (some : ds ≠ []) (all : ∀ c ∈ ds, c.isDigit = true)
    (ends : NoDigit rest) : fraction? ('.' :: (ds ++ rest)) = .some (ds, rest) := by
  rw [fraction?, digits_append all ends]
  cases ds with
  | nil => contradiction
  | cons c more => rfl

theorem fraction_none {rest : List Char} (other : ∀ more, rest ≠ '.' :: more) :
    fraction? rest = none := by
  unfold fraction?
  split
  · exact absurd rfl (other _)
  · rfl

theorem exponent_append {ds rest : List Char} (negative : Bool) (some : ds ≠ [])
    (all : ∀ c ∈ ds, c.isDigit = true) (ends : NoDigit rest) :
    exponent? ('e' :: (if negative then '-' else '+') :: (ds ++ rest)) =
      .some (if negative then -(Nat.ofDigitChars 10 ds 0 : Int) else Nat.ofDigitChars 10 ds 0,
        rest) := by
  have read := digits_append all ends
  cases ds with
  | nil => contradiction
  | cons c more =>
    rw [List.cons_append] at read ⊢
    cases negative <;> simp [exponent?, read]

theorem exponent_none {rest : List Char} (other : ∀ c more, rest = c :: more → c ≠ 'e' ∧ c ≠ 'E') :
    exponent? rest = none := by
  cases rest with
  | nil => rfl
  | cons c more => simp [exponent?, other c more rfl]

def minus (negative : Bool) : List Char := if negative then ['-'] else []

/-- A number without a sign, or after one. -/
theorem number_minus (negative : Bool) {unsigned : List Char}
    (digit : ∀ more, unsigned ≠ '-' :: more) :
    number? (minus negative ++ unsigned) = (do
      let (whole, rest) ← integerPart? unsigned
      let (part, rest) := (fraction? rest).getD ([], rest)
      let (power, rest) := match exponent? rest with
        | some (e, more) => (some e, more)
        | none => (none, rest)
      if part.isEmpty && power.isNone then
        let n : Int := Nat.ofDigitChars 10 whole 0
        return (.int (if negative then -n else n), rest)
      else
        let x := Decimal.toFloat ⟨Nat.ofDigitChars 10 (whole ++ part) 0, power.getD 0 - part.length⟩
        return (.num (if negative then -x else x), rest)) := by
  cases negative with
  | true => rfl
  | false =>
    simp only [minus, Bool.false_eq_true, if_false, List.nil_append]
    rw [number?]
    · rfl
    · exact digit

theorem Whole.append_not_minus {ds : List Char} (whole : Whole ds) (rest more : List Char) :
    ds ++ rest ≠ '-' :: more := by
  intro text
  cases ds with
  | nil => exact whole.some rfl
  | cons c ds =>
    cases text
    have digit := whole.all '-' List.mem_cons_self
    contradiction

theorem NumberEnds.fraction_none {rest : List Char} (ends : NumberEnds rest) :
    fraction? rest = none := by
  apply Json.fraction_none
  intro more text
  exact (ends _ _ text).2.1 rfl

theorem NumberEnds.exponent_none {rest : List Char} (ends : NumberEnds rest) :
    exponent? rest = none := by
  apply Json.exponent_none
  intro c more text
  exact (ends c more text).2.2

theorem number_integer (negative : Bool) {ds rest : List Char} (whole : Whole ds)
    (ends : NumberEnds rest) :
    number? (minus negative ++ (ds ++ rest)) =
      some (.int (if negative then -(Nat.ofDigitChars 10 ds 0 : Int) else Nat.ofDigitChars 10 ds 0),
        rest) := by
  rw [number_minus negative (whole.append_not_minus rest), integerPart_append whole ends.noDigit]
  simp [ends.fraction_none, ends.exponent_none]

theorem number_fraction (negative : Bool) {ds part rest : List Char} (whole : Whole ds)
    (some : part ≠ []) (all : ∀ c ∈ part, c.isDigit = true) (ends : NumberEnds rest) :
    number? (minus negative ++ (ds ++ '.' :: (part ++ rest))) =
      .some (.num (if negative then
        -Decimal.toFloat ⟨Nat.ofDigitChars 10 (ds ++ part) 0, -part.length⟩
        else Decimal.toFloat ⟨Nat.ofDigitChars 10 (ds ++ part) 0, -part.length⟩), rest) := by
  rw [number_minus negative (whole.append_not_minus _),
    integerPart_append whole (noDigit_cons (by decide))]
  simp [fraction_append some all ends.noDigit, ends.exponent_none, some]

theorem number_exponent (negative : Bool) {ds part tail power rest : List Char} (whole : Whole ds)
    (fraction : (fraction? (tail ++ 'e' :: power)).getD ([], tail ++ 'e' :: power) =
      (part, 'e' :: power))
    (follows : NoDigit (tail ++ 'e' :: power)) {n : Int}
    (exponent : exponent? ('e' :: power) = some (n, rest)) :
    number? (minus negative ++ (ds ++ (tail ++ 'e' :: power))) =
      some (.num (if negative then
        -Decimal.toFloat ⟨Nat.ofDigitChars 10 (ds ++ part) 0, n - part.length⟩
        else Decimal.toFloat ⟨Nat.ofDigitChars 10 (ds ++ part) 0, n - part.length⟩), rest) := by
  rw [number_minus negative (whole.append_not_minus _), integerPart_append whole follows]
  simp [fraction, exponent]

theorem number_writeInt (i : Int) {rest : List Char} (ends : NumberEnds rest) :
    number? (writeInt i ++ rest) = some (.int i, rest) := by
  have text : writeInt i ++ rest =
      minus (decide (i < 0)) ++ (Nat.toDigits 10 i.natAbs ++ rest) := by
    simp [writeInt, minus]
  rw [text, number_integer _ (whole_toDigits _) ends, Nat.ofDigitChars_ten_toDigits]
  have magnitude : (if decide (i < 0) = true then -(i.natAbs : Int) else i.natAbs) = i := by
    split <;> rename_i sign <;> simp only [decide_eq_true_eq] at sign <;> omega
  rw [magnitude]

/-- Digits with zeros in front have the value of the digits. -/
theorem ofDigitChars_zeros (zeros : Nat) (ds : List Char) :
    Nat.ofDigitChars 10 (List.replicate zeros '0' ++ ds) 0 = Nat.ofDigitChars 10 ds 0 := by
  rw [Nat.ofDigitChars_append, Nat.ofDigitChars_replicate_zero, Nat.mul_zero]

theorem zeros_isDigit {zeros : Nat} : ∀ c ∈ List.replicate zeros '0', c.isDigit = true := by
  intro c inside
  rw [List.eq_of_mem_replicate inside]
  rfl

theorem append_isDigit {ds es : List Char} (first : ∀ c ∈ ds, c.isDigit = true)
    (second : ∀ c ∈ es, c.isDigit = true) :
    ∀ c ∈ ds ++ es, c.isDigit = true := by
  intro c inside
  rcases List.mem_append.mp inside with inside | inside
  · exact first c inside
  · exact second c inside

theorem Whole.append {ds es : List Char} (whole : Whole ds) (all : ∀ c ∈ es, c.isDigit = true)
    (nonzero : ∀ more, ds ≠ '0' :: more) : Whole (ds ++ es) := by
  refine ⟨by simp [whole.some], append_isDigit whole.all all, ?_⟩
  intro more text
  cases ds with
  | nil => exact absurd rfl whole.some
  | cons c rest =>
    cases text
    exact absurd rfl (nonzero rest)

theorem whole_take {n k : Nat} (positive : 0 < n) (some : 0 < k) :
    Whole ((Nat.toDigits 10 n).take k) := by
  refine ⟨?_, fun c inside => toDigits_isDigit c (List.mem_of_mem_take inside), ?_⟩
  · have nonempty : Nat.toDigits 10 n ≠ [] := Nat.toDigits_ne_nil
    simp [nonempty]
    omega
  · intro more text
    cases written : Nat.toDigits 10 n with
    | nil => exact absurd written Nat.toDigits_ne_nil
    | cons c rest =>
      obtain ⟨j, rfl⟩ : ∃ j, k = j + 1 := ⟨k - 1, by omega⟩
      rw [written, List.take_succ_cons] at text
      cases text
      exact absurd rfl (toDigits_head positive written)

theorem whole_singleton {n : Nat} {c : Char} {ds : List Char}
    (written : Nat.toDigits 10 n = c :: ds) : Whole [c] := by
  have digit := toDigits_isDigit c (written ▸ List.mem_cons_self)
  refine ⟨List.cons_ne_nil _ _, List.forall_mem_singleton.mpr digit, ?_⟩
  intro more text
  cases text
  rfl

theorem ofDigitChars_zeros_behind (ds : List Char) (k : Nat) :
    Nat.ofDigitChars 10 (ds ++ List.replicate k '0' ++ ['0']) 0 =
      10 ^ (k + 1) * Nat.ofDigitChars 10 ds 0 := by
  have zeros : ds ++ List.replicate k '0' ++ ['0'] = ds ++ List.replicate (k + 1) '0' := by
    rw [List.append_assoc, ← List.replicate_succ']
  rw [zeros, Nat.ofDigitChars_append, Nat.ofDigitChars_replicate_zero]

/-- An integer with one more zero, behind the point. -/
theorem toFloat_tenfold {n : Nat} {e : Int} (integral : 0 ≤ e) :
    Decimal.toFloat ⟨10 ^ (e.toNat + 1) * n, -1⟩ = Decimal.toFloat ⟨n, e⟩ := by
  apply Decimal.toFloat_congr
  have power : (10 : ℚ) ^ e = 10 ^ e.toNat := by
    rw [← zpow_natCast, Int.toNat_of_nonneg integral]
  simp only [Decimal.value, power]
  push_cast
  rw [zpow_neg_one, pow_succ]
  ring

/-- A positional text has digits on both sides of its point, which make up its decimal. -/
theorem positional_shape {d : Decimal} (written : 0 < d.digits ∨ d = ⟨0, 0⟩) :
    ∃ whole part, Whole whole ∧ part ≠ [] ∧ (∀ c ∈ part, c.isDigit = true) ∧
      positional (Nat.toDigits 10 d.digits) ((Nat.toDigits 10 d.digits).length + d.exponent) =
        whole ++ '.' :: part ∧
      Decimal.toFloat ⟨Nat.ofDigitChars 10 (whole ++ part) 0, -part.length⟩ = d.toFloat := by
  obtain ⟨n, e⟩ := d
  have value : Nat.ofDigitChars 10 (Nat.toDigits 10 n) 0 = n := Nat.ofDigitChars_ten_toDigits
  have all := toDigits_isDigit (n := n)
  have whole := whole_toDigits n
  have some : Nat.toDigits 10 n ≠ [] := Nat.toDigits_ne_nil
  dsimp only at *
  generalize digits_eq : Nat.toDigits 10 n = ds at *
  generalize place : (ds.length : Int) + e = k
  rw [positional]
  split
  · -- below one: zeros stand between the point and the digits
    have behind : List.replicate (-k).toNat '0' ++ ds ≠ [] := by simp [some]
    refine ⟨['0'], _, whole_zero, behind, append_isDigit zeros_isDigit all, rfl, ?_⟩
    have exactly : Nat.ofDigitChars 10 (['0'] ++ (List.replicate (-k).toNat '0' ++ ds)) 0 = n := by
      rw [Nat.ofDigitChars_append]
      exact (ofDigitChars_zeros _ _).trans value
    have exponent : -((List.replicate (-k).toNat '0' ++ ds).length : Int) = e := by
      rw [List.length_append, List.length_replicate]
      omega
    rw [exactly, exponent]
  split
  · -- an integer: zeros stand for its last digits, and one behind the point
    rename_i above long
    have front : Whole (ds ++ List.replicate (k.toNat - ds.length) '0') := by
      rcases written with positive | zero
      · apply whole.append zeros_isDigit
        intro more text
        exact absurd rfl (toDigits_head positive (digits_eq.trans text))
      · cases zero
        cases digits_eq
        have none : k.toNat - 1 = 0 := by
          simp at place
          omega
        simpa [none] using whole_zero
    refine ⟨_, ['0'], front, List.cons_ne_nil _ _, zero_isDigit, rfl, ?_⟩
    have zeros : k.toNat - ds.length = e.toNat := by omega
    have exponent : -(['0'].length : Int) = -1 := rfl
    rw [exponent, zeros, ofDigitChars_zeros_behind, value]
    exact toFloat_tenfold (by omega)
  · -- the point stands among the digits
    rename_i above short
    have positive : 0 < n := by
      rcases written with positive | zero
      · exact positive
      · cases zero
        cases digits_eq
        simp at place short
        omega
    have front : Whole (ds.take k.toNat) := digits_eq ▸ whole_take positive (by omega)
    have behind : ds.drop k.toNat ≠ [] := by
      simp
      omega
    refine ⟨_, _, front, behind, fun c inside => all c (List.mem_of_mem_drop inside), rfl, ?_⟩
    have exponent : -((ds.drop k.toNat).length : Int) = e := by
      rw [List.length_drop]
      omega
    rw [List.take_append_drop, value, exponent]

theorem number_positional (negative : Bool) {d : Decimal} (written : 0 < d.digits ∨ d = ⟨0, 0⟩)
    {rest : List Char} (ends : NumberEnds rest) :
    number? (minus negative ++ (positional (Nat.toDigits 10 d.digits)
        ((Nat.toDigits 10 d.digits).length + d.exponent) ++ rest)) =
      some (.num (if negative then -d.toFloat else d.toFloat), rest) := by
  obtain ⟨whole, part, front, behind, all, text, value⟩ := positional_shape written
  have read := number_fraction negative front behind all ends
  rw [value] at read
  rw [text, List.append_assoc]
  exact read

theorem exponent_padded (width : Nat) (lead : Int) {rest : List Char} (ends : NumberEnds rest) :
    exponent? ('e' :: (if lead < 0 then '-' else '+') :: (padded width lead.natAbs ++ rest)) =
      some (lead, rest) := by
  have value : Nat.ofDigitChars 10 (padded width lead.natAbs) 0 = lead.natAbs := by
    rw [padded, ofDigitChars_zeros, Nat.ofDigitChars_ten_toDigits]
  have some : padded width lead.natAbs ≠ [] := by simp [padded]
  have all : ∀ c ∈ padded width lead.natAbs, c.isDigit = true :=
    append_isDigit zeros_isDigit toDigits_isDigit
  have read := exponent_append (decide (lead < 0)) some all ends.noDigit
  have signed : (if decide (lead < 0) = true then -(lead.natAbs : Int) else lead.natAbs) =
      lead := by
    split <;> rename_i sign <;> simp only [decide_eq_true_eq] at sign <;> omega
  rw [value, signed] at read
  simpa using read

theorem number_exponential (negative : Bool) {d : Decimal} (positive : 0 < d.digits) {c : Char}
    {ds : List Char} (digits : Nat.toDigits 10 d.digits = c :: ds) (width : Nat) {lead : Int}
    (place : lead = ds.length + d.exponent) {rest : List Char} (ends : NumberEnds rest) :
    number? (minus negative ++ ([c] ++ ((if ds = [] then [] else '.' :: ds) ++
        'e' :: (if lead < 0 then '-' else '+') :: (padded width lead.natAbs ++ rest)))) =
      some (.num (if negative then -d.toFloat else d.toFloat), rest) := by
  obtain ⟨n, e⟩ := d
  have value : Nat.ofDigitChars 10 (c :: ds) 0 = n := digits ▸ Nat.ofDigitChars_ten_toDigits
  have all : ∀ b ∈ c :: ds, b.isDigit = true := digits ▸ toDigits_isDigit
  have first := whole_singleton digits
  have power := exponent_padded width lead ends
  generalize (if lead < 0 then '-' else '+') :: (padded width lead.natAbs ++ rest) = tail at *
  by_cases alone : ds = []
  · subst alone
    have no_part : (fraction? ([] ++ 'e' :: tail)).getD ([], [] ++ 'e' :: tail) =
        ([], 'e' :: tail) := rfl
    have read := number_exponent negative first no_part (noDigit_cons (by decide)) power
    rw [List.append_nil, value, List.length_nil, Nat.cast_zero, sub_zero, place, List.length_nil,
      Nat.cast_zero, zero_add] at read
    exact read
  · have joined : Nat.ofDigitChars 10 ([c] ++ ds) 0 = n := value
    have letter : NoDigit ('e' :: tail) := noDigit_cons (by decide)
    have some_part :=
      fraction_append alone (fun b inside => all b (List.mem_cons_of_mem _ inside)) letter
    have part : (fraction? (('.' :: ds) ++ 'e' :: tail)).getD ([], ('.' :: ds) ++ 'e' :: tail) =
        (ds, 'e' :: tail) := by
      rw [List.cons_append, some_part]
      rfl
    have read := number_exponent negative first part (noDigit_cons (by decide)) power
    rw [joined, place, add_sub_cancel_left] at read
    rw [if_neg alone]
    exact read

/-- A laid out decimal is read as that decimal. -/
theorem number_layOut (negative : Bool) {d : Decimal} (written : 0 < d.digits ∨ d = ⟨0, 0⟩)
    {rest : List Char} (ends : NumberEnds rest) :
    number? (minus negative ++ (layOut number d ++ rest)) =
      some (.num (if negative then -d.toFloat else d.toFloat), rest) := by
  rw [layOut]
  split
  · have place : ((Nat.toDigits 10 d.digits).length : Int) + d.exponent - 1 + 1 =
        (Nat.toDigits 10 d.digits).length + d.exponent := by omega
    rw [place]
    exact number_positional negative written ends
  · rename_i far
    have positive : 0 < d.digits := by
      rcases written with positive | zero
      · exact positive
      · subst zero
        contradiction
    cases digits : Nat.toDigits 10 d.digits with
    | nil => exact absurd digits Nat.toDigits_ne_nil
    | cons c ds =>
      have place : ((c :: ds).length : Int) + d.exponent - 1 = ds.length + d.exponent := by
        rw [List.length_cons]
        omega
      have read := number_exponential negative positive digits number.exponentWidth place ends
      cases ds <;> simpa using read

/-! What a number that is read has been put together from. -/

theorem digits_eq {cs ds rest : List Char} (read : digits cs = (ds, rest)) :
    cs = ds ++ rest ∧ ∀ c ∈ ds, c.isDigit = true := by
  rw [digits, List.span_eq_takeWhile_dropWhile] at read
  cases read
  exact ⟨List.takeWhile_append_dropWhile.symm, fun c inside => List.mem_takeWhile_imp inside⟩

theorem whole_of_integerPart {cs ds rest : List Char} (read : integerPart? cs = some (ds, rest)) :
    cs = ds ++ rest ∧ Whole ds := by
  unfold integerPart? at read
  split at read
  · cases read
    exact ⟨rfl, whole_zero⟩
  · rename_i c more other
    split at read
    · rename_i digit
      obtain ⟨same, all⟩ := digits_eq (Option.some.inj read)
      refine ⟨same, ?_, all, ?_⟩
      · rintro rfl
        have first := List.span_eq_takeWhile_dropWhile (p := Char.isDigit) (l := c :: more)
        rw [digits, first, List.takeWhile_cons_of_pos digit] at read
        cases read
      · rintro tail rfl
        cases same
        exact (other rfl).elim
    · cases read
  · cases read

theorem fraction_eq_some {cs ds rest : List Char} (read : fraction? cs = some (ds, rest)) :
    ds ≠ [] ∧ (∀ c ∈ ds, c.isDigit = true) ∧ cs = '.' :: (ds ++ rest) := by
  unfold fraction? at read
  split at read
  · split at read
    · cases read
    · rename_i some digits
      cases read
      obtain ⟨rfl, all⟩ := digits_eq digits
      exact ⟨fun none => some (by rw [none]), all, rfl⟩
  · cases read

theorem exponent_eq_some {cs rest : List Char} {n : Int} (read : exponent? cs = some (n, rest)) :
    ∃ c ds, (c = 'e' ∨ c = 'E') ∧ ds ≠ [] ∧ (∀ c ∈ ds, c.isDigit = true) ∧
      (cs = c :: '-' :: (ds ++ rest) ∧ n = -(Nat.ofDigitChars 10 ds 0 : Int) ∨
        cs = c :: '+' :: (ds ++ rest) ∧ n = Nat.ofDigitChars 10 ds 0 ∨
        cs = c :: (ds ++ rest) ∧ n = Nat.ofDigitChars 10 ds 0) := by
  unfold exponent? at read
  split at read
  · rename_i c tail
    split at read
    · rename_i letter
      rw [Bool.or_eq_true, decide_eq_true_iff, decide_eq_true_iff] at letter
      split at read
      rename_i negative inner sign
      split at read
      · cases read
      · rename_i some digits
        obtain ⟨rfl, all⟩ := digits_eq digits
        refine ⟨c, _, letter, some, all, ?_⟩
        split at sign <;> cases sign <;> cases read
        · exact .inl ⟨rfl, rfl⟩
        · exact .inr (.inl ⟨rfl, rfl⟩)
        · exact .inr (.inr ⟨rfl, rfl⟩)
    · cases read
  · cases read

/-- The number that the digits before and after a point make, and what is left of the text behind
them. -/
inductive NumberEnd (negative : Bool) (whole part more : List Char) : Json → List Char → Prop
  | integer (empty : part = []) (unscaled : exponent? more = none) :
      NumberEnd negative whole part more
        (.int (if negative then -(Nat.ofDigitChars 10 whole 0 : Int)
          else Nat.ofDigitChars 10 whole 0)) more
  | pointed (digits : part ≠ []) (unscaled : exponent? more = none) :
      NumberEnd negative whole part more
        (.num (if negative then -Decimal.toFloat ⟨Nat.ofDigitChars 10 (whole ++ part) 0,
          0 - part.length⟩
          else Decimal.toFloat ⟨Nat.ofDigitChars 10 (whole ++ part) 0, 0 - part.length⟩)) more
  | scaled {e : Int} {rest : List Char} (scale : exponent? more = some (e, rest)) :
      NumberEnd negative whole part more
      (.num (if negative then -Decimal.toFloat ⟨Nat.ofDigitChars 10 (whole ++ part) 0,
        e - part.length⟩
        else Decimal.toFloat ⟨Nat.ofDigitChars 10 (whole ++ part) 0, e - part.length⟩)) rest

theorem number_cases {cs rest : List Char} {j : Json} (read : number? cs = some (j, rest)) :
    ∃ negative unsigned whole tail, cs = minus negative ++ unsigned ∧
      integerPart? unsigned = some (whole, tail) ∧
      NumberEnd negative whole ((fraction? tail).getD ([], tail)).1
        ((fraction? tail).getD ([], tail)).2 j rest := by
  unfold number? at read
  split at read
  rename_i negative unsigned sign
  simp only [Option.bind_eq_bind, Option.bind_eq_some_iff] at read
  obtain ⟨⟨whole, tail⟩, found, read⟩ := read
  have text : cs = minus negative ++ unsigned := by
    split at sign <;> cases sign <;> rfl
  refine ⟨negative, unsigned, whole, tail, text, found, ?_⟩
  dsimp only at read
  generalize (fraction? tail).getD ([], tail) = part at read
  cases power : exponent? part.2 with
  | none =>
    rw [power] at read
    dsimp only at read
    split at read
    · rename_i integral
      rw [Bool.and_eq_true, List.isEmpty_iff] at integral
      cases read
      exact .integer integral.1 power
    · rename_i other
      cases read
      refine .pointed (fun none => other ?_) power
      rw [none]
      rfl
  | some both =>
    obtain ⟨e, more⟩ := both
    rw [power] at read
    dsimp only at read
    rw [Option.isNone_some, Bool.and_false, if_neg Bool.false_ne_true] at read
    cases read
    exact .scaled power

end Json

namespace Shortest

open Double

theorem toFloat_zero {d : Decimal} (zero : d.digits = 0) :
    Dyadic.ofFloat d.toFloat = ⟨0, -1074⟩ := by
  have same : d.toFloat = (⟨0, 0⟩ : Decimal).toFloat := by
    apply Decimal.toFloat_congr
    simp [Decimal.value, zero]
  rw [same]
  rfl

/-- What is read as a double that is not zero has digits, and keeps what it is read as when
normalised. -/
theorem normalize_read {d : Decimal} {v : Dyadic} (nonzero : v.mantissa ≠ 0)
    (read : Dyadic.ofFloat d.toFloat = v) :
    0 < d.normalize.digits ∧ Dyadic.ofFloat d.normalize.toFloat = v := by
  have some : d.digits ≠ 0 := by
    intro zero
    rw [toFloat_zero zero] at read
    rw [← read] at nonzero
    contradiction
  have full := Decimal.normalize_full some
  refine ⟨by omega, ?_⟩
  rw [Decimal.toFloat_congr (Decimal.value_normalize d)]
  exact read

theorem withDigits_read {v : Dyadic} {k : Int} {n : Nat} {d : Decimal}
    (found : withDigits v k n = some d) :
    Dyadic.ofFloat d.toFloat = v := by
  have fits := List.find?_some found
  simpa using fits

/-- Written out in full, a magnitude keeps its value. -/
theorem value_toDecimal (m : Nat) (e : Int) : (Dyadic.toDecimal ⟨m, e⟩).value = m * 2 ^ e := by
  rw [Dyadic.toDecimal]
  split <;> rename_i sign <;> dsimp only at sign
  · have power : (10 : ℚ) ^ e = 2 ^ e * ((5 : ℚ) ^ (-e).toNat)⁻¹ := by
      rw [← zpow_natCast, ← zpow_neg, Int.toNat_of_nonneg (by omega), neg_neg, ← mul_zpow]
      norm_num
    simp only [Decimal.value, Nat.pow_eq]
    push_cast
    rw [power]
    field_simp
  · have power : (2 : ℚ) ^ e = 2 ^ e.toNat := by
      rw [← zpow_natCast]
      congr 1
      omega
    simp only [Decimal.value, Nat.shiftLeft_eq]
    push_cast
    rw [power]
    simp

theorem placed_ofFloat {x : Float} (finite : x.isFinite = true)
    (nonzero : (Dyadic.ofFloat x).mantissa ≠ 0) :
    Placed (Dyadic.ofFloat x).mantissa (Dyadic.ofFloat x).exponent := by
  have bits := shows_unpacked x
  have canonical := canonical_unpacked x
  have exponent := (isFinite_iff x).mp finite
  generalize unpacked x = u at bits canonical
  cases canonical with
  | notANumber =>
    rw [show (Dyadic.ofFloat x).exponent = 972 from bits] at exponent
    contradiction
  | infinity s =>
    rw [bits.1] at exponent
    contradiction
  | zero s =>
    rw [bits.1] at nonzero
    contradiction
  | finite s positive placed high =>
    rw [bits.1]
    exact placed

theorem ofFloat_zero {x : Float} (zero : (Dyadic.ofFloat x).mantissa = 0) :
    Dyadic.ofFloat x = ⟨0, -1074⟩ := by
  simp only [Dyadic.ofFloat] at zero ⊢
  split at zero
  · rename_i least
    rw [if_pos least]
    exact congrArg (Dyadic.mk · (-1074)) zero
  · simp at zero

/-- The shortest decimal of a finite double is read as its magnitude. -/
theorem ofMagnitude_read {x : Float} (finite : x.isFinite = true) :
    (0 < (ofMagnitude (Dyadic.ofFloat x)).digits ∨ ofMagnitude (Dyadic.ofFloat x) = ⟨0, 0⟩) ∧
      Dyadic.ofFloat (ofMagnitude (Dyadic.ofFloat x)).toFloat = Dyadic.ofFloat x := by
  by_cases zero : (Dyadic.ofFloat x).mantissa = 0
  · rw [ofMagnitude, if_pos zero, ofFloat_zero zero]
    exact ⟨.inr rfl, rfl⟩
  · have placed := placed_ofFloat finite zero
    have high := (isFinite_iff x).mp finite
    generalize Dyadic.ofFloat x = v at *
    rw [ofMagnitude, if_neg zero]
    cases found : (List.range 17).findSome? fun n =>
      withDigits v (scale v.quotient.1 v.quotient.2) (n + 1) with
    | some d =>
      obtain ⟨n, -, fits⟩ := List.exists_of_findSome?_eq_some found
      have read := normalize_read zero (withDigits_read fits)
      simp only [found, Option.getD_some]
      exact ⟨.inl read.1, read.2⟩
    | none =>
      have exactly := Decimal.toFloat_exact placed high (value_toDecimal _ _)
      have read := normalize_read zero exactly
      simp only [found, Option.getD_none]
      exact ⟨.inl read.1, read.2⟩

end Shortest

namespace Json

open Double NumberText

/-- The text of a finite double is read as that double. -/
theorem number_finite {x : Float} (finite : x.isFinite = true) {rest : List Char}
    (ends : NumberEnds rest) :
    number? (NumberText.finite x ++ rest) = some (.num x, rest) := by
  obtain ⟨written, magnitude⟩ := Shortest.ofMagnitude_read finite
  have positive := Decimal.signBit_toFloat (Shortest.ofMagnitude (Dyadic.ofFloat x))
  have text : NumberText.finite x ++ rest =
      minus (signBit x) ++ (layOut number (Shortest.ofMagnitude (Dyadic.ofFloat x)) ++ rest) := by
    simp [NumberText.finite, minus]
  rw [text, number_layOut _ written ends]
  generalize (Shortest.ofMagnitude (Dyadic.ofFloat x)).toFloat = y at *
  have finite_y : y.isFinite = true := by
    rw [isFinite_iff, magnitude]
    exact (isFinite_iff x).mp finite
  cases sign : signBit x with
  | true =>
    have negated := neg_bits y finite_y
    have same := eq_of_magnitude (y := -y) finite (by rw [negated.2, positive, sign]; rfl)
      (negated.1.trans magnitude)
    rw [if_pos rfl, same]
  | false =>
    have same := eq_of_magnitude finite (by rw [positive, sign]) magnitude
    rw [if_neg (by decide), same]

end Json
end AgentWire
