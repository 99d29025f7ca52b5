import AgentWire.Proofs.Rounding
/-!
Reading decimals. A decimal is read as the double nearest to its value, and only the value counts: a
double's own value is read as that double, what is too large as infinity, and nothing as a negative
double or as no number.
-/
namespace AgentWire

open Float.Model Float.Model.UnpackedFloat

namespace Decimal

def value (d : Decimal) : ℚ := d.digits * 10 ^ d.exponent

theorem value_strip (fuel n : Nat) (e : Int) : (strip fuel n e).value = n * 10 ^ e := by
  induction fuel generalizing n e with
  | zero => rfl
  | succ fuel ih =>
    rw [strip]
    split
    · rename_i ends
      have tenth : n = 10 * (n / 10) := by omega
      have scaled : (n : ℚ) = 10 * ((n / 10 : Nat) : ℚ) := by exact_mod_cast tenth
      rw [ih, zpow_add_one₀ (by norm_num : (10 : ℚ) ≠ 0), scaled]
      ring
    · rfl

theorem value_normalize (d : Decimal) : d.normalize.value = d.value := by
  rw [normalize]
  split
  · rename_i zero
    simp [value, zero]
  · exact value_strip _ _ _

theorem strip_full {fuel n : Nat} (e : Int) (positive : 0 < n) (enough : n < 10 ^ fuel) :
    (strip fuel n e).digits % 10 ≠ 0 := by
  induction fuel generalizing n e with
  | zero =>
    simp at enough
    omega
  | succ fuel ih =>
    rw [strip]
    split
    · rename_i ends
      rw [Nat.pow_succ] at enough
      exact ih (e + 1) (by omega) (by omega)
    · assumption

theorem lt_pow_length (n : Nat) : n < 10 ^ (Nat.toDigits 10 n).length := by
  have some : 0 < (Nat.toDigits 10 n).length := List.length_pos_of_ne_nil Nat.toDigits_ne_nil
  exact (Nat.length_toDigits_le_iff (by decide) some).mp le_rfl

theorem pow_length_le {n : Nat} (positive : 0 < n) : 10 ^ ((Nat.toDigits 10 n).length - 1) ≤ n := by
  by_contra less
  by_cases one : (Nat.toDigits 10 n).length - 1 = 0
  · rw [one] at less
    omega
  · have short :=
      (Nat.length_toDigits_le_iff (n := n) (by decide : 1 < 10) (Nat.pos_of_ne_zero one)).mpr
        (by omega)
    omega

theorem normalize_full {d : Decimal} (some : d.digits ≠ 0) : d.normalize.digits % 10 ≠ 0 := by
  rw [normalize, if_neg some]
  exact strip_full _ (Nat.pos_of_ne_zero some) (lt_pow_length _)

/-- A decimal without a zero at its end is settled by its value. -/
theorem exponent_le {n k : Decimal} (full : n.digits % 10 ≠ 0) (same : n.value = k.value) :
    k.exponent ≤ n.exponent := by
  by_contra less
  have apart : ∃ gap : Nat, k.exponent = n.exponent + (gap + 1 : Nat) :=
    ⟨(k.exponent - n.exponent - 1).toNat, by omega⟩
  obtain ⟨gap, apart⟩ := apart
  have power : (10 : ℚ) ^ n.exponent ≠ 0 := by positivity
  have digits : n.digits = k.digits * 10 ^ (gap + 1) := by
    rw [value, value, apart, zpow_add₀ (by norm_num : (10 : ℚ) ≠ 0), zpow_natCast] at same
    have cancelled : (n.digits : ℚ) = k.digits * 10 ^ (gap + 1) :=
      mul_right_cancel₀ power (by linear_combination same)
    exact_mod_cast cancelled
  rw [Nat.pow_succ, ← Nat.mul_assoc] at digits
  omega

theorem eq_of_value {n k : Decimal} (full : n.digits % 10 ≠ 0) (full' : k.digits % 10 ≠ 0)
    (same : n.value = k.value) : n = k := by
  have exponent := le_antisymm (exponent_le full' same.symm) (exponent_le full same)
  obtain ⟨a, e⟩ := n
  obtain ⟨b, f⟩ := k
  subst exponent
  have power : (10 : ℚ) ^ e ≠ 0 := by positivity
  have digits : a = b := by exact_mod_cast mul_right_cancel₀ power same
  rw [digits]

theorem normalize_congr {d k : Decimal} (same : d.value = k.value) : d.normalize = k.normalize := by
  have zero_iff : d.digits = 0 ↔ k.digits = 0 := by
    have power : (10 : ℚ) ^ d.exponent ≠ 0 := by positivity
    have power' : (10 : ℚ) ^ k.exponent ≠ 0 := by positivity
    constructor
    · intro zero
      have none : (k.digits : ℚ) * 10 ^ k.exponent = 0 := by simpa [value, zero] using same.symm
      exact_mod_cast (mul_eq_zero.mp none).resolve_right power'
    · intro zero
      have none : (d.digits : ℚ) * 10 ^ d.exponent = 0 := by simpa [value, zero] using same
      exact_mod_cast (mul_eq_zero.mp none).resolve_right power
  by_cases zero : d.digits = 0
  · rw [normalize, normalize, if_pos zero, if_pos (zero_iff.mp zero)]
  · have some := mt zero_iff.mpr zero
    apply eq_of_value (normalize_full zero) (normalize_full some)
    rw [value_normalize, value_normalize, same]

theorem toFloat_congr {d k : Decimal} (same : d.value = k.value) : d.toFloat = k.toFloat := by
  rw [toFloat, toFloat, normalize_congr same]

end Decimal

namespace Double

/-- Any natural, rounded. -/
theorem rounds_round {n : Nat} (positive : 0 < n) :
    Rounds (UnpackedFloat.round .binary64 .positive n 0) n := by
  have grid := gridOf_eq n 0
  generalize place : gridOf n 0 = g at grid
  generalize shift : (0 - g).toNat = k
  have decreased : UnpackedFloat.round .binary64 .positive n 0 =
      roundWithAccuracy .binary64 .positive (n * 2 ^ k) (0 - (k : Int)) .exact := by
    simp only [UnpackedFloat.round, decreaseExponent, ← Nat.shiftLeft_eq, ← shift, ← place]
    rfl
  have fine : 0 - (k : Int) ≤ gridOf (n * 2 ^ k) (0 - (k : Int)) := by
    have same := gridOf_eq (n * 2 ^ k) (0 - (k : Int))
    rw [log2_mul_two_pow k positive] at same
    omega
  refine ⟨n * 2 ^ k, 0 - (k : Int), .exact, fine, by omega, ?_, decreased⟩
  have whole : (n : ℚ) * 2 ^ (1 - (0 - (k : Int))) = ((2 * (n * 2 ^ k) : Nat) : ℚ) := by
    have powers : (2 : ℚ) ^ (1 - (0 - (k : Int))) = 2 * 2 ^ k := by
      rw [← zpow_natCast, ← zpow_one_add₀ two_ne_zero]
      congr 1
      omega
    rw [powers]
    push_cast
    ring
  rw [whole, Nat.floor_natCast]
  rfl

theorem placed_natural {n : Nat} (positive : 0 < n) (narrow : n < 2 ^ 53) :
    Placed (n * 2 ^ (52 - n.log2)) (n.log2 - 52) := by
  have few : n.log2 < 53 := (Nat.log2_lt (by omega)).mpr narrow
  have bits := log2_mul_two_pow (52 - n.log2) positive
  have full : (n * 2 ^ (52 - n.log2)).log2 = 52 := by omega
  have some : n * 2 ^ (52 - n.log2) ≠ 0 := by positivity
  have bounds := (Nat.log2_eq_iff some).mp full
  exact ⟨by omega, bounds.2, by omega, .inl bounds.1⟩

theorem value_natural {n : Nat} (narrow : n.log2 ≤ 52) (e : Int) :
    ((n * 2 ^ (52 - n.log2) : Nat) : ℚ) * 2 ^ ((n.log2 : Int) - 52 + e) = n * 2 ^ e := by
  have powers : (2 : ℚ) ^ (52 - n.log2) * 2 ^ ((n.log2 : Int) - 52 + e) = 2 ^ e := by
    rw [← zpow_natCast, ← zpow_add₀ two_ne_zero]
    congr 1
    omega
  push_cast
  linear_combination (n : ℚ) * powers

theorem unpacked_of_magnitude {x : Float} {m : Nat} {f : Int} (positive : 0 < m) (finite : f ≤ 971)
    (magnitude : Dyadic.ofFloat x = ⟨m, f⟩) (sign : signBit x = false) :
    unpacked x = .finite .positive m f positive := by
  have bits := shows_unpacked x
  generalize unpacked x = u at bits
  cases u with
  | notANumber =>
    simp [Shows, magnitude] at bits
    omega
  | infinity s =>
    simp [Shows, magnitude] at bits
    omega
  | zero s =>
    simp [Shows, magnitude] at bits
    omega
  | finite s n k other =>
    simp only [Shows, magnitude, sign, Dyadic.mk.injEq] at bits
    obtain ⟨⟨rfl, rfl⟩, plus⟩ := bits
    cases s with
    | positive => rfl
    | negative => contradiction

theorem table_bits (i : Fin 23) :
    Dyadic.ofFloat (getElem Float.exactlyRepresentablePowersOfTen i.val i.isLt) =
        ⟨5 ^ i.val * 2 ^ (52 - (5 ^ i.val).log2), (5 ^ i.val).log2 - 52 + i.val⟩ ∧
      signBit (getElem Float.exactlyRepresentablePowersOfTen i.val i.isLt) = false := by
  revert i
  decide +kernel

/-- A natural below `2 ^ 53` is a double. -/
theorem unpacked_natural {n : Nat} (positive : 0 < n) (narrow : n < 2 ^ 53) :
    unpacked n.toUInt64.toFloat =
      .finite .positive (n * 2 ^ (52 - n.log2)) (n.log2 - 52)
        (placed_natural positive narrow).positive := by
  have placed := placed_natural positive narrow
  have few : n.log2 < 53 := (Nat.log2_lt (by omega)).mpr narrow
  have rounds := rounds_round positive
  have exactly := value_natural (n := n) (by omega) 0
  rw [zpow_zero, mul_one, add_zero] at exactly
  rw [← exactly] at rounds
  have word : n.toUInt64.toNat = n := Nat.mod_eq_of_lt (by omega)
  have order : compare (n : Int) 0 = .gt := by
    rw [compare_gt_iff_gt]
    omega
  have converted : UnpackedFloat.ofUInt64 .binary64 n.toUInt64 =
      UnpackedFloat.round .binary64 .positive n 0 := by
    simp [UnpackedFloat.ofUInt64, UnpackedFloat.ofNat, UnpackedFloat.ofInt, UnpackedFloat.normalize,
      word, order]
  show unpacked (packed (UnpackedFloat.ofUInt64 .binary64 n.toUInt64)) = _
  rw [converted, rounds_exact placed rounds]
  exact unpacked_packed (.finite _ _ placed (by omega))

theorem log2_five_pow {i : Nat} (few : i ≤ 22) : (5 ^ i).log2 < 53 := by
  rw [Nat.log2_lt (by positivity)]
  calc 5 ^ i ≤ 5 ^ 22 := Nat.pow_le_pow_right (by decide) few
    _ < 2 ^ 53 := by decide

theorem unpacked_table {i : Nat} (inside : i < 23) :
    ∃ positive, unpacked (getElem Float.exactlyRepresentablePowersOfTen i inside) =
      .finite .positive (5 ^ i * 2 ^ (52 - (5 ^ i).log2)) ((5 ^ i).log2 - 52 + i) positive := by
  have bits := table_bits ⟨i, inside⟩
  have positive : 0 < 5 ^ i * 2 ^ (52 - (5 ^ i).log2) := by positivity
  have few := log2_five_pow (i := i) (by omega)
  exact ⟨positive, unpacked_of_magnitude positive (by omega) bits.1 bits.2⟩

theorem value_table (i : Nat) (inside : i < 23) :
    ((5 ^ i * 2 ^ (52 - (5 ^ i).log2) : Nat) : ℚ) * 2 ^ (((5 ^ i).log2 : Int) - 52 + i) =
      10 ^ i := by
  have few := log2_five_pow (i := i) (by omega)
  have exactly := value_natural (n := 5 ^ i) (by omega) i
  rw [exactly, zpow_natCast]
  push_cast
  rw [← mul_pow]
  norm_num

/-- Digits and a power of ten, small ones: a double times or by another. -/
theorem ofScientific_small {n i : Nat} (positive : 0 < n) (narrow : n < 2 ^ 53)
    (inside : i ≤ 22) (down : Bool) :
    ∃ u, Rounds u (if down then n / 10 ^ i else n * 10 ^ i) ∧
      Float.ofScientific n down i = packed u := by
  have natural := unpacked_natural positive narrow
  have placed := placed_natural positive narrow
  obtain ⟨table_pos, table⟩ := unpacked_table (i := i) (by omega)
  have few : n.log2 < 53 := (Nat.log2_lt (by omega)).mpr narrow
  have exactly := value_natural (n := n) (by omega) 0
  rw [zpow_zero, mul_one, add_zero] at exactly
  have power := value_table i (by omega)
  have few' := log2_five_pow inside
  rw [Float.ofScientific, dif_pos ⟨narrow, inside⟩]
  cases down with
  | true =>
    have rounds := rounds_div placed.positive table_pos
      (e := n.log2 - 52) (f := (5 ^ i).log2 - 52 + i) (by omega)
    rw [exactly, power] at rounds
    refine ⟨_, rounds, ?_⟩
    rw [← natural, ← table]
    rfl
  | false =>
    have full := placed.full.resolve_right (by omega)
    have wide : 2 ^ 52 ≤ n * 2 ^ (52 - n.log2) * (5 ^ i * 2 ^ (52 - (5 ^ i).log2)) :=
      full.trans (Nat.le_mul_of_pos_right _ table_pos)
    have enough := (Nat.le_log2 (by omega)).mpr wide
    have rounds := rounds_mul placed.positive table_pos
      (e := n.log2 - 52) (f := (5 ^ i).log2 - 52 + i) enough (by omega)
    rw [exactly, power] at rounds
    refine ⟨_, rounds, ?_⟩
    rw [← natural, ← table]
    rfl

theorem rounds_shifted {n p w : Nat} (positive : 0 < n) (power : 0 < p) (shifted : w = n * 2 ^ 53)
    (wide : 0 < w) :
    Rounds (UnpackedFloat.mul .binary64 (.finite .positive w (-53) wide)
      (.finite .positive p 0 power)) (n * p) := by
  have enough : 52 ≤ (w * p).log2 := by
    rw [Nat.le_log2 (by positivity), shifted]
    calc 2 ^ 52 ≤ 1 * 2 ^ 53 * 1 := by norm_num
      _ ≤ n * 2 ^ 53 * p := by gcongr <;> omega
  have rounds := rounds_mul (e := -53) (f := 0) wide power enough (by omega)
  have exactly : (w : ℚ) * 2 ^ (-53 : Int) = n := by
    rw [shifted, Nat.cast_mul, mul_assoc]
    norm_num
  rwa [exactly, zpow_zero, mul_one] at rounds

/-- Digits and a power of ten, in general. The two exits are for powers that are out of all
range. -/
theorem ofScientific_large {n i : Nat} (positive : 0 < n) (large : ¬(n < 2 ^ 53 ∧ i ≤ 22))
    (down : Bool) (signed : down = true → 0 < i) (inside : i ≤ 2048 + if down then n.log2 else 0) :
    ∃ u, Rounds u (if down then n / 10 ^ i else n * 10 ^ i) ∧
      Float.ofScientific n down i = packed u := by
  have power : 0 < 10 ^ i := by positivity
  have range : (2 : Int) ^ Format.binary64.exponentBits = 2048 := rfl
  rw [Float.ofScientific, dif_neg large]
  refine ⟨UnpackedFloat.ofScientific .binary64 n (if down then Int.negOfNat i else Int.ofNat i), ?_,
    rfl⟩
  rw [UnpackedFloat.ofScientific, dif_neg (by omega)]
  cases down with
  | true =>
    have some := signed rfl
    simp only [if_true] at inside
    have negated : Int.negOfNat i = -(i : Int) := by
      obtain ⟨k, rfl⟩ : ∃ k, i = k + 1 := ⟨i - 1, by omega⟩
      rfl
    have exponent : (-Int.negOfNat i).toNat = i := by omega
    have rounds := rounds_div (e := 0) (f := 0) positive power (by omega)
    simp only [if_true, exponent]
    rw [if_neg (by omega), if_neg (by omega), if_neg (by omega)]
    simpa using rounds
  | false =>
    have rounds := rounds_shifted positive power (Nat.shiftLeft_eq n 53)
    rw [Nat.cast_pow] at rounds
    have exponent : (Int.ofNat i).toNat = i := rfl
    simp only [Bool.false_eq_true, if_false] at inside
    simp only [Bool.false_eq_true, if_false, exponent]
    rw [if_neg (by simp; omega), if_neg (by simp; omega), if_pos (by simp)]
    exact rounds _

theorem ofScientific_rounds {n i : Nat} (positive : 0 < n) (down : Bool)
    (signed : down = true → 0 < i) (inside : i ≤ 2048 + if down then n.log2 else 0) :
    ∃ u, Rounds u (if down then n / 10 ^ i else n * 10 ^ i) ∧
      Float.ofScientific n down i = packed u := by
  by_cases small : n < 2 ^ 53 ∧ i ≤ 22
  · exact ofScientific_small positive small.1 small.2 down
  · exact ofScientific_large positive small down signed inside

end Double

namespace Decimal

open Double

/-- The place of the leading digit bounds a value. -/
theorem value_bounds {n : Nat} (positive : 0 < n) (e : Int) :
    (10 : ℚ) ^ ((Nat.toDigits 10 n).length + e - 1) ≤ (⟨n, e⟩ : Decimal).value ∧
      (⟨n, e⟩ : Decimal).value < 10 ^ ((Nat.toDigits 10 n).length + e) := by
  have some : 0 < (Nat.toDigits 10 n).length := List.length_pos_of_ne_nil Nat.toDigits_ne_nil
  have upper := lt_pow_length n
  have lower := pow_length_le positive
  generalize (Nat.toDigits 10 n).length = length at *
  have power : (0 : ℚ) < 10 ^ e := by positivity
  constructor
  · have split : (10 : ℚ) ^ (length + e - 1) = ((10 ^ (length - 1) : Nat) : ℚ) * 10 ^ e := by
      push_cast
      rw [← zpow_natCast, ← zpow_add₀ (by norm_num : (10 : ℚ) ≠ 0)]
      congr 1
      omega
    rw [split, value]
    gcongr
  · have split : (10 : ℚ) ^ (length + e) = ((10 ^ length : Nat) : ℚ) * 10 ^ e := by
      push_cast
      rw [← zpow_natCast, ← zpow_add₀ (by norm_num : (10 : ℚ) ≠ 0)]
    rw [split, value]
    gcongr

/-- A value as a product or a quotient, by the sign of its exponent. -/
theorem value_scientific (n : Nat) (e : Int) : (⟨n, e⟩ : Decimal).value =
    if decide (e < 0) = true then (n : ℚ) / 10 ^ e.natAbs else n * 10 ^ e.natAbs := by
  by_cases negative : e < 0
  · have inverse : (10 : ℚ) ^ e = (10 ^ e.natAbs)⁻¹ := by
      rw [← zpow_natCast, ← zpow_neg]
      congr 1
      omega
    simp [value, negative, inverse, div_eq_mul_inv]
  · have direct : (10 : ℚ) ^ e = 10 ^ e.natAbs := by
      rw [← zpow_natCast]
      congr 1
      omega
    simp [value, negative, direct]

/-- How a decimal is read. The early exits are far outside of what a double can be. -/
theorem toFloat_cases (d : Decimal) :
    (d.value < 10 ^ (-330 : Int) ∧ d.toFloat = packed (.zero .positive)) ∨
      (10 ^ 310 ≤ d.value ∧ d.toFloat = packed (.infinity .positive)) ∨
      ∃ u, Rounds u d.value ∧ d.toFloat = packed u := by
  have exit_zero : Float.ofBits 0 = packed (.zero .positive) := rfl
  have exit_infinity : Float.ofBits 0x7FF0000000000000 = packed (.infinity .positive) := rfl
  rw [← value_normalize, toFloat, exit_zero, exit_infinity]
  obtain ⟨n, e⟩ := d.normalize
  dsimp only
  split
  · rename_i zero
    left
    subst zero
    refine ⟨?_, rfl⟩
    simp only [value, Nat.cast_zero, zero_mul]
    positivity
  rename_i nonzero
  have positive := Nat.pos_of_ne_zero nonzero
  obtain ⟨lower, upper⟩ := value_bounds positive e
  have some : 0 < (Nat.toDigits 10 n).length := List.length_pos_of_ne_nil Nat.toDigits_ne_nil
  split
  · right
    left
    refine ⟨le_trans ?_ lower, rfl⟩
    rw [← zpow_natCast]
    exact zpow_le_zpow_right₀ (by norm_num) (by push_cast; omega)
  split
  · left
    exact ⟨upper.trans_le (zpow_le_zpow_right₀ (by norm_num) (by omega)), rfl⟩
  · right
    right
    have short : (Nat.toDigits 10 n).length ≤ n.log2 + 1 := by
      rw [Nat.length_toDigits_le_iff (by decide) (by omega)]
      exact Nat.lt_log2_self.trans_le (Nat.pow_le_pow_left (by decide) _)
    have read := ofScientific_rounds (i := e.natAbs) positive (decide (e < 0))
      (by simp; omega) (by by_cases negative : e < 0 <;> simp [negative] <;> omega)
    rwa [value_scientific]

theorem tooLarge_lt : tooLarge < 10 ^ 310 := by
  have naturals : (2 ^ 54 - 1) * 2 ^ 970 < 10 ^ 310 := by decide +kernel
  have integer : tooLarge = (((2 ^ 54 - 1) * 2 ^ 970 : Nat) : ℚ) := by
    rw [tooLarge, show (970 : Int) = ((970 : Nat) : Int) from rfl, zpow_natCast,
      Nat.cast_mul, Nat.cast_pow]
    norm_num
  rw [integer]
  exact_mod_cast naturals

theorem small_lt : (10 : ℚ) ^ (-330 : Int) < 2 ^ (-1074 : Int) := by
  have naturals : 2 ^ 1074 < 10 ^ 330 := by decide +kernel
  rw [zpow_neg, zpow_neg]
  apply inv_strictAnti₀
  · positivity
  · exact_mod_cast naturals

theorem double_lt {m : Nat} {f : Int} (placed : Placed m f) (high : f ≤ 971) :
    (m : ℚ) * 2 ^ f < tooLarge := by
  have narrow : (m : ℚ) + 1 ≤ 2 ^ 53 := by exact_mod_cast placed.narrow
  have step : (0 : ℚ) < 2 ^ (970 : Int) := by positivity
  have top : (2 : ℚ) ^ (971 : Int) = 2 * 2 ^ (970 : Int) := by
    rw [show (971 : Int) = 1 + 970 by norm_num, zpow_one_add₀ two_ne_zero]
  have power : (2 : ℚ) ^ f ≤ 2 ^ (971 : Int) := zpow_le_zpow_right₀ (by norm_num) high
  calc (m : ℚ) * 2 ^ f ≤ m * 2 ^ (971 : Int) := mul_le_mul_of_nonneg_left power m.cast_nonneg
    _ = (2 * m) * 2 ^ (970 : Int) := by
        rw [top]
        ring
    _ < (2 ^ 54 - 1) * 2 ^ (970 : Int) := by
        apply mul_lt_mul_of_pos_right _ step
        linarith

theorem toFloat_exact {d : Decimal} {m : Nat} {f : Int} (placed : Placed m f) (high : f ≤ 971)
    (exactly : d.value = m * 2 ^ f) : Dyadic.ofFloat d.toFloat = ⟨m, f⟩ := by
  have some : (1 : ℚ) ≤ m := by exact_mod_cast placed.positive
  -- The shortcuts for very small and very large decimals lie outside of the range of doubles.
  obtain ⟨small, -⟩ | ⟨large, -⟩ | ⟨u, rounds, read⟩ := toFloat_cases d
  · exfalso
    have above : (2 : ℚ) ^ (-1074 : Int) ≤ d.value := by
      rw [exactly]
      calc (2 : ℚ) ^ (-1074 : Int) ≤ 1 * 2 ^ f := by
            rw [one_mul]
            exact zpow_le_zpow_right₀ (by norm_num) placed.low
        _ ≤ m * 2 ^ f := by gcongr
    exact absurd (small.trans small_lt) (not_lt.mpr above)
  · exfalso
    have below : d.value < tooLarge := exactly ▸ double_lt placed high
    exact absurd (below.trans tooLarge_lt) (not_lt.mpr large)
  · rw [exactly] at rounds
    have shown := shows_unpacked (packed u)
    rw [rounds_exact placed rounds] at shown read
    rw [unpacked_packed (.finite _ _ placed high)] at shown
    rw [read]
    exact shown.1

theorem packed_beyond {n : Nat} {f : Int} (positive : 0 < n) (beyond : 972 ≤ f) :
    packed (.finite .positive n f positive) = packed (.infinity .positive) := by
  have full : 2 ^ Format.binary64.exponentBits ≤
      (f + Format.binary64.exponentBias + Format.binary64.mantissaBitsWithoutImplicit).toNat +
        1 := by
    rw [exponentBias_eq]
    simp
    omega
  have same : UnpackedFloat.pack .binary64 (.finite .positive n f positive) =
      packedInfinity .binary64 .positive := by
    rw [UnpackedFloat.pack]
    dsimp only
    rw [if_pos full]
  simp only [packed, Float.Model.pack, same]
  rfl

/-- What reading a decimal can give: never a negative double, and never one that is no number. -/
theorem unpacked_toFloat (d : Decimal) :
    (d.value < tooLarge ∧ (unpacked d.toFloat = .zero .positive ∨
        ∃ n f positive, unpacked d.toFloat = .finite .positive n f positive)) ∨
      (tooLarge ≤ d.value ∧ unpacked d.toFloat = .infinity .positive) := by
  have infinite := unpacked_packed (.infinity .positive)
  obtain ⟨small, read⟩ | ⟨large, read⟩ | ⟨u, rounds, read⟩ := toFloat_cases d
  · left
    have below : (10 : ℚ) ^ (-330 : Int) ≤ tooLarge := by
      rw [tooLarge]
      calc (10 : ℚ) ^ (-330 : Int) ≤ 1 * 1 := by
            rw [one_mul]
            exact zpow_le_one_of_nonpos₀ (by norm_num) (by norm_num)
        _ ≤ (2 ^ 54 - 1) * 2 ^ (970 : Int) := by
            gcongr
            · norm_num
            · exact one_le_zpow₀ (by norm_num) (by norm_num)
    exact ⟨small.trans_le below, .inl (read ▸ unpacked_packed (.zero .positive))⟩
  · exact .inr ⟨tooLarge_lt.le.trans large, read ▸ infinite⟩
  · rw [read]
    obtain ⟨small, rfl | ⟨n, f, positive, rfl, placed, high⟩⟩ | ⟨large, n, f,
        positive, rfl, beyond⟩ :=
      rounds_cases rounds
    · exact .inl ⟨small, .inl (unpacked_packed (.zero .positive))⟩
    · exact .inl ⟨small, .inr ⟨n, f, positive, unpacked_packed (.finite _ _ placed high)⟩⟩
    · exact .inr ⟨large, packed_beyond positive beyond ▸ infinite⟩

theorem signBit_toFloat (d : Decimal) : signBit d.toFloat = false := by
  have bits := shows_unpacked d.toFloat
  obtain ⟨-, zero | ⟨n, f, positive, finite⟩⟩ | ⟨-, infinite⟩ := unpacked_toFloat d
  · rw [zero] at bits
    exact bits.2
  · rw [finite] at bits
    exact bits.2
  · rw [infinite] at bits
    exact bits.2

theorem isNaN_toFloat (d : Decimal) : d.toFloat.isNaN = false := by
  show (unpacked d.toFloat).isNaN = false
  obtain ⟨-, zero | ⟨n, f, positive, finite⟩⟩ | ⟨-, infinite⟩ := unpacked_toFloat d
  · rw [zero]
    rfl
  · rw [finite]
    rfl
  · rw [infinite]
    rfl

theorem isFinite_toFloat_iff (d : Decimal) : d.toFloat.isFinite = true ↔ d.value < tooLarge := by
  show (unpacked d.toFloat).isFinite = true ↔ _
  obtain ⟨small, zero | ⟨n, f, positive, finite⟩⟩ | ⟨large, infinite⟩ := unpacked_toFloat d
  · rw [zero]
    exact iff_of_true rfl small
  · rw [finite]
    exact iff_of_true rfl small
  · rw [infinite]
    exact iff_of_false Bool.false_ne_true (not_lt.mpr large)

/-- A value of one or more is not rounded away. -/
theorem rounds_nonzero {u : UnpackedFloat} {q : ℚ} (rounds : Rounds u q) (some : 1 ≤ q) :
    u ≠ .zero .positive := by
  obtain ⟨m, e, a, fine, high, cut, value⟩ := rounds
  have nonzero : rounded m e a ≠ 0 := by
    rcases rounded_full a fine with full | least
    · omega
    · have lower := (rounded_bounds m e a).1
      have scale : 2 ^ (1 - e).toNat ≤ halvesOf m a := by
        rw [cut]
        refine Nat.le_floor ?_
        have power : (2 : ℚ) ^ (1 - e) = 2 ^ (1 - e).toNat := by
          rw [← zpow_natCast]
          congr 1
          omega
        push_cast
        rw [power]
        exact le_mul_of_one_le_left (by positivity) some
      rw [least] at lower
      have quotient : 2 ≤ halvesOf m a / 2 ^ (-1074 - e).toNat := by
        rw [Nat.le_div_iff_mul_le (Nat.two_pow_pos _), ← Nat.pow_succ']
        exact (Nat.pow_le_pow_right (by decide) (by omega)).trans scale
      omega
  rw [value, roundWithAccuracy_eq _ _ fine, dif_neg nonzero]
  split <;> simp

theorem not_le_zero {d : Decimal} (some : 1 ≤ d.value) : ¬ d.toFloat ≤ 0.0 := by
  have positive : unpacked d.toFloat ≠ .zero .positive := by
    obtain ⟨small, -⟩ | ⟨-, read⟩ | ⟨u, rounds, read⟩ := toFloat_cases d
    · have least : (10 : ℚ) ^ (-330 : Int) ≤ 1 := zpow_le_one_of_nonpos₀ (by norm_num) (by norm_num)
      exact absurd (small.trans_le least) (not_lt.mpr some)
    · rw [read, unpacked_packed (.infinity .positive)]
      simp
    · have solid := rounds_nonzero rounds some
      rw [read]
      obtain ⟨-, zero | ⟨n, f, positive, rfl, placed, high⟩⟩ | ⟨-, n, f, positive, rfl, beyond⟩ :=
        rounds_cases rounds
      · exact absurd zero solid
      · rw [unpacked_packed (.finite _ _ placed high)]
        simp
      · rw [packed_beyond positive beyond, unpacked_packed (.infinity .positive)]
        simp
  show ¬ (decide ((unpacked d.toFloat).le (unpacked 0.0) = true)) = true
  have zero : unpacked 0.0 = .zero .positive := by rfl
  rw [zero]
  obtain ⟨-, none | ⟨n, f, _, finite⟩⟩ | ⟨-, infinite⟩ := unpacked_toFloat d
  · exact absurd none positive
  · rw [finite]
    exact Bool.false_ne_true
  · rw [infinite]
    exact Bool.false_ne_true

end Decimal
end AgentWire
