import AgentWire.Proofs.Doubles

/-!
Rounding to doubles. A product or quotient is cut off at the exponent of its place, with what is
lost told by two more bits, and rounded there. What is rounded exactly, and when it leaves the
range, is read off the rational.
-/
namespace AgentWire

open Float.Model Float.Model.UnpackedFloat

namespace Double

theorem log2_mul_two_pow {n : Nat} (k : Nat) (positive : 0 < n) :
    (n * 2 ^ k).log2 = n.log2 + k := by
  have least := Nat.log2_self_le (n := n) (by omega)
  have most := Nat.lt_log2_self (n := n)
  have room := Nat.two_pow_pos k
  rw [Nat.log2_eq_iff (by positivity), Nat.add_right_comm, Nat.pow_add, Nat.pow_add]
  exact ⟨Nat.mul_le_mul_right _ least, Nat.mul_lt_mul_of_pos_right most room⟩

/-- The least exponent at which a mantissa can be kept. -/
def gridOf (m : Nat) (e : Int) : Int := Format.binary64.targetExponent (totalExponent m e)

theorem gridOf_eq (m : Nat) (e : Int) : gridOf m e = max (m.log2 + e - 52) (-1074) := by
  simp only [gridOf, Format.targetExponent, totalExponent, Format.mantissaBits, Format.minExponent]
  norm_num
  omega

/-- Twice a mantissa, with the half that its accuracy tells of. -/
def halves (em : ExtendedMantissa) : Nat := 2 * em.mantissa + em.roundBit.toNat

theorem halves_shiftRightOne (em : ExtendedMantissa) : halves em.shiftRightOne = halves em / 2 := by
  obtain ⟨m, r, s⟩ := em
  simp only [halves, ExtendedMantissa.shiftRightOne]
  rcases Nat.mod_two_eq_zero_or_one m with even | odd
  · cases r <;> simp [even] <;> omega
  · cases r <;> simp [odd] <;> omega

theorem halves_shiftRight (em : ExtendedMantissa) (k : Nat) :
    halves (em >>> k) = halves em / 2 ^ k := by
  induction k with
  | zero => simp [HShiftRight.hShiftRight, Nat.repeat]
  | succ k ih =>
    show halves (em >>> k).shiftRightOne = _
    rw [halves_shiftRightOne, ih, Nat.div_div_eq_div_mul, Nat.pow_succ]

theorem roundedMantissa_bounds (em : ExtendedMantissa) :
    halves em / 2 ≤ em.roundedMantissa ∧ em.roundedMantissa ≤ (halves em + 1) / 2 := by
  obtain ⟨m, r, s⟩ := em
  cases r <;> cases s <;> simp [halves, ExtendedMantissa.roundedMantissa, ExtendedMantissa.accuracy,
    Accuracy.roundToNearestEven] <;> omega

/-- An odd mantissa is rounded up from half on. -/
theorem roundedMantissa_odd (em : ExtendedMantissa) (odd : halves em % 4 = 3) :
    em.roundedMantissa = halves em / 2 + 1 := by
  obtain ⟨m, r, s⟩ := em
  cases r <;> cases s <;> simp [halves, ExtendedMantissa.roundedMantissa, ExtendedMantissa.accuracy,
    Accuracy.roundToNearestEven] at odd ⊢ <;> omega

theorem shiftToTarget_narrow {m : Nat} {e : Int} (narrow : m < 2 ^ 53) (low : -1074 ≤ e) :
    shiftToTargetExponent .binary64 m e .exact = (⟨m, false, false⟩, e) := by
  have few : m.log2 ≤ 52 := by
    by_cases zero : m = 0
    · simp [zero]
    · have most := (Nat.log2_lt zero).mpr narrow
      omega
  have grid := gridOf_eq m e
  have none : (gridOf m e - e).toNat = 0 := by omega
  unfold gridOf at none
  simp [shiftToTargetExponent, shiftToExponent, none, HShiftRight.hShiftRight, Nat.repeat,
    ExtendedMantissa.ofMantissaAndAccuracy]

theorem shiftToTarget_carry {e : Int} (low : -1074 ≤ e) :
    shiftToTargetExponent .binary64 (2 ^ 53) e .exact = (⟨2 ^ 52, false, false⟩, e + 1) := by
  have grid := gridOf_eq (2 ^ 53) e
  rw [Nat.log2_two_pow] at grid
  have one : (gridOf (2 ^ 53) e - e).toNat = 1 := by omega
  unfold gridOf at one
  simp only [shiftToTargetExponent, shiftToExponent, one]
  rfl

/-- The mantissa of a value rounded at its grid. -/
def rounded (m : Nat) (e : Int) (a : Accuracy) : Nat :=
  (ExtendedMantissa.ofMantissaAndAccuracy m a >>> (gridOf m e - e).toNat).roundedMantissa

/-- Twice a mantissa and its accuracy to the half below. -/
def halvesOf (m : Nat) (a : Accuracy) : Nat := halves (.ofMantissaAndAccuracy m a)

theorem halvesOf_bounds (m : Nat) (a : Accuracy) :
    2 * m ≤ halvesOf m a ∧ halvesOf m a ≤ 2 * m + 1 := by
  cases a with
  | exact => simp [halvesOf, halves, ExtendedMantissa.ofMantissaAndAccuracy]
  | inexact o => cases o <;> simp [halvesOf, halves, ExtendedMantissa.ofMantissaAndAccuracy]

theorem rounded_bounds (m : Nat) (e : Int) (a : Accuracy) :
    halvesOf m a / 2 ^ (gridOf m e - e).toNat / 2 ≤ rounded m e a ∧
      rounded m e a ≤ (halvesOf m a / 2 ^ (gridOf m e - e).toNat + 1) / 2 := by
  have bounds := roundedMantissa_bounds
    (ExtendedMantissa.ofMantissaAndAccuracy m a >>> (gridOf m e - e).toNat)
  rwa [halves_shiftRight] at bounds

/-- At the grid of its value a mantissa has at most 53 bits and a half. -/
theorem halves_lt {m : Nat} {e : Int} (a : Accuracy) (fine : e ≤ gridOf m e) :
    halvesOf m a / 2 ^ (gridOf m e - e).toNat < 2 ^ 54 := by
  have grid := gridOf_eq m e
  have most := (halvesOf_bounds m a).2
  generalize shift : (gridOf m e - e).toNat = k
  have below : m < 2 ^ (53 + k) :=
    lt_of_lt_of_le Nat.lt_log2_self (Nat.pow_le_pow_right (by decide) (by omega))
  have twice : 2 ^ (54 + k) = 2 * 2 ^ (53 + k) := by rw [← Nat.pow_succ']; congr 1; omega
  rw [Nat.div_lt_iff_lt_mul (Nat.two_pow_pos k), ← Nat.pow_add]
  omega

theorem rounded_le {m : Nat} {e : Int} (a : Accuracy) (fine : e ≤ gridOf m e) :
    rounded m e a ≤ 2 ^ 53 := by
  have upper := (rounded_bounds m e a).2
  have below := halves_lt a fine
  omega

/-- Off the least exponent a rounded mantissa has all of its bits. -/
theorem rounded_full {m : Nat} {e : Int} (a : Accuracy) (fine : e ≤ gridOf m e) :
    2 ^ 52 ≤ rounded m e a ∨ gridOf m e = -1074 := by
  have grid := gridOf_eq m e
  by_cases least : gridOf m e = -1074
  · exact .inr least
  · have lower := (rounded_bounds m e a).1
    have some := (halvesOf_bounds m a).1
    generalize shift : (gridOf m e - e).toNat = k at lower
    have nonzero : m ≠ 0 := by
      intro zero
      subst zero
      rw [Nat.log2_zero] at grid
      omega
    have above : 2 ^ (52 + k) ≤ m := (Nat.le_log2 nonzero).mp (by omega)
    have twice : 2 ^ (53 + k) = 2 * 2 ^ (52 + k) := by rw [← Nat.pow_succ']; congr 1; omega
    have quotient : 2 ^ 53 ≤ halvesOf m a / 2 ^ k := by
      rw [Nat.le_div_iff_mul_le (Nat.two_pow_pos k), ← Nat.pow_add]
      omega
    left
    omega

/-- Rounding in one formula: the mantissa is rounded at the grid of its value, and a carry moves the
grid. -/
theorem roundWithAccuracy_eq (s : Sign) {m : Nat} {e : Int} (a : Accuracy) (fine : e ≤ gridOf m e) :
    roundWithAccuracy .binary64 s m e a =
      if zero : rounded m e a = 0 then .zero s
      else if rounded m e a < 2 ^ 53 then
        .finite s (rounded m e a) (gridOf m e) (Nat.pos_of_ne_zero zero)
      else .finite s (2 ^ 52) (gridOf m e + 1) (by decide) := by
  have low : -1074 ≤ gridOf m e := by
    have grid := gridOf_eq m e
    omega
  have first : shiftToTargetExponent .binary64 m e a =
      (ExtendedMantissa.ofMantissaAndAccuracy m a >>> (gridOf m e - e).toNat, gridOf m e) := by
    show (_, e + ((gridOf m e - e).toNat : Int)) = _
    congr 1
    omega
  have most := rounded_le a fine
  have folded :
      (ExtendedMantissa.ofMantissaAndAccuracy m a >>> (gridOf m e - e).toNat).roundedMantissa =
        rounded m e a := rfl
  simp only [roundWithAccuracy, first, folded]
  by_cases narrow : rounded m e a < 2 ^ 53
  · have second := shiftToTarget_narrow narrow low
    simp only [second, if_pos narrow]
  · have carry : rounded m e a = 2 ^ 53 := by omega
    have second := shiftToTarget_carry low
    rw [← carry] at second
    simp only [second, if_neg narrow]
    rw [dif_neg (by decide), dif_neg (by omega)]

/-! Rounding a rational. -/

/-- A rounded value. The mantissa and its half are those of the rational, cut off at the
exponent. -/
def Rounds (u : UnpackedFloat) (q : ℚ) : Prop :=
  ∃ m e a, e ≤ gridOf m e ∧ e ≤ 971 ∧ halvesOf m a = ⌊q * 2 ^ (1 - e)⌋₊ ∧
    u = roundWithAccuracy .binary64 .positive m e a

theorem halvesOf_fraction (n : Nat) {d : Nat} (positive : 0 < d) :
    halvesOf (n / d) (accuracyOfFraction (n % d) d) = 2 * n / d := by
  have parts := Nat.div_add_mod n d
  have less := Nat.mod_lt n positive
  have twice : 2 * n / d = 2 * (n / d) + 2 * (n % d) / d := by
    have split : 2 * n = 2 * (n % d) + d * (2 * (n / d)) := by linarith
    rw [split, Nat.add_mul_div_left _ _ positive]
    omega
  rw [twice]
  by_cases none : n % d = 0
  · simp [none, accuracyOfFraction, halvesOf, halves, ExtendedMantissa.ofMantissaAndAccuracy]
  · rw [accuracyOfFraction, if_neg none]
    rcases order : compare (2 * (n % d)) d with _ | _ | _
    · have small := Nat.compare_eq_lt.mp order
      simp [halvesOf, halves, ExtendedMantissa.ofMantissaAndAccuracy, Nat.div_eq_of_lt small]
    · have equal := Nat.compare_eq_eq.mp order
      simp [halvesOf, halves, ExtendedMantissa.ofMantissaAndAccuracy, equal, Nat.div_self positive]
    · have large := Nat.compare_eq_gt.mp order
      have one : 2 * (n % d) / d = 1 := by
        rw [Nat.div_eq_iff positive]
        omega
      simp [halvesOf, halves, ExtendedMantissa.ofMantissaAndAccuracy, one]

theorem rounds_mul {m n : Nat} {e f : Int} (m_pos : 0 < m) (n_pos : 0 < n)
    (enough : 52 ≤ (m * n).log2) (high : e + f ≤ 971) :
    Rounds (UnpackedFloat.mul .binary64 (.finite .positive m e m_pos) (.finite .positive n f n_pos))
      ((m * 2 ^ e) * (n * 2 ^ f)) := by
  have grid := gridOf_eq (m * n) (e + f)
  refine ⟨m * n, e + f, .exact, by omega, high, ?_, rfl⟩
  have whole : ((m : ℚ) * 2 ^ e) * (n * 2 ^ f) * 2 ^ (1 - (e + f)) = ((2 * (m * n) : Nat) : ℚ) := by
    have powers : (2 : ℚ) ^ e * 2 ^ f * 2 ^ (1 - (e + f)) = 2 := by
      rw [← zpow_add₀ two_ne_zero, ← zpow_add₀ two_ne_zero]
      norm_num
    push_cast
    linear_combination (m * n : ℚ) * powers
  rw [whole, Nat.floor_natCast]
  rfl

theorem rounds_div {m n : Nat} {e f : Int} (m_pos : 0 < m) (n_pos : 0 < n) (high : e - f ≤ 971) :
    Rounds (UnpackedFloat.div .binary64 (.finite .positive m e m_pos) (.finite .positive n f n_pos))
      ((m * 2 ^ e) / (n * 2 ^ f)) := by
  have target : Format.binary64.targetExponent (totalExponent m e - totalExponent n f) =
      max (m.log2 + e - n.log2 - f - 53) (-1074) := by
    simp only [Format.targetExponent, totalExponent, Format.mantissaBits, Format.minExponent]
    norm_num
    omega
  generalize place : min (e - f) (max (m.log2 + e - n.log2 - f - 53) (-1074)) = g
  generalize shift : (e - f - g).toNat = k
  have quotient : UnpackedFloat.div .binary64 (.finite .positive m e m_pos)
      (.finite .positive n f n_pos) =
      roundWithAccuracy .binary64 .positive (m <<< k / n) g
        (accuracyOfFraction (m <<< k % n) n) := by
    simp only [UnpackedFloat.div, divCore, target, place, shift]
    rfl
  rw [Nat.shiftLeft_eq] at quotient
  refine ⟨m * 2 ^ k / n, g, _, ?_, by omega, ?_, quotient⟩
  · have grid := gridOf_eq (m * 2 ^ k / n) g
    by_cases least : g ≤ -1074
    · omega
    · have enough : 2 ^ 52 ≤ m * 2 ^ k / n := by
        rw [Nat.le_div_iff_mul_le n_pos]
        calc 2 ^ 52 * n ≤ 2 ^ 52 * 2 ^ (n.log2 + 1) := Nat.mul_le_mul_left _ Nat.lt_log2_self.le
          _ = 2 ^ (53 + n.log2) := by rw [← Nat.pow_add]; congr 1; omega
          _ ≤ 2 ^ (m.log2 + k) := Nat.pow_le_pow_right (by decide) (by omega)
          _ = 2 ^ m.log2 * 2 ^ k := Nat.pow_add ..
          _ ≤ m * 2 ^ k := Nat.mul_le_mul_right _ (Nat.log2_self_le (by omega))
      have many := (Nat.le_log2 (by omega)).mpr enough
      omega
  · have whole : ((m : ℚ) * 2 ^ e) / (n * 2 ^ f) * 2 ^ (1 - g) =
        ((2 * (m * 2 ^ k) : Nat) : ℚ) / n := by
      have powers : (2 : ℚ) ^ e / 2 ^ f * 2 ^ (1 - g) = 2 * 2 ^ k := by
        rw [← zpow_natCast, ← zpow_sub₀ two_ne_zero, ← zpow_add₀ two_ne_zero,
          ← zpow_one_add₀ two_ne_zero]
        congr 1
        omega
      push_cast
      linear_combination (m / n : ℚ) * powers
    rw [whole, Rat.natFloor_natCast_div_natCast, halvesOf_fraction _ n_pos]

/-- A value that a double has is rounded to it. -/
theorem rounds_exact {u : UnpackedFloat} {n : Nat} {f : Int} (placed : Placed n f)
    (rounds : Rounds u (n * 2 ^ f)) :
    u = .finite .positive n f placed.positive := by
  obtain ⟨m, e, a, fine, high, cut, value⟩ := rounds
  have grid := gridOf_eq m e
  have bounds := halvesOf_bounds m a
  have low := placed.low
  have narrow := placed.narrow
  -- Cut off above its own exponent, the value would be left with fewer bits than a double keeps.
  have within : e ≤ f := by
    by_contra beyond
    have less : (n : ℚ) * 2 ^ f * 2 ^ (1 - e) ≤ n := by
      have power : (2 : ℚ) ^ f * 2 ^ (1 - e) ≤ 1 := by
        rw [← zpow_add₀ two_ne_zero]
        exact zpow_le_one_of_nonpos₀ one_le_two (by omega)
      calc (n : ℚ) * 2 ^ f * 2 ^ (1 - e) = n * (2 ^ f * 2 ^ (1 - e)) := by ring
        _ ≤ n * 1 := by gcongr
        _ = n := by ring
    have most : halvesOf m a ≤ n := cut ▸ Nat.floor_le_of_le less
    have few : m.log2 < 52 := by
      by_cases zero : m = 0
      · simp [zero]
      · exact (Nat.log2_lt zero).mpr (by omega)
    omega
  generalize shift : (f - e).toNat = k
  have whole : (n : ℚ) * 2 ^ f * 2 ^ (1 - e) = ((2 * (n * 2 ^ k) : Nat) : ℚ) := by
    have powers : (2 : ℚ) ^ f * 2 ^ (1 - e) = 2 * 2 ^ k := by
      rw [← zpow_natCast, ← zpow_add₀ two_ne_zero, ← zpow_one_add₀ two_ne_zero]
      congr 1
      omega
    push_cast
    linear_combination (n : ℚ) * powers
  rw [whole, Nat.floor_natCast] at cut
  have mantissa : m = n * 2 ^ k := by omega
  have bits : m.log2 = n.log2 + k := by rw [mantissa, log2_mul_two_pow k placed.positive]
  -- So nothing is cut off, and rounding is in the place of the value itself.
  have place : gridOf m e = f := by
    rcases placed.full with full | least
    · have many := log2_eq full narrow
      omega
    · have few : n.log2 < 53 := (Nat.log2_lt (by have := placed.positive; omega)).mpr narrow
      omega
  have kept : rounded m e a = n := by
    have between := rounded_bounds m e a
    rw [place, shift, cut, ← Nat.mul_assoc, Nat.mul_div_cancel _ (Nat.two_pow_pos k)] at between
    omega
  have positive := placed.positive
  rw [value, roundWithAccuracy_eq _ _ fine, dif_neg (by omega), if_pos (by omega)]
  simp only [kept, place]

/-- The least magnitude that is too large for a double, half a step beyond the largest one. -/
def tooLarge : ℚ := (2 ^ 54 - 1) * 2 ^ (970 : Int)

/-- A bound on a rounded value as a bound on its mantissa. -/
theorem tooLarge_le_iff {q : ℚ} {e : Int} (high : e ≤ 971) :
    tooLarge ≤ q ↔ (2 ^ 54 - 1) * 2 ^ (971 - e).toNat ≤ ⌊q * 2 ^ (1 - e)⌋₊ := by
  have positive : (0 : ℚ) < 2 ^ (1 - e) := by positivity
  have scaled : tooLarge * 2 ^ (1 - e) = (((2 ^ 54 - 1) * 2 ^ (971 - e).toNat : Nat) : ℚ) := by
    have powers : (2 : ℚ) ^ (970 : Int) * 2 ^ (1 - e) = 2 ^ (971 - e).toNat := by
      rw [← zpow_natCast, ← zpow_add₀ two_ne_zero]
      congr 1
      omega
    rw [tooLarge, mul_assoc, powers]
    push_cast
    norm_num
  rw [← mul_le_mul_iff_left₀ positive, scaled, Nat.le_floor_iff' (by positivity)]

theorem below_of_grid {m : Nat} {e : Int} (a : Accuracy) (high : e ≤ 971) (low : gridOf m e ≤ 970) :
    halvesOf m a < (2 ^ 54 - 1) * 2 ^ (971 - e).toNat := by
  have grid := gridOf_eq m e
  have most := (halvesOf_bounds m a).2
  generalize shift : (971 - e).toNat = k
  have below : m < 2 ^ (52 + k) :=
    lt_of_lt_of_le Nat.lt_log2_self (Nat.pow_le_pow_right (by decide) (by omega))
  rw [Nat.pow_add] at below
  have positive := Nat.two_pow_pos k
  omega

theorem above_of_grid {m : Nat} {e : Int} (a : Accuracy) (high : e ≤ 971)
    (beyond : 972 ≤ gridOf m e) :
    (2 ^ 54 - 1) * 2 ^ (971 - e).toNat ≤ halvesOf m a := by
  have grid := gridOf_eq m e
  have some := (halvesOf_bounds m a).1
  generalize shift : (971 - e).toNat = k
  have nonzero : m ≠ 0 := by
    intro zero
    subst zero
    rw [Nat.log2_zero] at grid
    omega
  have above : 2 ^ (53 + k) ≤ m := (Nat.le_log2 nonzero).mp (by omega)
  rw [Nat.pow_add] at above
  omega

/-- At the largest exponent of a double the mantissa is carried from half a step on. -/
theorem carries_iff {m : Nat} {e : Int} (a : Accuracy) (high : e ≤ 971) (edge : gridOf m e = 971) :
    (2 ^ 54 - 1) * 2 ^ (971 - e).toNat ≤ halvesOf m a ↔ 2 ^ 53 ≤ rounded m e a := by
  have quotient :=
    Nat.le_div_iff_mul_le (x := 2 ^ 54 - 1) (y := halvesOf m a) (Nat.two_pow_pos (971 - e).toNat)
  have below := halves_lt (m := m) (e := e) a (by omega)
  have upper := (rounded_bounds m e a).2
  have carry : halvesOf m a / 2 ^ (gridOf m e - e).toNat % 4 = 3 →
      rounded m e a = halvesOf m a / 2 ^ (gridOf m e - e).toNat / 2 + 1 := by
    intro odd
    have up :=
      roundedMantissa_odd (ExtendedMantissa.ofMantissaAndAccuracy m a >>> (gridOf m e - e).toNat)
        (by rwa [halves_shiftRight])
    rwa [halves_shiftRight] at up
  rw [edge] at below upper carry
  rw [← quotient]
  constructor
  · intro large
    have up := carry (by omega)
    omega
  · intro full
    omega

/-- Rounding gives a double or goes beyond the largest exponent. Half a step above the largest
double decides which. -/
theorem rounds_cases {u : UnpackedFloat} {q : ℚ} (rounds : Rounds u q) :
    (q < tooLarge ∧ (u = .zero .positive ∨
        ∃ n f positive, u = .finite .positive n f positive ∧ Placed n f ∧ f ≤ 971)) ∨
      (tooLarge ≤ q ∧ ∃ n f positive, u = .finite .positive n f positive ∧ 972 ≤ f) := by
  obtain ⟨m, e, a, fine, high, cut, value⟩ := rounds
  have grid := gridOf_eq m e
  have most := rounded_le a fine
  have full := rounded_full a fine
  have bound := tooLarge_le_iff (q := q) high
  have low := below_of_grid (m := m) a high
  have above := above_of_grid (m := m) a high
  have edge := carries_iff (m := m) a high
  rw [← cut] at bound
  rw [roundWithAccuracy_eq _ _ fine] at value
  -- A mantissa that is carried goes to the next exponent, which only matters at the largest one.
  split at value
  · rename_i zero
    left
    refine ⟨lt_of_not_ge ?_, .inl value⟩
    rw [bound]
    omega
  split at value
  · rename_i nonzero narrow
    by_cases inside : gridOf m e ≤ 971
    · left
      refine ⟨lt_of_not_ge ?_,
        .inr ⟨_, _, _, value, ⟨Nat.pos_of_ne_zero nonzero, narrow, by omega, full⟩, inside⟩⟩
      rw [bound]
      omega
    · right
      exact ⟨bound.mpr (above (by omega)), _, _, _, value, by omega⟩
  · by_cases inside : gridOf m e ≤ 970
    · left
      refine ⟨lt_of_not_ge ?_,
        .inr ⟨_, _, _, value, ⟨by decide, by decide, by omega, .inl le_rfl⟩, by omega⟩⟩
      rw [bound]
      omega
    · right
      refine ⟨bound.mpr ?_, _, _, _, value, by omega⟩
      by_cases exact_edge : gridOf m e = 971
      · exact (edge exact_edge).mpr (by omega)
      · exact above (by omega)

end Double
end AgentWire
