import AgentWire.Number.Decimal
import Mathlib

/-!
Doubles by their bits. A double is a sign with a mantissa and an exponent, or a special value;
taking it apart and putting it together again are inverse, and a finite one is settled by its sign
and its magnitude.
-/
namespace AgentWire

open Float.Model Float.Model.UnpackedFloat

namespace Double

def word (x : Float) : BitVec Format.binary64.numBits := x.toBits.toBitVec

/-- What a double is: a sign with a mantissa and an exponent, or one of the special values. -/
def unpacked (x : Float) : UnpackedFloat := x.toModel.unpack

def packed (u : UnpackedFloat) : Float := .ofModel (.pack u)

/-- A mantissa and an exponent as a double has them: as many bits as fit, fewer only at the least
exponent. -/
structure Placed (m : Nat) (e : Int) : Prop where
  positive : 0 < m
  narrow : m < 2 ^ 53
  low : -1074 ≤ e
  full : 2 ^ 52 ≤ m ∨ e = -1074

theorem toNat_one_append {w : Nat} (v : BitVec w) : (1#1 ++ v).toNat = 2 ^ w + v.toNat := by
  rw [BitVec.toNat_append, ← Nat.shiftLeft_add_eq_or_of_lt v.isLt]
  simp [Nat.shiftLeft_eq]

theorem toNat_ne {w : Nat} {v u : BitVec w} (different : v ≠ u) : v.toNat ≠ u.toNat := by
  intro same
  exact different (BitVec.eq_of_toNat_eq same)

theorem exponentBias_eq : (Format.binary64.exponentBias : Int) = 1023 := rfl

theorem log2_eq {m : Nat} (lower : 2 ^ 52 ≤ m) (upper : m < 2 ^ 53) : m.log2 = 52 := by
  have least := (Nat.le_log2 (by omega : m ≠ 0)).mpr lower
  have most := (Nat.log2_lt (by omega : m ≠ 0)).mpr upper
  omega

theorem log2_ne {m : Nat} (upper : m < 2 ^ 52) : m.log2 ≠ 52 := by
  intro full
  by_cases zero : m = 0
  · simp [zero] at full
  · have most := (Nat.log2_lt zero).mpr upper
    omega

/-- The cases of a double, each with its fields. -/
inductive Unpacks (b : BitVec Format.binary64.numBits) : UnpackedFloat → Prop where
  | notANumber (special : unpackExponent b = -1#11) (some : unpackMantissa b ≠ 0#52) :
      Unpacks b .notANumber
  | infinity (special : unpackExponent b = -1#11) (none : unpackMantissa b = 0#52) :
      Unpacks b (.infinity (.ofBitVec (unpackSign b)))
  | zero (least : unpackExponent b = 0#11) (none : unpackMantissa b = 0#52) :
      Unpacks b (.zero (.ofBitVec (unpackSign b)))
  | subnormal (least : unpackExponent b = 0#11) {m : Nat} (positive : 0 < m)
      (fraction : (unpackMantissa b).toNat = m) :
      Unpacks b (.finite (.ofBitVec (unpackSign b)) m (-1074) positive)
  | normal {k m : Nat} {e : Int} (positive : 0 < m) (exponent : (unpackExponent b).toNat = k)
      (least : 0 < k) (most : k < 2047) (mantissa : m = 2 ^ 52 + (unpackMantissa b).toNat)
      (unbiased : e = k - 1075) :
      Unpacks b (.finite (.ofBitVec (unpackSign b)) m e positive)

theorem unpacks (b : BitVec Format.binary64.numBits) :
    Unpacks b (UnpackedFloat.unpack .binary64 b) := by
  have width := (unpackExponent b).isLt
  rw [UnpackedFloat.unpack]
  split
  · rename_i special
    split
    · rename_i none
      exact .infinity special none
    · rename_i some
      exact .notANumber special some
  · rename_i ordinary
    have most := toNat_ne ordinary
    split
    · rename_i least
      split
      · rename_i none
        exact .zero least none
      · have exponent : ((unpackExponent b).toNat : Int) -
            (Format.binary64.exponentBias + Format.binary64.mantissaBitsWithoutImplicit) + 1 =
          -1074 := by
          rw [least, exponentBias_eq]
          rfl
        rw [exponent]
        exact .subnormal least _ rfl
    · rename_i some
      have least := toNat_ne some
      refine .normal _ rfl ?_ ?_ (toNat_one_append _) ?_
      · exact Nat.pos_of_ne_zero least
      · simp at most width
        omega
      · rw [exponentBias_eq]
        simp

theorem pack_subnormal {s : Sign} {m : Nat} {positive : 0 < m} (small : m < 2 ^ 52) :
    UnpackedFloat.pack .binary64 (.finite s m (-1074) positive) =
      packComponents .binary64 s 0#11 (BitVec.ofNat 52 m) := by
  have few := log2_ne small
  rw [UnpackedFloat.pack]
  dsimp only
  rw [if_neg (by decide),
    if_neg (fun here => few (by simpa [Format.mantissaBits, Nat.add_comm 1] using here))]

theorem pack_normal {s : Sign} {m k : Nat} {e : Int} {positive : 0 < m} (lower : 2 ^ 52 ≤ m)
    (upper : m < 2 ^ 53) (least : 0 < k) (most : k < 2047) (unbiased : e = k - 1075) :
    UnpackedFloat.pack .binary64 (.finite s m e positive) =
      packComponents .binary64 s (BitVec.ofNat 11 k) (BitVec.ofNat 52 m) := by
  have many := log2_eq lower upper
  have biased :
      (e + Format.binary64.exponentBias + Format.binary64.mantissaBitsWithoutImplicit).toNat =
        k := by
    rw [exponentBias_eq, unbiased]
    simp
    omega
  rw [UnpackedFloat.pack]
  dsimp only
  rw [biased, if_neg (by simp; omega), if_pos (by simp [Format.mantissaBits, many])]

theorem packed_unpacked (x : Float) : packed (unpacked x) = x := by
  obtain ⟨bits, valid⟩ := x
  have same := pack_unpack_of_valid valid
  simp only [packed, unpacked, Float.Model.pack, Float.Model.unpack, same]

/-! Forms of doubles. -/

inductive Canonical : UnpackedFloat → Prop where
  | notANumber : Canonical .notANumber
  | infinity (s : Sign) : Canonical (.infinity s)
  | zero (s : Sign) : Canonical (.zero s)
  | finite (s : Sign) {m : Nat} {e : Int} (positive : 0 < m) (placed : Placed m e)
      (high : e ≤ 971) :
      Canonical (.finite s m e positive)

theorem canonical_unpacked (x : Float) : Canonical (unpacked x) := by
  have width := (unpackMantissa (word x)).isLt
  simp only at width
  have fields : Unpacks (word x) (unpacked x) := unpacks (word x)
  generalize unpacked x = u at fields ⊢
  cases fields with
  | notANumber _ _ => exact .notANumber
  | infinity _ _ => exact .infinity _
  | zero _ _ => exact .zero _
  | subnormal _ positive fraction =>
    exact .finite _ positive ⟨positive, by omega, by omega, .inr rfl⟩ (by omega)
  | normal positive _ _ _ mantissa unbiased =>
    exact .finite _ positive ⟨positive, by omega, by omega, .inl (by omega)⟩ (by omega)

theorem Unpacks.unique {b : BitVec Format.binary64.numBits} {u v : UnpackedFloat}
    (first : Unpacks b u) (second : Unpacks b v) : u = v := by
  cases first <;> cases second <;> simp_all <;> omega

theorem unpacks_pack {u : UnpackedFloat} (canonical : Canonical u) :
    Unpacks (UnpackedFloat.pack .binary64 u) u := by
  cases canonical with
  | notANumber => exact .notANumber rfl (by decide)
  | infinity s => cases s <;> exact .infinity rfl rfl
  | zero s => cases s <;> exact .zero rfl rfl
  | @finite s m e positive placed high =>
    have low := placed.low
    have narrow := placed.narrow
    by_cases full : 2 ^ 52 ≤ m
    · generalize biased : (e + 1075).toNat = k
      have sign := @unpackSign_packComponents .binary64 s (BitVec.ofNat 11 k) (BitVec.ofNat 52 m)
      rw [pack_normal full narrow (k := k) (by omega) (by omega) (by omega)]
      have fields : Unpacks (packComponents .binary64 s (BitVec.ofNat 11 k) (BitVec.ofNat 52 m))
          (.finite (.ofBitVec (unpackSign
              (packComponents .binary64 s (BitVec.ofNat 11 k) (BitVec.ofNat 52 m))))
            m e positive) := by
        refine .normal (k := k) positive ?_ (by omega) (by omega) ?_ (by omega)
        · rw [unpackExponent_packComponents]
          exact Nat.mod_eq_of_lt (by omega)
        · rw [unpackMantissa_packComponents]
          show m = 2 ^ 52 + m % 2 ^ 52
          omega
      rwa [sign, Sign.ofBitVec_toBitVec] at fields
    · have least : e = -1074 := placed.full.resolve_left full
      have sign := @unpackSign_packComponents .binary64 s 0#11 (BitVec.ofNat 52 m)
      subst least
      rw [pack_subnormal (by omega)]
      have fields : Unpacks (packComponents .binary64 s 0#11 (BitVec.ofNat 52 m))
          (.finite (.ofBitVec (unpackSign (packComponents .binary64 s 0#11 (BitVec.ofNat 52 m))))
            m (-1074) positive) := by
        refine .subnormal (unpackExponent_packComponents ..) positive ?_
        rw [unpackMantissa_packComponents]
        exact Nat.mod_eq_of_lt (by omega)
      rwa [sign, Sign.ofBitVec_toBitVec] at fields

theorem unpacked_packed {u : UnpackedFloat} (canonical : Canonical u) : unpacked (packed u) = u :=
  (unpacks (word (packed u))).unique (unpacks_pack canonical)

/-! The magnitude and the sign. -/

theorem toNat_exponent (x : Float) :
    ((x.toBits >>> 52) &&& 0x7FF).toNat = (unpackExponent (word x)).toNat := by
  have mask := Nat.and_two_pow_sub_one_eq_mod (x.toBits.toNat >>> 52) 11
  simp [UInt64.toNat_and, UInt64.toNat_shiftRight, unpackExponent, word,
    BitVec.extractLsb] at mask ⊢
  exact mask

theorem toNat_fraction (x : Float) :
    (x.toBits &&& 0xFFFFFFFFFFFFF).toNat = (unpackMantissa (word x)).toNat := by
  have mask := Nat.and_two_pow_sub_one_eq_mod x.toBits.toNat 52
  simp [UInt64.toNat_and, unpackMantissa, word, BitVec.extractLsb] at mask ⊢
  exact mask

theorem signBit_eq (x : Float) : signBit x = decide (unpackSign (word x) = 1#1) := by
  have bound := x.toBits.toNat_lt
  simp [signBit, ← UInt64.toNat_inj, UInt64.toNat_shiftRight, unpackSign, word, BitVec.extractLsb,
    ← BitVec.toNat_inj, Nat.shiftRight_eq_div_pow]
  omega

def isMinus : Sign → Bool
  | .negative => true
  | .positive => false

theorem isMinus_ofBitVec (v : BitVec 1) : isMinus (.ofBitVec v) = decide (v = 1#1) := by
  revert v
  decide

theorem isMinus_neg (s : Sign) : isMinus (-s) = !isMinus s := by
  cases s <;> rfl

theorem eq_of_isMinus {s t : Sign} (same : isMinus s = isMinus t) : s = t := by
  cases s <;> cases t <;> first | rfl | contradiction

/-- The magnitude and the sign bit of a double, by what it is. -/
def Shows (x : Float) : UnpackedFloat → Prop
  | .zero s => Dyadic.ofFloat x = ⟨0, -1074⟩ ∧ signBit x = isMinus s
  | .finite s m e _ => Dyadic.ofFloat x = ⟨m, e⟩ ∧ signBit x = isMinus s
  | .infinity s => (Dyadic.ofFloat x).exponent = 972 ∧ signBit x = isMinus s
  | .notANumber => (Dyadic.ofFloat x).exponent = 972

theorem shows_unpacked (x : Float) : Shows x (unpacked x) := by
  have fields : Unpacks (word x) (unpacked x) := unpacks (word x)
  have sign : signBit x = isMinus (.ofBitVec (unpackSign (word x))) := by
    rw [signBit_eq, isMinus_ofBitVec]
  have magnitude : Dyadic.ofFloat x =
      if (unpackExponent (word x)).toNat = 0 then ⟨(unpackMantissa (word x)).toNat, -1074⟩
      else ⟨2 ^ 52 + (unpackMantissa (word x)).toNat, (unpackExponent (word x)).toNat - 1075⟩ := by
    rw [← toNat_exponent, ← toNat_fraction]
    rfl
  generalize unpacked x = u at fields
  cases fields with
  | notANumber special some => simp [magnitude, special, Shows]
  | infinity special none => simp [magnitude, special, sign, Shows]
  | zero least none => simp [magnitude, least, none, sign, Shows]
  | subnormal least positive fraction => simp [magnitude, least, fraction, sign, Shows]
  | normal positive exponent least most mantissa unbiased =>
    rw [exponent, if_neg (by omega), ← mantissa, ← unbiased] at magnitude
    exact ⟨magnitude, sign⟩

theorem isFinite_iff (x : Float) : x.isFinite = true ↔ (Dyadic.ofFloat x).exponent ≤ 971 := by
  have bits := shows_unpacked x
  have canonical := canonical_unpacked x
  show (unpacked x).isFinite = true ↔ _
  generalize unpacked x = u at bits canonical
  cases canonical with
  | notANumber =>
    rw [show (Dyadic.ofFloat x).exponent = 972 from bits]
    exact iff_of_false Bool.false_ne_true (by decide)
  | infinity s =>
    rw [bits.1]
    exact iff_of_false Bool.false_ne_true (by decide)
  | zero s =>
    rw [bits.1]
    exact iff_of_true rfl (by decide)
  | finite s positive placed high =>
    rw [bits.1]
    exact iff_of_true rfl high

/-- A finite double is its sign and its magnitude. -/
theorem eq_of_magnitude {x y : Float} (finite : x.isFinite = true) (sign : signBit y = signBit x)
    (magnitude : Dyadic.ofFloat y = Dyadic.ofFloat x) : y = x := by
  -- The magnitude tells a special value from a number, and a zero from what is not zero.
  have finite_y : y.isFinite = true := by
    rw [isFinite_iff, magnitude]
    exact (isFinite_iff x).mp finite
  have bits := shows_unpacked x
  have bits_y := shows_unpacked y
  rw [← packed_unpacked x, ← packed_unpacked y]
  change (unpacked x).isFinite = true at finite
  change (unpacked y).isFinite = true at finite_y
  congr 1
  generalize unpacked x = u at bits finite
  generalize unpacked y = w at bits_y finite_y
  cases u with
  | infinity s => contradiction
  | notANumber => contradiction
  | zero s =>
    cases w with
    | infinity t => contradiction
    | notANumber => contradiction
    | zero t => rw [eq_of_isMinus (bits_y.2.symm.trans (sign.trans bits.2))]
    | finite t m e positive =>
      have mantissa := congrArg Dyadic.mantissa (bits_y.1.symm.trans (magnitude.trans bits.1))
      simp at mantissa
      omega
  | finite s m e positive =>
    have parts := magnitude.trans bits.1
    cases w with
    | infinity t => contradiction
    | notANumber => contradiction
    | zero t =>
      have mantissa := congrArg Dyadic.mantissa (bits_y.1.symm.trans parts)
      simp at mantissa
      omega
    | finite t n k positive' =>
      cases bits_y.1.symm.trans parts
      rw [eq_of_isMinus (bits_y.2.symm.trans (sign.trans bits.2))]

theorem unpacked_neg (x : Float) : unpacked (-x) = (unpacked x).neg := by
  have canonical := canonical_unpacked x
  show unpacked (packed (unpacked x).neg) = _
  generalize unpacked x = u at canonical
  apply unpacked_packed
  cases canonical with
  | notANumber => exact .notANumber
  | infinity s => exact .infinity _
  | zero s => exact .zero _
  | finite s positive placed high => exact .finite _ positive placed high

theorem isFinite_neg (x : Float) : (-x).isFinite = x.isFinite := by
  show (unpacked (-x)).isFinite = (unpacked x).isFinite
  rw [unpacked_neg]
  cases unpacked x <;> rfl

theorem isNaN_neg (x : Float) : (-x).isNaN = x.isNaN := by
  show (unpacked (-x)).isNaN = (unpacked x).isNaN
  rw [unpacked_neg]
  cases unpacked x <;> rfl

theorem neg_bits (x : Float) (finite : x.isFinite = true) :
    Dyadic.ofFloat (-x) = Dyadic.ofFloat x ∧ signBit (-x) = !signBit x := by
  have bits := shows_unpacked x
  have bits_neg := shows_unpacked (-x)
  rw [unpacked_neg] at bits_neg
  change (unpacked x).isFinite = true at finite
  generalize unpacked x = u at *
  cases u with
  | infinity s => contradiction
  | notANumber => contradiction
  | zero s => exact ⟨bits_neg.1.trans bits.1.symm, by rw [bits_neg.2, bits.2, isMinus_neg]⟩
  | finite s m e positive =>
    exact ⟨bits_neg.1.trans bits.1.symm, by rw [bits_neg.2, bits.2, isMinus_neg]⟩

end Double
end AgentWire
