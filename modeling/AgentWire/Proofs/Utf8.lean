import AgentWire.Text.Utf8
import Mathlib.Tactic.Common
/-!
The bytes of a text. They are read back as the text: every character takes as many bytes as its
place in the code asks for, and none of them can be taken for a fault. No other bytes are read as a
text.
-/
namespace AgentWire.Utf8

theorem isContinuation_iff (b : UInt8) :
    isContinuation b = true ↔ 0x80 ≤ b.toNat ∧ b.toNat < 0xC0 := by
  simp [isContinuation, UInt8.le_iff_toNat_le, UInt8.lt_iff_toNat_lt]

/-- When a byte may follow a lead byte, in numbers. -/
theorem follows_iff (lead b : UInt8) : follows lead b = true ↔
    (0x80 ≤ b.toNat ∧ b.toNat < 0xC0) ∧ (lead.toNat = 0xE0 → 0xA0 ≤ b.toNat) ∧
      (lead.toNat = 0xED → b.toNat < 0xA0) ∧
      (lead.toNat = 0xF0 → 0x90 ≤ b.toNat) ∧ (lead.toNat = 0xF4 → b.toNat < 0x90) := by
  simp only [follows, Bool.and_eq_true, Bool.or_eq_true, bne_iff_ne, decide_eq_true_eq,
    isContinuation_iff, ne_eq, ← UInt8.toNat_inj, UInt8.le_iff_toNat_le, UInt8.lt_iff_toNat_lt,
    UInt8.reduceToNat]
  omega

section Steps

variable {a b c d : UInt8}

theorem step_one (small : a.toNat < 0x80) (rest : List UInt8) :
    step a rest = .char (Char.ofNat a.toNat) 0 := by
  rw [step.eq_def, if_pos (by simpa [UInt8.lt_iff_toNat_lt] using small)]

theorem not_ascii (low : 0xC2 ≤ a.toNat) : ¬a < 0x80 := by
  simp [UInt8.lt_iff_toNat_lt]
  omega

theorem lead_valid (low : 0xC2 ≤ a.toNat) (high : a.toNat ≤ 0xF4) :
    (a < 0xC2 || 0xF4 < a) = false := by
  simp [UInt8.lt_iff_toNat_lt]
  omega

theorem step_two (low : 0xC2 ≤ a.toNat) (high : a.toNat < 0xE0) (next : follows a b = true)
    (rest : List UInt8) :
    step a (b :: rest) = .char (Char.ofNat (a.toNat % 32 * 64 + b.toNat % 64)) 1 := by
  have short : a < 0xE0 := by simpa [UInt8.lt_iff_toNat_lt] using high
  rw [step.eq_def, if_neg (not_ascii low), lead_valid low (by omega), if_neg Bool.false_ne_true]
  simp only [next, Bool.not_true, Bool.false_eq_true, if_false]
  rw [if_pos short]
  rfl

theorem step_three (low : 0xE0 ≤ a.toNat) (high : a.toNat < 0xF0) (next : follows a b = true)
    (last : isContinuation c = true) (rest : List UInt8) :
    step a (b :: c :: rest) =
      .char (Char.ofNat ((a.toNat % 16 * 64 + b.toNat % 64) * 64 + c.toNat % 64)) 2 := by
  have long : ¬a < 0xE0 := by simpa [UInt8.lt_iff_toNat_lt] using low
  have short : a < 0xF0 := by simpa [UInt8.lt_iff_toNat_lt] using high
  rw [step.eq_def, if_neg (not_ascii (by omega)), lead_valid (by omega) (by omega),
    if_neg Bool.false_ne_true]
  simp only [next, last, Bool.not_true, Bool.false_eq_true, if_false]
  rw [if_neg long, if_pos short]
  rfl

theorem step_four (low : 0xF0 ≤ a.toNat) (high : a.toNat ≤ 0xF4) (next : follows a b = true)
    (third : isContinuation c = true) (last : isContinuation d = true) (rest : List UInt8) :
    step a (b :: c :: d :: rest) =
      .char (Char.ofNat (((a.toNat % 8 * 64 + b.toNat % 64) * 64 + c.toNat % 64) * 64 +
        d.toNat % 64)) 3 := by
  have longer : ¬a < 0xF0 := by simpa [UInt8.lt_iff_toNat_lt] using low
  have long : ¬a < 0xE0 := by
    simp [UInt8.lt_iff_toNat_lt]
    omega
  rw [step.eq_def, if_neg (not_ascii (by omega)), lead_valid (by omega) high,
    if_neg Bool.false_ne_true]
  simp only [next, third, last, Bool.not_true, Bool.false_eq_true, if_false]
  rw [if_neg long, if_neg longer]
  rfl

end Steps

theorem toNat_byte {n : Nat} (small : n < 256) : (UInt8.ofNat n).toNat = n := by
  rw [UInt8.toNat_ofNat']
  exact Nat.mod_eq_of_lt small

theorem decodeFrom_skip (bytes rest : List UInt8) :
    decodeFrom bytes.length (bytes ++ rest) = decodeFrom 0 rest := by
  induction bytes with
  | nil => rfl
  | cons b bytes ih =>
    show decodeFrom (bytes.length + 1) (b :: (bytes ++ rest)) = _
    rw [decodeFrom, ih]

/-- A character whose first byte starts a step that passes over the others. -/
theorem decodeFrom_char {b : UInt8} (more : List UInt8) {rest : List UInt8} {c : Char}
    (starts : step b (more ++ rest) = .char c more.length) :
    decodeFrom 0 (b :: more ++ rest) = (decodeFrom 0 rest).map (c :: ·) := by
  rw [List.cons_append, decodeFrom, starts]
  dsimp only
  rw [decodeFrom_skip]

theorem decodeFrom_encoded (c : Char) (rest : List UInt8) :
    decodeFrom 0 (String.utf8EncodeChar c ++ rest) = (decodeFrom 0 rest).map (c :: ·) := by
  have valid := c.valid
  simp only [UInt32.isValidChar, Nat.isValidChar] at valid
  have itself : Char.ofNat c.val.toNat = c := Char.ofNat_toNat c
  generalize place : c.val.toNat = v at *
  rw [String.utf8EncodeChar, place]
  by_cases one : v ≤ 0x7F
  · have lead := toNat_byte (n := v) (by omega)
    have starts := step_one (a := UInt8.ofNat v) (by omega) rest
    rw [lead, itself] at starts
    rw [if_pos one]
    exact decodeFrom_char [] starts
  by_cases two : v ≤ 0x7FF
  · have lead := toNat_byte (n := v / 64 % 0x20 + 0xC0) (by omega)
    have last := toNat_byte (n := v % 0x40 + 0x80) (by omega)
    have next :=
      (follows_iff (UInt8.ofNat (v / 64 % 0x20 + 0xC0)) (UInt8.ofNat (v % 0x40 + 0x80))).mpr
        (by omega)
    have starts := step_two (by omega) (by omega) next rest
    have sum : (v / 64 % 0x20 + 0xC0) % 32 * 64 + (v % 0x40 + 0x80) % 64 = v := by omega
    rw [lead, last, sum, itself] at starts
    rw [if_neg one, if_pos two]
    exact decodeFrom_char [_] starts
  by_cases three : v ≤ 0xFFFF
  · have lead := toNat_byte (n := v / 4096 % 0x10 + 0xE0) (by omega)
    have second := toNat_byte (n := v / 64 % 0x40 + 0x80) (by omega)
    have last := toNat_byte (n := v % 0x40 + 0x80) (by omega)
    have next :=
      (follows_iff (UInt8.ofNat (v / 4096 % 0x10 + 0xE0)) (UInt8.ofNat (v / 64 % 0x40 + 0x80))).mpr
        (by omega)
    have ends := (isContinuation_iff (UInt8.ofNat (v % 0x40 + 0x80))).mpr (by omega)
    have starts := step_three (by omega) (by omega) next ends rest
    have sum : ((v / 4096 % 0x10 + 0xE0) % 16 * 64 + (v / 64 % 0x40 + 0x80) % 64) * 64 +
        (v % 0x40 + 0x80) % 64 = v := by omega
    rw [lead, second, last, sum, itself] at starts
    rw [if_neg one, if_neg two, if_pos three]
    exact decodeFrom_char [_, _] starts
  · have lead := toNat_byte (n := v / 262144 % 0x08 + 0xF0) (by omega)
    have second := toNat_byte (n := v / 4096 % 0x40 + 0x80) (by omega)
    have third := toNat_byte (n := v / 64 % 0x40 + 0x80) (by omega)
    have last := toNat_byte (n := v % 0x40 + 0x80) (by omega)
    have next :=
      (follows_iff (UInt8.ofNat (v / 262144 % 0x08 + 0xF0))
        (UInt8.ofNat (v / 4096 % 0x40 + 0x80))).mpr
        (by omega)
    have goes := (isContinuation_iff (UInt8.ofNat (v / 64 % 0x40 + 0x80))).mpr (by omega)
    have ends := (isContinuation_iff (UInt8.ofNat (v % 0x40 + 0x80))).mpr (by omega)
    have starts := step_four (by omega) (by omega) next goes ends rest
    have sum : (((v / 262144 % 0x08 + 0xF0) % 8 * 64 + (v / 4096 % 0x40 + 0x80) % 64) * 64 +
        (v / 64 % 0x40 + 0x80) % 64) * 64 + (v % 0x40 + 0x80) % 64 = v := by omega
    rw [lead, second, third, last, sum, itself] at starts
    rw [if_neg one, if_neg two, if_neg three]
    exact decodeFrom_char [_, _, _] starts

/-- The bytes of a text are read as that text. -/
theorem decode_encode (text : List Char) : decode (encode text) = .ok text := by
  induction text with
  | nil => rfl
  | cons c text ih =>
    show decodeFrom 0 (String.utf8EncodeChar c ++ encode text) = _
    rw [decodeFrom_encoded]
    rw [decode] at ih
    rw [ih]
    rfl

/-! The bytes that are read are those of the text. -/

theorem val_ofNat {n : Nat} (valid : n.isValidChar) : (Char.ofNat n).val.toNat = n := by
  rw [Char.ofNat, dif_pos valid]
  rfl

section Bytes

variable {a b c d : UInt8}

theorem ofNat_eq {n : Nat} (same : n = a.toNat) : UInt8.ofNat n = a := by
  rw [same, UInt8.ofNat_toNat]

theorem encode_one (small : a.toNat < 0x80) : String.utf8EncodeChar (Char.ofNat a.toNat) = [a] := by
  rw [String.utf8EncodeChar, val_ofNat (.inl (by omega)), if_pos (by omega), ofNat_eq rfl]

theorem encode_two (low : 0xC2 ≤ a.toNat) (high : a.toNat < 0xE0) (next : follows a b = true) :
    String.utf8EncodeChar (Char.ofNat (a.toNat % 32 * 64 + payload b)) = [a, b] := by
  have range := (follows_iff a b).mp next
  rw [payload, String.utf8EncodeChar, val_ofNat (.inl (by omega)), if_neg (by omega),
    if_pos (by omega)]
  rw [ofNat_eq (a := a) (by omega), ofNat_eq (a := b) (by omega)]

theorem encode_three (low : 0xE0 ≤ a.toNat) (high : a.toNat < 0xF0) (next : follows a b = true)
    (last : isContinuation c = true) :
    String.utf8EncodeChar (Char.ofNat ((a.toNat % 16 * 64 + payload b) * 64 + payload c)) = [a,
      b, c] := by
  have range := (follows_iff a b).mp next
  have ends := (isContinuation_iff c).mp last
  have valid : ((a.toNat % 16 * 64 + b.toNat % 64) * 64 + c.toNat % 64).isValidChar := by
    unfold Nat.isValidChar
    omega
  rw [payload, payload, String.utf8EncodeChar, val_ofNat valid, if_neg (by omega),
    if_neg (by omega), if_pos (by omega)]
  rw [ofNat_eq (a := a) (by omega), ofNat_eq (a := b) (by omega), ofNat_eq (a := c) (by omega)]

theorem encode_four (low : 0xF0 ≤ a.toNat) (high : a.toNat ≤ 0xF4) (next : follows a b = true)
    (third : isContinuation c = true) (last : isContinuation d = true) :
    String.utf8EncodeChar
      (Char.ofNat (((a.toNat % 8 * 64 + payload b) * 64 + payload c) * 64 + payload d)) =
      [a, b, c, d] := by
  have range := (follows_iff a b).mp next
  have goes := (isContinuation_iff c).mp third
  have ends := (isContinuation_iff d).mp last
  have valid : (((a.toNat % 8 * 64 + b.toNat % 64) * 64 + c.toNat % 64) * 64 +
      d.toNat % 64).isValidChar := by
    unfold Nat.isValidChar
    omega
  rw [payload, payload, payload, String.utf8EncodeChar, val_ofNat valid, if_neg (by omega),
    if_neg (by omega), if_neg (by omega)]
  rw [ofNat_eq (a := a) (by omega), ofNat_eq (a := b) (by omega), ofNat_eq (a := c) (by omega),
    ofNat_eq (a := d) (by omega)]

end Bytes

/-- A character that a step finds has the bytes that the step takes. -/
theorem step_char {b : UInt8} {rest : List UInt8} {c : Char} {more : Nat}
    (found : step b rest = .char c more) :
    ∃ taken tail, rest = taken ++ tail ∧ more = taken.length ∧
      String.utf8EncodeChar c = b :: taken := by
  unfold step at found
  split at found
  · rename_i small
    cases found
    exact ⟨[], rest, rfl, rfl, encode_one small⟩
  rename_i ascii
  split at found
  · cases found
  rename_i lead
  simp [UInt8.lt_iff_toNat_lt] at ascii lead
  split at found
  · cases found
  split at found
  · cases found
  rename_i next
  rw [Bool.not_eq_true', Bool.not_eq_false] at next
  split at found
  · rename_i short
    cases found
    exact ⟨[_], _, rfl, rfl, encode_two lead.1 short next⟩
  rename_i two
  rw [UInt8.lt_iff_toNat_lt, Nat.not_lt] at two
  split at found
  · cases found
  split at found
  · cases found
  rename_i third
  rw [Bool.not_eq_true', Bool.not_eq_false] at third
  split at found
  · rename_i short
    cases found
    exact ⟨[_, _], _, rfl, rfl, encode_three two short next third⟩
  rename_i three
  rw [UInt8.lt_iff_toNat_lt, Nat.not_lt] at three
  split at found
  · cases found
  split at found
  · cases found
  rename_i last
  rw [Bool.not_eq_true', Bool.not_eq_false] at last
  cases found
  exact ⟨[_, _, _], _, rfl, rfl, encode_four three lead.2 next third last⟩

theorem encode_of_decode {bytes : List UInt8} {text : List Char}
    (read : decodeFrom 0 bytes = .ok text) :
    bytes = encode text := by
  induction count : bytes.length using Nat.strongRecOn generalizing bytes text with
  | ind n ih =>
    subst count
    cases bytes with
    | nil =>
      cases read
      rfl
    | cons b rest =>
      rw [decodeFrom] at read
      split at read
      · rename_i c more found
        obtain ⟨taken, tail, rfl, rfl, bytes⟩ := step_char found
        rw [decodeFrom_skip] at read
        cases later : decodeFrom 0 tail with
        | error fault =>
          rw [later] at read
          cases read
        | ok others =>
          rw [later] at read
          cases read
          show b :: (taken ++ tail) = String.utf8EncodeChar c ++ encode others
          have shorter : tail.length < (b :: (taken ++ tail)).length := by
            rw [List.length_cons, List.length_append]
            omega
          rw [bytes, ← ih tail.length shorter later rfl]
          rfl
      · cases read

/-- Bytes are read as a text exactly if they are the text's. -/
theorem decode_eq_ok_iff {bytes : List UInt8} {text : List Char} :
    decode bytes = .ok text ↔ bytes = encode text := by
  constructor
  · exact encode_of_decode
  · rintro rfl
    exact decode_encode text

end AgentWire.Utf8
