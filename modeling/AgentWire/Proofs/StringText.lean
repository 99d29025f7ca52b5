import AgentWire.Json.Reader
import AgentWire.Json.Writer
import Mathlib.Tactic.Common
/-!
Written strings. Whether characters are kept or escaped, what is written is read back, two escaped
surrogates as the one character they stand for.
-/
namespace AgentWire.Json

theorem hexDigit_digitChar : ∀ k < 16, Numeral.hexDigit? (Nat.digitChar k) = some k := by decide

/-- A unit in four hexadecimal digits, none of them left out. -/
theorem hex4_eq {n : Nat} (unit : n < 0x10000) :
    hex4 n = [Nat.digitChar (n / 4096), Nat.digitChar (n / 256 % 16), Nat.digitChar (n / 16 % 16),
      Nat.digitChar (n % 16)] := by
  have split : ∀ k, 16 ≤ k →
      Nat.toDigits 16 k = Nat.toDigits 16 (k / 16) ++ [Nat.digitChar (k % 16)] := by
    intro k large
    exact Nat.toDigits_of_base_le (by decide) large
  have single : ∀ k, k < 16 → Nat.toDigits 16 k = [Nat.digitChar k] := by
    intro k small
    exact Nat.toDigits_of_lt_base small
  have zero : Nat.digitChar 0 = '0' := rfl
  have div2 : n / 16 / 16 = n / 256 := Nat.div_div_eq_div_mul ..
  have div3 : n / 256 / 16 = n / 4096 := Nat.div_div_eq_div_mul ..
  rw [hex4]
  by_cases one : n < 16
  · have h3 : n / 4096 = 0 := by omega
    have h2 : n / 256 % 16 = 0 := by omega
    have h1 : n / 16 % 16 = 0 := by omega
    have h0 : n % 16 = n := by omega
    rw [single n one, h3, h2, h1, h0, zero]
    rfl
  by_cases two : n < 256
  · have h3 : n / 4096 = 0 := by omega
    have h2 : n / 256 % 16 = 0 := by omega
    have h1 : n / 16 % 16 = n / 16 := by omega
    rw [split n (by omega), single (n / 16) (by omega), h3, h2, h1, zero]
    rfl
  by_cases three : n < 4096
  · have h3 : n / 4096 = 0 := by omega
    have h2 : n / 256 % 16 = n / 256 := by omega
    rw [split n (by omega), split (n / 16) (by omega), div2, single (n / 256) (by omega),
      h3, h2, zero]
    rfl
  · have h3 : n / 4096 < 16 := by omega
    rw [split n (by omega), split (n / 16) (by omega), div2, split (n / 256) (by omega),
      div3, single _ h3]
    rfl

theorem hexUnit_hex4 {n : Nat} (unit : n < 0x10000) :
    ∃ a b c d, hex4 n = [a, b, c, d] ∧ hexUnit? a b c d = some n := by
  refine ⟨_, _, _, _, hex4_eq unit, ?_⟩
  have h3 := hexDigit_digitChar (n / 4096) (by omega)
  have h2 := hexDigit_digitChar (n / 256 % 16) (by omega)
  have h1 := hexDigit_digitChar (n / 16 % 16) (by omega)
  have h0 := hexDigit_digitChar (n % 16) (by omega)
  simp only [hexUnit?, h3, h2, h1, h0, Option.bind_eq_bind, Option.bind_some, Option.pure_def,
    Option.some.injEq]
  omega

/-- The characters that have a letter for an escape. -/
def shortEscapes : List (Char × Char) :=
  [('"', '"'), ('\\', '\\'), ('\n', 'n'), ('\r', 'r'), ('\t', 't'), ('\x0c', 'f'), ('\x08', 'b')]

theorem writeChar_short (ascii : Bool) : ∀ p ∈ shortEscapes, writeChar ascii p.1 = ['\\', p.2] := by
  cases ascii <;> decide

theorem shortEscape_short : ∀ p ∈ shortEscapes, shortEscape? p.2 = some p.1 ∧ p.2 ≠ 'u' := by decide

/-- The pieces a character is written as. -/
def piecesOf (ascii : Bool) (c : Char) : List Piece :=
  if c ∈ shortEscapes.map (·.1) then [.char c]
  else if c.toNat < 0x20 then [.unit c.toNat]
  else if !ascii || c.toNat < 0x7F then [.char c]
  else if c.toNat < 0x10000 then [.unit c.toNat]
  else [.unit (0xD800 + (c.toNat - 0x10000) / 0x400), .unit (0xDC00 + (c.toNat - 0x10000) % 0x400)]

theorem writeChar_long (ascii : Bool) {c : Char} (long : c ∉ shortEscapes.map (·.1)) :
    writeChar ascii c =
      if c.toNat < 0x20 then unicodeEscape c.toNat
      else if !ascii || c.toNat < 0x7F then [c]
      else if c.toNat < 0x10000 then unicodeEscape c.toNat
      else unicodeEscape (0xD800 + (c.toNat - 0x10000) / 0x400) ++
        unicodeEscape (0xDC00 + (c.toNat - 0x10000) % 0x400) := by
  simp only [shortEscapes, List.map_cons, List.map_nil, List.mem_cons, List.not_mem_nil,
    or_false, not_or] at long
  obtain ⟨quote, slash, newline, carriage, tab, feed, back⟩ := long
  rw [writeChar, if_neg quote, if_neg slash, if_neg newline, if_neg carriage, if_neg tab,
    if_neg feed, if_neg back]

theorem readPieces_escape (start : List Char) {n : Nat} (unit : n < 0x10000) {more : List Char}
    (some : more ≠ []) :
    readPieces start (unicodeEscape n ++ more) =
      (readPieces start more).map fun (ps, r) => (.unit n :: ps, r) := by
  obtain ⟨a, b, c, d, digits, value⟩ := hexUnit_hex4 unit
  obtain ⟨e, rest, rfl⟩ := List.exists_cons_of_ne_nil some
  rw [unicodeEscape, digits]
  simp [readPieces, value]

theorem readPieces_short (start : List Char) {e d : Char} (named : shortEscape? e = some d)
    (letter : e ≠ 'u') (more : List Char) :
    readPieces start ('\\' :: e :: more) =
      (readPieces start more).map fun (ps, r) => (.char d :: ps, r) := by
  rw [readPieces.eq_def]
  simp [named]

theorem readPieces_plain (start : List Char) {c : Char} (quote : c ≠ '"') (slash : c ≠ '\\')
    (visible : ¬c.toNat < 0x20) (more : List Char) :
    readPieces start (c :: more) =
      (readPieces start more).map fun (ps, r) => (.char c :: ps, r) := by
  rw [readPieces.eq_def]
  dsimp only
  rw [if_neg quote, if_neg slash, if_neg visible]

theorem readPieces_quote (start rest : List Char) :
    readPieces start ('"' :: rest) = .ok ([], rest) := by
  rw [readPieces.eq_def]
  dsimp only
  rw [if_pos rfl]

theorem toNat_lt (c : Char) : c.toNat < 0x110000 := by
  have valid := c.valid
  simp only [UInt32.isValidChar, Nat.isValidChar] at valid
  have same : c.toNat = c.val.toNat := rfl
  omega

theorem readPieces_writeChar (start : List Char) (ascii : Bool) (c : Char) {more : List Char}
    (some : more ≠ []) :
    readPieces start (writeChar ascii c ++ more) =
      (readPieces start more).map fun (ps, r) => (piecesOf ascii c ++ ps, r) := by
  have bound := toNat_lt c
  rw [piecesOf]
  by_cases short : c ∈ shortEscapes.map (·.1)
  · obtain ⟨p, inside, rfl⟩ := List.mem_map.mp short
    obtain ⟨named, letter⟩ := shortEscape_short p inside
    rw [writeChar_short ascii p inside, if_pos short]
    exact readPieces_short start named letter more
  rw [writeChar_long ascii short, if_neg short]
  split
  · exact readPieces_escape start (by omega) some
  rename_i visible
  split
  · apply readPieces_plain start _ _ visible
    · intro quote
      exact short (quote ▸ by decide)
    · intro slash
      exact short (slash ▸ by decide)
  split
  · exact readPieces_escape start (by omega) some
  · rename_i large
    have low : 0xDC00 + (c.toNat - 0x10000) % 0x400 < 0x10000 := by omega
    have high : 0xD800 + (c.toNat - 0x10000) / 0x400 < 0x10000 := by omega
    have second : unicodeEscape (0xDC00 + (c.toNat - 0x10000) % 0x400) ++ more ≠ [] :=
      List.cons_ne_nil _ _
    rw [List.append_assoc, readPieces_escape start high second, readPieces_escape start low some]
    cases readPieces start more <;> rfl

theorem readPieces_written (start : List Char) (ascii : Bool) (cs rest : List Char) :
    readPieces start (cs.flatMap (writeChar ascii) ++ '"' :: rest) =
      .ok (cs.flatMap (piecesOf ascii), rest) := by
  induction cs with
  | nil => exact readPieces_quote start rest
  | cons c cs ih =>
    rw [List.flatMap_cons, List.append_assoc, readPieces_writeChar start ascii c (by simp), ih]
    rfl

/-! Pieces put together. -/

theorem joinPieces_unit {n : Nat} (single : isHighSurrogate n = false) (ps : List Piece) :
    joinPieces (.unit n :: ps) = unitChar n :: joinPieces ps := by
  cases ps with
  | nil => rfl
  | cons p rest =>
    cases p with
    | char c => rfl
    | unit m => simp [joinPieces, single]

theorem joinPieces_pair {n m : Nat} (high : isHighSurrogate n = true)
    (low : isLowSurrogate m = true) (ps : List Piece) :
    joinPieces (.unit n :: .unit m :: ps) =
      Char.ofNat (0x10000 + (n - 0xD800) * 0x400 + (m - 0xDC00)) :: joinPieces ps := by
  simp [joinPieces, high, low]

theorem not_surrogate (c : Char) : c.toNat < 0xD800 ∨ 0xE000 ≤ c.toNat := by
  have valid := c.valid
  simp only [UInt32.isValidChar, Nat.isValidChar] at valid
  have same : c.toNat = c.val.toNat := rfl
  omega

theorem joinPieces_alone (c : Char) (ps : List Piece) :
    joinPieces (.unit c.toNat :: ps) = c :: joinPieces ps := by
  have outside := not_surrogate c
  have single : isHighSurrogate c.toNat = false := by
    simp [isHighSurrogate]
    omega
  have own : unitChar c.toNat = c := by
    rw [unitChar, if_neg (by simp; omega), Char.ofNat_toNat]
  rw [joinPieces_unit single, own]

/-- A character is what its pieces stand for. -/
theorem joinPieces_piecesOf (ascii : Bool) (c : Char) (ps : List Piece) :
    joinPieces (piecesOf ascii c ++ ps) = c :: joinPieces ps := by
  have bound := toNat_lt c
  rw [piecesOf]
  split
  · rfl
  split
  · exact joinPieces_alone c ps
  split
  · rfl
  split
  · exact joinPieces_alone c ps
  · rename_i large
    have whole : 0x10000 + (0xD800 + (c.toNat - 0x10000) / 0x400 - 0xD800) * 0x400 +
        (0xDC00 + (c.toNat - 0x10000) % 0x400 - 0xDC00) = c.toNat := by omega
    have pair := joinPieces_pair (n := 0xD800 + (c.toNat - 0x10000) / 0x400)
      (m := 0xDC00 + (c.toNat - 0x10000) % 0x400) (by simp [isHighSurrogate]; omega)
      (by simp [isLowSurrogate]; omega) ps
    rw [whole, Char.ofNat_toNat] at pair
    exact pair

theorem joinPieces_written (ascii : Bool) (cs : List Char) :
    joinPieces (cs.flatMap (piecesOf ascii)) = cs := by
  induction cs with
  | nil => rfl
  | cons c cs ih => rw [List.flatMap_cons, joinPieces_piecesOf, ih]

/-- A written string is read back from behind its opening quote. -/
theorem readString_written (start : List Char) (ascii : Bool) (s : String) (rest : List Char) :
    readString start (s.toList.flatMap (writeChar ascii) ++ '"' :: rest) = .ok (s, rest) := by
  rw [readString, readPieces_written]
  show Except.ok (String.ofList (joinPieces (s.toList.flatMap (piecesOf ascii))), rest) = _
  rw [joinPieces_written, String.ofList_toList]

end AgentWire.Json
