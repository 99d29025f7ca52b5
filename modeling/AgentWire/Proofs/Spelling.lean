import AgentWire.Proofs.JsonText
import AgentWire.Proofs.Occurrence

/-! What a text spells. Reading leaves a rest of the text, no object of the document that is read
has a key twice, and each of its doubles is the value of a numeral in the text. -/
namespace AgentWire.Json

def dropMinus : List Char → List Char
  | '-' :: rest => rest
  | cs => cs

/-- The decimal that a text starts with, without its sign. -/
def numeral? (cs : List Char) : Option Decimal := do
  let (whole, rest) ← integerPart? (dropMinus cs)
  let (part, rest) := (fraction? rest).getD ([], rest)
  let power := ((exponent? rest).map (·.1)).getD 0
  return ⟨Nat.ofDigitChars 10 (whole ++ part) 0, power - part.length⟩

theorem fraction_below (cs : List Char) : ((fraction? cs).getD ([], cs)).2 <:+ cs := by
  cases found : fraction? cs with
  | none => exact List.suffix_refl _
  | some both =>
    obtain ⟨-, -, rfl⟩ := fraction_eq_some found
    exact (List.suffix_append _ _).trans (List.suffix_cons _ _)

theorem exponent_suffix {cs rest : List Char} {n : Int} (read : exponent? cs = some (n, rest)) :
    rest <:+ cs := by
  obtain ⟨c, ds, -, -, -, text⟩ := exponent_eq_some read
  have digits : rest <:+ ds ++ rest := List.suffix_append _ _
  rcases text with ⟨rfl, -⟩ | ⟨rfl, -⟩ | ⟨rfl, -⟩
  · exact (digits.trans (List.suffix_cons _ _)).trans (List.suffix_cons _ _)
  · exact (digits.trans (List.suffix_cons _ _)).trans (List.suffix_cons _ _)
  · exact digits.trans (List.suffix_cons _ _)

theorem dropMinus_append (negative : Bool) {unsigned : List Char}
    (digit : ∀ more, unsigned ≠ '-' :: more) :
    dropMinus (minus negative ++ unsigned) = unsigned := by
  cases negative with
  | true => rfl
  | false =>
    show dropMinus unsigned = unsigned
    rw [dropMinus]
    exact digit

/-- What a number is read as: an integer, or the double of the decimal that is written, with its
sign. -/
theorem number_eq_some {cs rest : List Char} {j : Json} (read : number? cs = some (j, rest)) :
    rest <:+ cs ∧ ((∃ i, j = .int i) ∨
      ∃ q x, numeral? cs = some q ∧ j = .num x ∧ (x = q.toFloat ∨ x = -q.toFloat)) := by
  obtain ⟨negative, unsigned, whole, tail, rfl, found, ends⟩ := number_cases read
  obtain ⟨text, isWhole⟩ := whole_of_integerPart found
  have digit : ∀ more, unsigned ≠ '-' :: more := text ▸ isWhole.append_not_minus tail
  have below : tail <:+ minus negative ++ unsigned :=
    (text ▸ List.suffix_append whole tail).trans (List.suffix_append _ _)
  have part_below := (fraction_below tail).trans below
  have value : numeral? (minus negative ++ unsigned) =
      some ⟨Nat.ofDigitChars 10 (whole ++ ((fraction? tail).getD ([], tail)).1) 0,
        ((exponent? ((fraction? tail).getD ([], tail)).2).map (·.1)).getD 0 -
          ((fraction? tail).getD ([], tail)).1.length⟩ := by
    rw [numeral?, dropMinus_append negative digit, found]
    rfl
  generalize (fraction? tail).getD ([], tail) = part at *
  have signed (x : Float) : (if negative then -x else x) = x ∨
      (if negative then -x else x) = -x := by
    cases negative
    · exact .inl rfl
    · exact .inr rfl
  cases ends with
  | integer => exact ⟨part_below, .inl ⟨_, rfl⟩⟩
  | pointed _ unscaled =>
    rw [unscaled] at value
    exact ⟨part_below, .inr ⟨_, _, value, rfl, signed _⟩⟩
  | scaled scale =>
    rw [scale] at value
    exact ⟨(exponent_suffix scale).trans part_below, .inr ⟨_, _, value, rfl, signed _⟩⟩

theorem after_suffix {word : String} {cs rest : List Char} (read : after? word cs = some rest) :
    rest <:+ cs := by
  rw [after?] at read
  split at read <;> cases read
  exact List.drop_suffix _ _

theorem skipBlanks_suffix (cs : List Char) : skipBlanks cs <:+ cs :=
  List.dropWhile_suffix _

theorem prepended {read : Except Failure (List Piece × List Char)} {p : Piece} {ps : List Piece}
    {rest : List Char} (mapped : (read.map fun (ps, r) => (p :: ps, r)) = .ok (ps, rest)) :
    ∃ qs, read = .ok (qs, rest) := by
  obtain ⟨both, done, same⟩ := map_eq_ok_iff.mp mapped
  cases same
  exact ⟨both.1, done⟩

theorem readPieces_suffix {start cs rest : List Char} {ps : List Piece}
    (read : readPieces start cs = .ok (ps, rest)) :
    rest <:+ cs := by
  fun_induction readPieces start cs generalizing ps rest with
  | case2 =>
    cases read
    exact List.suffix_cons _ _
  | case4 h1 h2 h3 h4 n c tail value quote ih =>
    obtain ⟨qs, inner⟩ := prepended read
    exact (ih inner).trans ⟨['\\', 'u', h1, h2, h3, h4], rfl⟩
  | case7 e more letter d named quote ih =>
    obtain ⟨qs, inner⟩ := prepended read
    exact (ih inner).trans ⟨['\\', e], rfl⟩
  | case10 c more quote slash visible ih =>
    obtain ⟨qs, inner⟩ := prepended read
    exact (ih inner).trans (List.suffix_cons _ _)
  | _ => cases read

theorem readString_suffix {start cs rest : List Char} {s : String}
    (read : readString start cs = .ok (s, rest)) :
    rest <:+ cs := by
  obtain ⟨both, pieces, same⟩ := map_eq_ok_iff.mp read
  cases same
  exact readPieces_suffix pieces

/-- A double stands in a text: one of its numbers is read as it. -/
def Names (cs : List Char) (x : Float) : Prop :=
  ∃ at_ rest, at_ <:+ cs ∧ number? at_ = some (.num x, rest)

/-- What a text can denote: no object has a key twice, and the doubles are those of the numbers in
the text. -/
structure Spelled (cs : List Char) (j : Json) : Prop where
  distinct : j.Distinct
  named : ∀ x, j.Holds x → Names cs x

theorem Spelled.longer {cs longer : List Char} {j : Json} (spelled : Spelled cs j)
    (part : cs <:+ longer) :
    Spelled longer j := by
  refine ⟨spelled.distinct, ?_⟩
  intro x holds
  obtain ⟨at_, rest, inside, read⟩ := spelled.named x holds
  exact ⟨at_, rest, inside.trans part, read⟩

/-- A value without doubles is spelled by every text. -/
theorem spelled_plain {cs : List Char} {j : Json} (distinct : j.Distinct)
    (none : ∀ x, ¬ j.Holds x) : Spelled cs j :=
  ⟨distinct, fun x holds => absurd holds (none x)⟩

theorem readPlain_spelled {cs rest : List Char} {j : Json} (read : readPlain cs = .ok (j, rest)) :
    rest <:+ cs ∧ Spelled cs j := by
  unfold readPlain at read
  split at read
  · rename_i found
    cases read
    exact ⟨after_suffix found, spelled_plain rfl (fun x holds => by cases holds)⟩
  · rename_i found _
    cases read
    exact ⟨after_suffix found, spelled_plain rfl (fun x holds => by cases holds)⟩
  · rename_i found _ _
    cases read
    exact ⟨after_suffix found, spelled_plain rfl (fun x holds => by cases holds)⟩
  split at read
  · cases read
  split at read
  · rename_i found
    cases read
    obtain ⟨shorter, ⟨i, rfl⟩ | ⟨q, x, _, rfl, _⟩⟩ := number_eq_some found
    · exact ⟨shorter, spelled_plain rfl (fun x holds => by cases holds)⟩
    · refine ⟨shorter, rfl, ?_⟩
      intro y holds
      cases holds
      exact ⟨cs, rest, List.suffix_refl _, found⟩
  · cases read

/-! Members with a key that comes again. -/

theorem insert_keys (key : String) (x : Json) (members : List (String × Json)) :
    (insert key x members).map (·.1) =
      if key ∈ members.map (·.1) then members.map (·.1) else members.map (·.1) ++ [key] := by
  induction members with
  | nil => rfl
  | cons m rest ih =>
    obtain ⟨k, y⟩ := m
    rw [insert]
    by_cases same : k = key
    · simp [same]
    · have other : key ≠ k := Ne.symm same
      rw [if_neg same, List.map_cons, ih]
      by_cases later : key ∈ rest.map (·.1)
      · simp [other, later]
      · simp [other, later]

theorem insert_nodup (key : String) (x : Json) {members : List (String × Json)}
    (distinct : (members.map (·.1)).Nodup) : ((insert key x members).map (·.1)).Nodup := by
  rw [insert_keys]
  split
  · exact distinct
  · rename_i new
    exact List.nodup_append.mpr ⟨distinct, List.nodup_singleton key, by
      intro k inside other single same
      rw [List.mem_singleton.mp single] at same
      exact new (same ▸ inside)⟩

theorem mem_insert {key : String} {x : Json} {members : List (String × Json)} {m : String × Json}
    (inside : m ∈ insert key x members) : m ∈ members ∨ m = (key, x) := by
  induction members with
  | nil => exact .inr (List.mem_singleton.mp inside)
  | cons n rest ih =>
    obtain ⟨k, y⟩ := n
    rw [insert] at inside
    split at inside
    · rename_i same
      rcases List.mem_cons.mp inside with rfl | later
      · exact .inr (by rw [same])
      · exact .inl (List.mem_cons_of_mem _ later)
    · rcases List.mem_cons.mp inside with rfl | later
      · exact .inl List.mem_cons_self
      · rcases ih later with here | new
        · exact .inl (List.mem_cons_of_mem _ here)
        · exact .inr new

theorem spelled_obj {cs : List Char} {members : List (String × Json)}
    (distinct : (members.map (·.1)).Nodup) (each : ∀ m ∈ members, Spelled cs m.2) :
    Spelled cs (.obj members) := by
  refine ⟨everywhere_obj.mpr ⟨decide_eq_true distinct, fun m inside => (each m inside).distinct⟩,
    ?_⟩
  intro x holds
  cases holds with
  | member inside deeper => exact (each _ inside).named x deeper

theorem spelled_arr {cs : List Char} {items : List Json} (each : ∀ y ∈ items, Spelled cs y) :
    Spelled cs (.arr items) := by
  refine ⟨everywhere_arr.mpr ⟨rfl, fun y inside => (each y inside).distinct⟩, ?_⟩
  intro x holds
  cases holds with
  | item inside deeper => exact (each _ inside).named x deeper

theorem spelled_ofMembers {cs : List Char} {written : List (String × Json)}
    (each : ∀ m ∈ written, Spelled cs m.2) : Spelled cs (ofMembers written) := by
  have folded : ∀ later before : List (String × Json), (∀ m ∈ later, Spelled cs m.2) →
      (before.map (·.1)).Nodup → (∀ m ∈ before, Spelled cs m.2) →
      Spelled cs (.obj (later.foldl (fun members m => insert m.1 m.2 members) before)) := by
    intro later
    induction later with
    | nil =>
      intro before _ distinct each
      exact spelled_obj distinct each
    | cons m rest ih =>
      intro before later_each distinct each
      rw [List.forall_mem_cons] at later_each
      apply ih _ later_each.2 (insert_nodup m.1 m.2 distinct)
      intro n inside
      rcases mem_insert inside with old | new
      · exact each n old
      · rw [new]
        exact later_each.1
  exact folded written [] each List.nodup_nil (by simp)

/-! What one call of a reader leaves is a rest of its text, and what it reads is spelled by the
text. -/

def SpellsValues (fuel : Nat) : Prop :=
  ∀ cs j rest, readValue fuel cs = .ok (j, rest) → rest <:+ cs ∧ Spelled cs j

def SpellsItems (fuel : Nat) : Prop :=
  ∀ cs items rest, readItems fuel cs = .ok (items, rest) → rest <:+ cs ∧ ∀ y ∈ items, Spelled cs y

def SpellsMembers (fuel : Nat) : Prop :=
  ∀ cs members rest, readMembers fuel cs = .ok (members, rest) →
    rest <:+ cs ∧ ∀ m ∈ members, Spelled cs m.2

theorem readValue_spelled {fuel : Nat} (items : SpellsItems fuel) (members : SpellsMembers fuel) :
    SpellsValues (fuel + 1) := by
  intro cs j rest read
  rw [readValue.eq_def] at read
  dsimp only at read
  split at read
  · rename_i tail
    obtain ⟨both, inner, made⟩ := map_eq_ok_iff.mp read
    cases made
    exact ⟨(readString_suffix inner).trans (List.suffix_cons _ _),
      spelled_plain rfl (fun x holds => by cases holds)⟩
  · rename_i tail
    have below : skipBlanks tail <:+ '[' :: tail :=
      (skipBlanks_suffix tail).trans (List.suffix_cons _ _)
    split at read
    · rename_i more closed
      cases read
      rw [closed] at below
      exact ⟨(List.suffix_cons _ _).trans below, spelled_arr (by simp)⟩
    · obtain ⟨both, inner, made⟩ := map_eq_ok_iff.mp read
      cases made
      obtain ⟨shorter, each⟩ := items _ _ _ inner
      exact ⟨shorter.trans below, spelled_arr fun y inside => (each y inside).longer below⟩
  · rename_i tail
    have below : skipBlanks tail <:+ '\x7b' :: tail :=
      (skipBlanks_suffix tail).trans (List.suffix_cons _ _)
    split at read
    · rename_i more closed
      cases read
      rw [closed] at below
      exact ⟨(List.suffix_cons _ _).trans below, spelled_obj List.nodup_nil (by simp)⟩
    · obtain ⟨both, inner, made⟩ := map_eq_ok_iff.mp read
      cases made
      obtain ⟨shorter, each⟩ := members _ _ _ inner
      exact ⟨shorter.trans below, spelled_ofMembers fun m inside => (each m inside).longer below⟩
  · exact readPlain_spelled read

theorem readItems_spelled {fuel : Nat} (values : SpellsValues fuel) (items : SpellsItems fuel) :
    SpellsItems (fuel + 1) := by
  intro cs all rest read
  rw [readItems] at read
  obtain ⟨⟨x, tail⟩, first, read⟩ := bind_eq_ok_iff.mp read
  obtain ⟨shorter, spelled⟩ := values _ _ _ first
  have below := (skipBlanks_suffix tail).trans shorter
  dsimp only at read
  split at read
  · rename_i more closed
    cases read
    rw [closed] at below
    exact ⟨(List.suffix_cons _ _).trans below, by simpa using spelled⟩
  · rename_i more comma
    obtain ⟨⟨later, tail⟩, others, read⟩ := bind_eq_ok_iff.mp read
    cases read
    rw [comma] at below
    have behind := ((skipBlanks_suffix more).trans (List.suffix_cons _ _)).trans below
    obtain ⟨shorter, each⟩ := items _ _ _ others
    refine ⟨shorter.trans behind, ?_⟩
    rw [List.forall_mem_cons]
    exact ⟨spelled, fun y inside => (each y inside).longer behind⟩
  · cases read

theorem readMembers_spelled {fuel : Nat} (values : SpellsValues fuel)
    (members : SpellsMembers fuel) :
    SpellsMembers (fuel + 1) := by
  intro cs all rest read
  rw [readMembers.eq_def] at read
  dsimp only at read
  split at read
  · rename_i tail
    obtain ⟨⟨key, tail'⟩, name, read⟩ := bind_eq_ok_iff.mp read
    have named :=
      ((skipBlanks_suffix _).trans (readString_suffix name)).trans (List.suffix_cons '"' _)
    dsimp only at read
    split at read
    · rename_i inner colon
      rw [colon] at named
      obtain ⟨⟨x, tail⟩, first, read⟩ := bind_eq_ok_iff.mp read
      have started := ((skipBlanks_suffix inner).trans (List.suffix_cons _ _)).trans named
      obtain ⟨shorter, spelled⟩ := values _ _ _ first
      replace spelled := spelled.longer started
      have below := ((skipBlanks_suffix tail).trans shorter).trans started
      dsimp only at read
      split at read
      · rename_i more closed
        cases read
        rw [closed] at below
        exact ⟨(List.suffix_cons _ _).trans below, by simpa using spelled⟩
      · rename_i more comma
        obtain ⟨⟨later, tail⟩, others, read⟩ := bind_eq_ok_iff.mp read
        cases read
        rw [comma] at below
        have behind := ((skipBlanks_suffix more).trans (List.suffix_cons _ _)).trans below
        obtain ⟨shorter, each⟩ := members _ _ _ others
        refine ⟨shorter.trans behind, ?_⟩
        rw [List.forall_mem_cons]
        exact ⟨spelled, fun m inside => (each m inside).longer behind⟩
      · cases read
    · cases read
  · cases read

theorem reads_spelled (fuel : Nat) : SpellsValues fuel ∧ SpellsItems fuel ∧ SpellsMembers fuel := by
  -- The readers call each other, each time with one call fewer, so the three are proved together.
  induction fuel with
  | zero =>
    refine ⟨?_, ?_, ?_⟩
    · intro cs j rest read
      cases read
    · intro cs items rest read
      cases read
    · intro cs members rest read
      cases read
  | succ fuel ih =>
    obtain ⟨values, items, members⟩ := ih
    exact ⟨readValue_spelled items members, readItems_spelled values items,
      readMembers_spelled values members⟩

/-- A document that is read is spelled by its text. -/
theorem read_spelled {text : List Char} {j : Json} (read : Json.read text = .ok j) :
    Spelled text j := by
  unfold Json.read at read
  split at read
  · cases read
  · obtain ⟨⟨x, tail⟩, first, read⟩ := bind_eq_ok_iff.mp read
    dsimp only at read
    split at read
    · cases read
      exact ((reads_spelled _).1 _ _ _ first).2.longer (skipBlanks_suffix text)
    · cases read

end AgentWire.Json
