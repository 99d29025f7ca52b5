import AgentWire.Proofs.Documents
import AgentWire.Proofs.NumberText
import AgentWire.Proofs.StringText
/-!
Written documents. Whatever the layout, a document whose keys differ is read back from its text if
its doubles are finite, and its text is refused otherwise. The reader's bound on the depth of its
calls is always enough.
-/
namespace AgentWire.Json

theorem skipBlanks_append {gap : List Char} (blank : ∀ c ∈ gap, isBlank c = true)
    (rest : List Char) :
    skipBlanks (gap ++ rest) = skipBlanks rest :=
  List.dropWhile_append_of_pos blank

theorem skipBlanks_cons {c : Char} (visible : isBlank c = false) (rest : List Char) :
    skipBlanks (c :: rest) = c :: rest := by
  rw [skipBlanks, List.dropWhile_cons, if_neg (by simp [visible])]

theorem breakLine_blank (layout : Layout) (level : Nat) :
    ∀ c ∈ breakLine layout level, isBlank c = true := by
  intro c inside
  cases layout with
  | indented step =>
    rcases List.mem_cons.mp inside with rfl | later
    · rfl
    · rw [List.eq_of_mem_replicate later]
      rfl
  | line => cases inside
  | compact => cases inside

theorem space_blank : ∀ c ∈ [' '], isBlank c = true :=
  List.forall_mem_singleton.mpr rfl

theorem comma_eq (layout : Layout) (level : Nat) :
    ∃ gap, comma layout level = ',' :: gap ∧ ∀ c ∈ gap, isBlank c = true := by
  cases layout with
  | line => exact ⟨[' '], rfl, space_blank⟩
  | compact => exact ⟨[], rfl, by simp⟩
  | indented step => exact ⟨_, rfl, breakLine_blank _ _⟩

theorem colon_eq (layout : Layout) :
    ∃ gap, colon layout = ':' :: gap ∧ ∀ c ∈ gap, isBlank c = true := by
  cases layout with
  | line => exact ⟨[' '], rfl, space_blank⟩
  | compact => exact ⟨[], rfl, by simp⟩
  | indented step => exact ⟨[' '], rfl, space_blank⟩

/-- What may stand behind a value inside of another: a blank, or a mark that ends it. -/
theorem numberEnds_cons {c : Char} (mark : c ∈ [',', ']', '}', '\n']) (rest : List Char) :
    NumberEnds (c :: rest) := by
  intro d more text
  cases text
  simp only [List.mem_cons, List.not_mem_nil, or_false] at mark
  rcases mark with rfl | rfl | rfl | rfl <;> decide

theorem numberEnds_break (layout : Layout) (level : Nat) {rest : List Char}
    (ends : NumberEnds rest) :
    NumberEnds (breakLine layout level ++ rest) := by
  cases layout with
  | indented step => exact numberEnds_cons (by decide) _
  | line => exact ends
  | compact => exact ends

theorem numberEnds_nil : NumberEnds [] := by
  intro c more text
  cases text

/-- The first character of a value. -/
def Opens (c : Char) : Prop := isBlank c = false ∧ c ≠ ']' ∧ c ≠ '}' ∧ c ≠ '\ufeff'

theorem opens_digit {c : Char} (digit : c.isDigit = true) : Opens c := by
  have other : ∀ b, b.isDigit = false → c ≠ b := by
    intro b letter same
    rw [same, letter] at digit
    contradiction
  refine ⟨?_, other _ (by decide), other _ (by decide), other _ (by decide)⟩
  simp only [isBlank, other ' ' (by decide), other '\t' (by decide), other '\n' (by decide),
    other '\r' (by decide), decide_false, Bool.or_self]

/-- A number starts with a digit, perhaps behind a minus. -/
theorem number_head {cs : List Char} {parsed : Json × List Char} (read : number? cs = some parsed) :
    ∃ c more, c.isDigit = true ∧ (cs = c :: more ∨ cs = '-' :: c :: more) := by
  obtain ⟨value, rest⟩ := parsed
  obtain ⟨negative, unsigned, whole, tail, rfl, found, -⟩ := number_cases read
  obtain ⟨rfl, isWhole⟩ := whole_of_integerPart found
  cases whole with
  | nil => exact absurd rfl isWhole.some
  | cons c more =>
    have digit := isWhole.all c List.mem_cons_self
    cases negative with
    | false => exact ⟨c, _, digit, .inl rfl⟩
    | true => exact ⟨c, _, digit, .inr rfl⟩

theorem after_none {word : String} {w : Char} {ws : List Char} (letters : word.toList = w :: ws)
    {c : Char} (other : w ≠ c) (rest : List Char) : after? word (c :: rest) = none := by
  rw [after?, letters, List.isPrefixOf, if_neg (by simp [other])]

theorem readPlain_number {cs : List Char} {parsed : Json × List Char}
    (read : number? cs = some parsed) :
    readPlain cs = .ok parsed := by
  obtain ⟨c, more, digit, text⟩ := number_head read
  have other : ∀ b, b.isDigit = false → b ≠ c := by
    intro b letter same
    rw [← same, letter] at digit
    contradiction
  have words : after? "null" cs = none ∧ after? "true" cs = none ∧ after? "false" cs = none ∧
      after? "NaN" cs = none ∧ after? "Infinity" cs = none ∧ after? "-Infinity" cs = none := by
    rcases text with rfl | rfl
    · exact ⟨after_none rfl (other _ rfl) _, after_none rfl (other _ rfl) _,
        after_none rfl (other _ rfl) _, after_none rfl (other _ rfl) _,
        after_none rfl (other _ rfl) _, after_none rfl (other _ rfl) _⟩
    · refine ⟨rfl, rfl, rfl, rfl, rfl, ?_⟩
      have letter := other 'I' rfl
      rw [after?, if_neg]
      simp [List.isPrefixOf, letter]
  obtain ⟨null, true_, false_, nan, infinity, negative⟩ := words
  simp [readPlain, null, true_, false_, nan, infinity, negative, read]

theorem readValue_plain (fuel : Nat) {c : Char} (quote : c ≠ '"') (bracket : c ≠ '[')
    (brace : c ≠ '\x7b') (more : List Char) :
    readValue (fuel + 1) (c :: more) = readPlain (c :: more) := by
  rw [readValue]
  · simpa using quote
  · simpa using bracket
  · simpa using brace

theorem readValue_number (fuel : Nat) {cs : List Char} {parsed : Json × List Char}
    (read : number? cs = some parsed) :
    readValue (fuel + 1) cs = .ok parsed := by
  obtain ⟨c, more, digit, text⟩ := number_head read
  have other : ∀ b, b.isDigit = false → c ≠ b := by
    intro b letter same
    rw [same, letter] at digit
    contradiction
  rw [← readPlain_number read]
  rcases text with rfl | rfl
  · exact readValue_plain fuel (other _ rfl) (other _ rfl) (other _ rfl) _
  · exact readValue_plain fuel (by decide) (by decide) (by decide) _

theorem writeString_append (ascii : Bool) (s : String) (rest : List Char) :
    writeString ascii s ++ rest = '"' :: (s.toList.flatMap (writeChar ascii) ++ '"' :: rest) := by
  simp [writeString]

theorem readValue_string (fuel : Nat) (ascii : Bool) (s : String) (rest : List Char) :
    readValue (fuel + 1) (writeString ascii s ++ rest) = .ok (.str s, rest) := by
  rw [writeString_append, readValue, readString_written]
  rfl

/-- A computation has its result if a condition holds, and fails otherwise. -/
def Answers {α : Type} (computed : Except Failure α) (good : Prop) (a : α) : Prop :=
  (good → computed = .ok a) ∧ (¬ good → ∃ f, computed = .error f)

theorem answers_ok {α : Type} {computed : Except Failure α} {good : Prop} {a : α}
    (same : computed = .ok a) (holds : good) : Answers computed good a :=
  ⟨fun _ => same, fun fails => absurd holds fails⟩

/-! Arrays and objects, one item or member at a time. -/

section Steps

variable {fuel : Nat} {cs rest inner tail : List Char} {x : Json} {items : List Json}
  {key : String} {members : List (String × Json)} {here there : Prop}

theorem readItems_last (value : Answers (readValue fuel cs) here (x, rest))
    (close : skipBlanks rest = ']' :: tail) :
    Answers (readItems (fuel + 1) cs) here ([x], tail) := by
  constructor
  · intro good
    simp [readItems, value.1 good, close, bind, Except.bind, pure, Except.pure]
  · intro bad
    obtain ⟨f, failed⟩ := value.2 bad
    simp [readItems, failed, bind, Except.bind]

theorem readItems_more (value : Answers (readValue fuel cs) here (x, rest))
    (comma : skipBlanks rest = ',' :: inner)
    (later : Answers (readItems fuel (skipBlanks inner)) there (items, tail)) :
    Answers (readItems (fuel + 1) cs) (here ∧ there) (x :: items, tail) := by
  constructor
  · rintro ⟨good, goods⟩
    simp [readItems, value.1 good, comma, later.1 goods, bind, Except.bind, pure, Except.pure]
  · intro bad
    by_cases good : here
    · obtain ⟨f, failed⟩ := later.2 fun goods => bad ⟨good, goods⟩
      simp [readItems, value.1 good, comma, failed, bind, Except.bind]
    · obtain ⟨f, failed⟩ := value.2 good
      simp [readItems, failed, bind, Except.bind]

theorem readMembers_last (name : readString (('"' :: cs)) cs = .ok (key, rest))
    (colon : skipBlanks rest = ':' :: inner) {beyond : List Char}
    (value : Answers (readValue fuel (skipBlanks inner)) here (x, beyond))
    (close : skipBlanks beyond = '}' :: tail) :
    Answers (readMembers (fuel + 1) ('"' :: cs)) here ([(key, x)], tail) := by
  constructor
  · intro good
    simp [readMembers, name, colon, value.1 good, close, bind, Except.bind, pure, Except.pure]
  · intro bad
    obtain ⟨f, failed⟩ := value.2 bad
    simp [readMembers, name, colon, failed, bind, Except.bind]

theorem readMembers_more (name : readString (('"' :: cs)) cs = .ok (key, rest))
    (colon : skipBlanks rest = ':' :: inner) {beyond more : List Char}
    (value : Answers (readValue fuel (skipBlanks inner)) here (x, beyond))
    (comma : skipBlanks beyond = ',' :: more)
    (later : Answers (readMembers fuel (skipBlanks more)) there (members, tail)) :
    Answers (readMembers (fuel + 1) ('"' :: cs)) (here ∧ there) ((key, x) :: members, tail) := by
  constructor
  · rintro ⟨good, goods⟩
    simp [readMembers, name, colon, value.1 good, comma, later.1 goods, bind, Except.bind,
      pure, Except.pure]
  · intro bad
    by_cases good : here
    · obtain ⟨f, failed⟩ := later.2 fun goods => bad ⟨good, goods⟩
      simp [readMembers, name, colon, value.1 good, comma, failed, bind, Except.bind]
    · obtain ⟨f, failed⟩ := value.2 good
      simp [readMembers, name, colon, failed, bind, Except.bind]

theorem readValue_items (opened : skipBlanks cs = inner) (open_ : ∀ more, inner ≠ ']' :: more)
    (read : Answers (readItems fuel inner) here (items, tail)) :
    Answers (readValue (fuel + 1) ('[' :: cs)) here (.arr items, tail) := by
  have called : readValue (fuel + 1) ('[' :: cs) =
      (readItems fuel inner).map fun read => (.arr read.1, read.2) := by
    rw [readValue, opened]
    split
    · exact absurd rfl (open_ _)
    · rfl
  rw [called]
  constructor
  · intro good
    rw [read.1 good]
    rfl
  · intro bad
    obtain ⟨f, failed⟩ := read.2 bad
    exact ⟨f, by rw [failed]; rfl⟩

theorem readValue_members (opened : skipBlanks cs = inner) (open_ : ∀ more, inner ≠ '}' :: more)
    (read : Answers (readMembers fuel inner) here (members, tail)) :
    Answers (readValue (fuel + 1) ('\x7b' :: cs)) here (ofMembers members, tail) := by
  have called : readValue (fuel + 1) ('\x7b' :: cs) =
      (readMembers fuel inner).map fun read => (ofMembers read.1, read.2) := by
    rw [readValue, opened]
    split
    · exact absurd rfl (open_ _)
    · rfl
  rw [called]
  constructor
  · intro good
    rw [read.1 good]
    rfl
  · intro bad
    obtain ⟨f, failed⟩ := read.2 bad
    exact ⟨f, by rw [failed]; rfl⟩

end Steps

theorem isNaN_of_finite {x : Float} (finite : x.isFinite = true) : x.isNaN = false := by
  change (Double.unpacked x).isFinite = true at finite
  show (Double.unpacked x).isNaN = false
  cases kind : Double.unpacked x with
  | notANumber =>
    rw [kind] at finite
    contradiction
  | infinity s => rfl
  | zero s => rfl
  | finite s m e positive => rfl

theorem writeFloat_finite {x : Float} (finite : x.isFinite = true) :
    writeFloat x = NumberText.finite x := by
  rw [writeFloat, isNaN_of_finite finite, finite]
  rfl

/-- A text that is read as a number opens a value. -/
theorem number_opens {cs : List Char} {parsed : Json × List Char}
    (read : number? (cs ++ []) = some parsed) :
    ∃ c more, cs = c :: more ∧ Opens c := by
  obtain ⟨c, more, digit, text⟩ := number_head read
  rw [List.append_nil] at text
  rcases text with rfl | rfl
  · exact ⟨c, more, rfl, opens_digit digit⟩
  · exact ⟨'-', c :: more, rfl, by decide, by decide, by decide, by decide⟩

theorem writeFloat_word {x : Float} (infinite : ¬ x.isFinite = true) : writeFloat x = "NaN".toList ∨
    writeFloat x = "Infinity".toList ∨ writeFloat x = "-Infinity".toList := by
  rw [writeFloat, if_neg infinite]
  split
  · exact .inl rfl
  split
  · exact .inr (.inr rfl)
  · exact .inr (.inl rfl)

theorem write_opens (st : Style) (level : Nat) (j : Json) :
    ∃ c more, write st level j = c :: more ∧ Opens c := by
  cases j with
  | null => exact ⟨'n', _, rfl, by decide, by decide, by decide, by decide⟩
  | bool b => cases b <;> exact ⟨_, _, rfl, by decide, by decide, by decide, by decide⟩
  | int i => exact number_opens (number_writeInt i numberEnds_nil)
  | num x =>
    rw [write]
    by_cases finite : x.isFinite = true
    · rw [writeFloat_finite finite]
      exact number_opens (number_finite finite numberEnds_nil)
    · rcases writeFloat_word finite with text | text | text <;> rw [text]
      · exact ⟨'N', _, rfl, by decide, by decide, by decide, by decide⟩
      · exact ⟨'I', _, rfl, by decide, by decide, by decide, by decide⟩
      · exact ⟨'-', _, rfl, by decide, by decide, by decide, by decide⟩
  | str s => exact ⟨'"', _, rfl, by decide, by decide, by decide, by decide⟩
  | arr items => cases items <;> exact ⟨'[', _, rfl, by decide, by decide, by decide, by decide⟩
  | obj members =>
    cases members <;> exact ⟨'\x7b', _, rfl, by decide, by decide, by decide, by decide⟩

theorem readValue_word (fuel : Nat) {x : Float} (infinite : ¬ x.isFinite = true)
    (rest : List Char) :
    ∃ f, readValue (fuel + 1) (writeFloat x ++ rest) = .error f := by
  rcases writeFloat_word infinite with text | text | text <;> rw [text] <;> exact ⟨_, rfl⟩

/-- What is written opens with no blank. -/
theorem skipBlanks_write (st : Style) (level : Nat) (j : Json) {gap : List Char}
    (blank : ∀ c ∈ gap, isBlank c = true) (rest : List Char) :
    skipBlanks (gap ++ (write st level j ++ rest)) = write st level j ++ rest := by
  obtain ⟨c, more, text, opens⟩ := write_opens st level j
  rw [skipBlanks_append blank, text]
  exact skipBlanks_cons opens.1 _

/-- A value is read back from its text, whatever stands behind it, if it is finite, and is refused
otherwise. -/
def ReadsBack (st : Style) (j : Json) : Prop :=
  ∀ level fuel rest, NumberEnds rest → 2 * (write st level j).length ≤ fuel →
    Answers (readValue fuel (write st level j ++ rest)) j.Finite (j, rest)

theorem readItems_written {st : Style} (level : Nat) {gap : List Char}
    (blank : ∀ c ∈ gap, isBlank c = true) (tail : List Char)
    (ends : NumberEnds (gap ++ ']' :: tail)) (x : Json) (rest : List Json)
    (back : ∀ y ∈ x :: rest, ReadsBack st y) (fuel : Nat)
    (enough : 2 * (write st level x ++ writeItems st level rest).length + 2 ≤ fuel) :
    Answers (readItems fuel (write st level x ++
      (writeItems st level rest ++ (gap ++ ']' :: tail))))
      (∀ y ∈ x :: rest, y.Finite) (x :: rest, tail) := by
  induction rest generalizing x fuel with
  | nil =>
    obtain ⟨fuel, rfl⟩ : ∃ k, fuel = k + 1 := ⟨fuel - 1, by omega⟩
    have value :=
      back x List.mem_cons_self level fuel _ ends (by simp [writeItems] at enough; omega)
    rw [List.forall_mem_singleton]
    apply readItems_last value
    rw [skipBlanks_append blank]
    exact skipBlanks_cons (by decide) _
  | cons y rest ih =>
    obtain ⟨fuel, rfl⟩ : ∃ k, fuel = k + 1 := ⟨fuel - 1, by omega⟩
    obtain ⟨after, text, blanks⟩ := comma_eq st.layout level
    simp only [writeItems, text, List.length_append, List.length_cons] at enough
    have later :=
      ih y (fun z inside => back z (List.mem_cons_of_mem _ inside)) fuel (by simp; omega)
    have joined : writeItems st level (y :: rest) ++ (gap ++ ']' :: tail) =
        ',' ::
          (after ++ (write st level y ++ (writeItems st level rest ++ (gap ++ ']' :: tail)))) := by
      simp [writeItems, text]
    have value := back x List.mem_cons_self level fuel _
      (joined ▸ numberEnds_cons (by decide) _) (by omega)
    rw [joined] at value ⊢
    rw [List.forall_mem_cons]
    apply readItems_more value (skipBlanks_cons (by decide) _)
    rw [skipBlanks_write st level y blanks]
    exact later

/-- A written member: its key, and its value behind the colon. -/
theorem member_written {st : Style} (level : Nat) (key : String) {x : Json} (back : ReadsBack st x)
    (fuel : Nat) {rest : List Char} (ends : NumberEnds rest)
    (enough : 2 * (write st level x).length ≤ fuel) :
    ∃ text inner, writeString st.ascii key ++ (colon st.layout ++ (write st level x ++ rest)) =
      '"' :: text ∧
      readString ('"' :: text) text = .ok (key, ':' :: inner) ∧
      Answers (readValue fuel (skipBlanks inner)) x.Finite (x, rest) := by
  obtain ⟨space, mark, spaces⟩ := colon_eq st.layout
  refine ⟨_, space ++ (write st level x ++ rest), writeString_append _ _ _, ?_, ?_⟩
  · rw [readString_written, mark]
    rfl
  · rw [skipBlanks_write st level x spaces]
    exact back level fuel rest ends enough

theorem readMembers_written {st : Style} (level : Nat) {gap : List Char}
    (blank : ∀ c ∈ gap, isBlank c = true) (tail : List Char)
    (ends : NumberEnds (gap ++ '}' :: tail)) (key : String) (x : Json) (rest : List (String × Json))
    (back : ∀ m ∈ (key, x) :: rest, ReadsBack st m.2) (fuel : Nat)
    (enough : 2 * (write st level x ++ writeMembers st level rest).length + 2 ≤ fuel) :
    Answers (readMembers fuel (writeString st.ascii key ++ (colon st.layout ++ (write st level x ++
        (writeMembers st level rest ++ (gap ++ '}' :: tail))))))
      (∀ m ∈ (key, x) :: rest, m.2.Finite) ((key, x) :: rest, tail) := by
  have back_x : ReadsBack st x := back (key, x) List.mem_cons_self
  induction rest generalizing key x fuel with
  | nil =>
    obtain ⟨fuel, rfl⟩ : ∃ k, fuel = k + 1 := ⟨fuel - 1, by omega⟩
    obtain ⟨text, inner, shown, name, value⟩ := member_written level key back_x fuel ends
      (by simp [writeMembers] at enough; omega)
    rw [List.forall_mem_singleton, writeMembers, List.nil_append, shown]
    apply readMembers_last name (skipBlanks_cons (by decide) _) value
    rw [skipBlanks_append blank]
    exact skipBlanks_cons (by decide) _
  | cons m rest ih =>
    obtain ⟨next, y⟩ := m
    obtain ⟨fuel, rfl⟩ : ∃ k, fuel = k + 1 := ⟨fuel - 1, by omega⟩
    obtain ⟨after, comma, blanks⟩ := comma_eq st.layout level
    simp only [writeMembers, comma, List.length_append, List.length_cons] at enough
    have later :=
      ih next y (fun n inside => back n (List.mem_cons_of_mem _ inside)) fuel (by simp; omega)
        (back (next, y) (by simp))
    have joined : writeMembers st level ((next, y) :: rest) ++ (gap ++ '}' :: tail) =
        ',' :: (after ++ (writeString st.ascii next ++ (colon st.layout ++ (write st level y ++
          (writeMembers st level rest ++ (gap ++ '}' :: tail)))))) := by
      simp [writeMembers, comma]
    obtain ⟨text, inner, shown, name, value⟩ := member_written level key back_x fuel
      (numberEnds_cons (show ',' ∈ [',', ']', '}', '\n'] by decide) _) (by omega)
    rw [List.forall_mem_cons, joined, shown]
    apply readMembers_more name (skipBlanks_cons (by decide) _) value
      (skipBlanks_cons (by decide) _)
    rw [skipBlanks_append blanks, writeString_append, skipBlanks_cons (by decide),
      ← writeString_append]
    exact later

/-! Members that are written once. -/

theorem insert_of_new {key : String} {members : List (String × Json)}
    (new : key ∉ members.map (·.1)) (x : Json) :
    insert key x members = members ++ [(key, x)] := by
  induction members with
  | nil => rfl
  | cons m rest ih =>
    rw [List.map_cons, List.mem_cons, not_or] at new
    rw [insert, if_neg (Ne.symm new.1), ih new.2]
    rfl

theorem foldl_insert {before later : List (String × Json)}
    (distinct : ((before ++ later).map (·.1)).Nodup) :
    later.foldl (fun members m => insert m.1 m.2 members) before = before ++ later := by
  induction later generalizing before with
  | nil => simp
  | cons m rest ih =>
    have new : m.1 ∉ before.map (·.1) := by
      rw [List.map_append, List.nodup_append] at distinct
      intro again
      exact distinct.2.2 _ again _ List.mem_cons_self rfl
    rw [List.foldl_cons, insert_of_new new, ih (by simpa using distinct)]
    simp

theorem ofMembers_distinct {members : List (String × Json)} (distinct : (members.map (·.1)).Nodup) :
    ofMembers members = .obj members := by
  have folded : members.foldl _ [] = [] ++ members := foldl_insert distinct
  exact congrArg obj folded

/-- A value whose keys differ is read back from its text if it is finite, and is refused
otherwise. -/
theorem readsBack (st : Style) {j : Json} (distinct : j.Distinct) : ReadsBack st j := by
  -- Every call for a part is paid for by a character of the whole that is not the part's: a
  -- bracket, a comma or a key.
  induction j using by_parts with
  | whole j items_back members_back =>
    intro level fuel rest ends enough
    obtain ⟨c, more, text, -⟩ := write_opens st level j
    have some : 0 < (write st level j).length := by rw [text]; exact Nat.zero_lt_succ _
    obtain ⟨fuel, rfl⟩ : ∃ k, fuel = k + 1 := ⟨fuel - 1, by omega⟩
    cases j with
    | null => exact answers_ok rfl rfl
    | bool b => cases b <;> exact answers_ok rfl rfl
    | int i => exact answers_ok (readValue_number fuel (number_writeInt i ends)) rfl
    | num x =>
      rw [write]
      by_cases finite : x.isFinite = true
      · rw [writeFloat_finite finite]
        exact answers_ok (readValue_number fuel (number_finite finite ends)) finite
      · exact ⟨fun good => absurd good finite, fun _ => readValue_word fuel finite rest⟩
    | str s => exact answers_ok (readValue_string fuel st.ascii s rest) rfl
    | arr items =>
      cases items with
      | nil => exact answers_ok rfl rfl
      | cons x items =>
        obtain ⟨c, more, text, opens⟩ := write_opens st (level + 1) x
        have inner := readItems_written (level + 1) (breakLine_blank st.layout level) rest
          (numberEnds_break _ _ (numberEnds_cons (by decide) rest)) x items
          (fun y inside => items_back y inside (everywhere_items distinct inside)) fuel
          (by simp [write] at enough ⊢; omega)
        have joined : write st level (.arr (x :: items)) ++ rest =
            '[' :: (breakLine st.layout (level + 1) ++
              (write st (level + 1) x ++
                (writeItems st (level + 1) items ++
                  (breakLine st.layout level ++ ']' :: rest)))) := by
          simp [write]
        rw [joined, Json.Finite, everywhere_arr, and_iff_right rfl]
        apply readValue_items (skipBlanks_write st (level + 1) x (breakLine_blank _ _) _) _ inner
        intro more' same
        rw [text] at same
        cases same
        exact opens.2.1 rfl
    | obj members =>
      cases members with
      | nil => exact answers_ok rfl rfl
      | cons m members =>
        obtain ⟨key, x⟩ := m
        have inner := readMembers_written (level + 1) (breakLine_blank st.layout level) rest
          (numberEnds_break _ _ (numberEnds_cons (by decide) rest)) key x members
          (fun n inside => members_back n inside (everywhere_members distinct inside)) fuel
          (by simp [write] at enough ⊢; omega)
        have joined : write st level (.obj ((key, x) :: members)) ++ rest =
            '\x7b' :: (breakLine st.layout (level + 1) ++
              (writeString st.ascii key ++ (colon st.layout ++ (write st (level + 1) x ++
                (writeMembers st (level + 1) members ++
                  (breakLine st.layout level ++ '}' :: rest)))))) := by
          simp [write]
        rw [joined, Json.Finite, everywhere_obj, and_iff_right rfl,
          ← ofMembers_distinct distinct.nodup]
        rw [writeString_append] at inner ⊢
        apply readValue_members _ _ inner
        · rw [skipBlanks_append (breakLine_blank _ _)]
          exact skipBlanks_cons (by decide) _
        · intro more' same
          cases same

/-- What a written text denotes, in every layout: its document, if the document is finite, and
nothing otherwise. -/
theorem read_written (st : Style) {j : Json} (distinct : j.Distinct) :
    Answers (read (write st 0 j)) j.Finite j := by
  obtain ⟨c, more, text, opens⟩ := write_opens st 0 j
  have value := readsBack st distinct 0 (2 * (write st 0 j).length + 2) [] numberEnds_nil (by omega)
  have blanks := skipBlanks_cons opens.1 more
  rw [List.append_nil] at value
  rw [text] at value ⊢
  have unmarked : ∀ rest, c :: more = '\ufeff' :: rest → False := by
    intro rest mark
    cases mark
    exact opens.2.2.2 rfl
  constructor
  · intro finite
    rw [read]
    · rw [blanks, value.1 finite]
      rfl
    · exact unmarked
  · intro infinite
    obtain ⟨f, failed⟩ := value.2 infinite
    refine ⟨f, ?_⟩
    rw [read]
    · rw [blanks, failed]
      rfl
    · exact unmarked

theorem read_write (st : Style) {j : Json} (distinct : j.Distinct) (finite : j.Finite) :
    read (write st 0 j) = .ok j :=
  (read_written st distinct).1 finite

end AgentWire.Json
