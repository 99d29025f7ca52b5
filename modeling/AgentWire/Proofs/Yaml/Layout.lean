import AgentWire.Proofs.Yaml.Lexing

/-! The layout of a JSON value in blocks. Each entry of a block starts a line in its column, and
what stands inside it stands further right; so the tokens of a value are those of its parts with the
bounds of its block around them. -/
namespace AgentWire.Yaml

open Lexer (here leastIn opened)

namespace Node

mutual
def ofJson : Json → Node
  | .null => text .null "null".toList
  | .bool b => text .bool (if b then "true" else "false").toList
  | .int i => text .int (Datum.intText i)
  | .num x => text .float (Scalar.floatText x)
  | .str s => .scalar none .str s
  | .arr items => .sequence none .seq (ofJsonItems items)
  | .obj members => .mapping none .map (ofJsonMembers members)

def ofJsonItems : List Json → List Node
  | [] => []
  | x :: rest => ofJson x :: ofJsonItems rest

def ofJsonMembers : List (String × Json) → List (Node × Node)
  | [] => []
  | (k, x) :: rest => (.scalar none .str k, ofJson x) :: ofJsonMembers rest
end

/-- Whether a text can stand before its colon. -/
def isSimple (key : String) : Bool :=
  isSimpleKey (.scalar none .str key)

def keyText (key : String) : List Char :=
  writeSimpleKey (.key 0) (.scalar none .str key)

def word (t : Tag) (cs : List Char) : Token :=
  .scalar (ScalarText.style t cs = .plain) (String.ofList cs)

mutual
/-- The tokens of a value. Right after a simple key the items of a list have no block of their
own. -/
def tokens (loose : Bool) : Json → List Token
  | .arr [] => [.flowSequence, .flowSequenceEnd]
  | .arr (x :: rest) =>
    if loose then itemTokens (x :: rest)
    else .blockSequence :: (itemTokens (x :: rest) ++ [.blockEnd])
  | .obj [] => [.flowMapping, .flowMappingEnd]
  | .obj (m :: rest) => .blockMapping :: (memberTokens (m :: rest) ++ [.blockEnd])
  | j => ((scalar? j).map fun (t, cs) => word t cs).toList

def itemTokens : List Json → List Token
  | [] => []
  | x :: rest => .item :: (tokens false x ++ itemTokens rest)

def memberTokens : List (String × Json) → List Token
  | [] => []
  | (k, x) :: rest =>
    .key :: word .str k.toList :: .value :: (tokens (isSimple k) x ++ memberTokens rest)
end

/-- Whether a text comes back from the page when its further lines stand in a column. -/
def isLegibleText (column : Nat) (s : String) : Bool :=
  ScalarText.style .str s.toList ≠ .double || ScalarText.isKept column s.toList

mutual
/-- Whether a value comes back from the page: the reader finds every key, and no line is broken
within an escape. `column` is where a text or a mapping here has its further lines. -/
def isLegible (column : Nat) (loose : Bool) : Json → Bool
  | .str s => isLegibleText column s
  | .arr items => areLegible (if loose then column else column + 2) items
  | .obj members => areLegibleMembers (column + 2) members
  | .null | .bool _ | .int _ | .num _ => true

def areLegible (column : Nat) : List Json → Bool
  | [] => true
  | x :: rest => isLegible column false x && areLegible column rest

def areLegibleMembers (column : Nat) : List (String × Json) → Bool
  | [] => true
  | (k, x) :: rest =>
    (if isSimple k then (keyText k).length ≤ Yaml.keyLimit && isLegible column true x
      else isLegibleText column k && isLegible column false x) && areLegibleMembers column rest
end

/-! The lines of a block. -/

/-- The line on which the items of a block start, before a line that follows them. -/
def itemLine (column : Nat) : List Json → Line → Line
  | [], l => l
  | x :: rest, l =>
    ⟨column, '-' :: (write (.item column) (ofJson x) ++ '\n' :: (itemLine column rest l).chars)⟩

def memberText (column : Nat) (key : String) (x : Json) : List Char :=
  if isSimple key then
    let k := writeSimpleKey (.key column) (.scalar none .str key)
    k ++ ':' :: write (.value column (column + k.length + 1)) (ofJson x)
  else '?' :: write (.announced column) (.scalar none .str key) ++ ScalarText.newLine column ++
    ':' :: write (.announced column) (ofJson x)

def memberLine (column : Nat) : List (String × Json) → Line → Line
  | [], l => l
  | (k, x) :: rest, l => ⟨column, memberText column k x ++ '\n' :: (memberLine column rest l).chars⟩

theorem writeItems_lines (column : Nat) (items : List Json) (l : Line) :
    writeItems column (ofJsonItems items) ++ '\n' :: l.chars =
      '\n' :: (itemLine column items l).chars := by
  induction items with
  | nil => rfl
  | cons x rest ih =>
    rw [ofJsonItems, writeItems, itemLine]
    simp only [List.append_assoc, List.cons_append, ih]
    simp [ScalarText.newLine, Line.chars]

theorem writeEntries_lines (column : Nat) (members : List (String × Json)) (l : Line) :
    writeEntries column (ofJsonMembers members) ++ '\n' :: l.chars =
      '\n' :: (memberLine column members l).chars := by
  induction members with
  | nil => rfl
  | cons m rest ih =>
    rw [ofJsonMembers, writeEntries, memberLine]
    simp only [List.append_assoc, List.cons_append, ih]
    simp [ScalarText.newLine, Line.chars, memberText, isSimple]

theorem ofJson_scalar {j : Json} {t : Tag} {cs : List Char} (scalar : scalar? j = some (t, cs)) :
    ofJson j = text t cs := by
  cases j with
  | str s => cases scalar; rw [text, String.ofList_toList]; rfl
  | arr items => cases scalar
  | obj members => cases scalar
  | _ => cases scalar; rfl

theorem write_scalar {j : Json} {t : Tag} {cs : List Char}
    (scalar : scalar? j = some (t, cs)) (s : Spot) :
    write s (ofJson j) = s.word (ScalarText.write ⟨s.column + (if s.spaced then 1 else 0),
      s.scalarIndent, true⟩
      (ScalarText.style t cs) cs) := by
  rw [← ScalarText.writeScalar_eq (scalar_fits scalar), ofJson_scalar scalar, text, write,
    String.toList_ofList]

theorem write_items (s : Spot) (x : Json) (rest : List Json) (l : Line) :
    write s (ofJson (.arr (x :: rest))) ++ '\n' :: l.chars =
      s.opening s.sequenceIndent ++ (itemLine s.sequenceIndent (x :: rest) l).text := by
  have lines := writeItems_lines s.sequenceIndent rest l
  show (s.opening s.sequenceIndent ++ '-' :: write (.item s.sequenceIndent) (ofJson x) ++
    writeItems s.sequenceIndent (ofJsonItems rest)) ++ '\n' :: l.chars = _
  rw [itemLine, List.append_assoc, lines, List.append_assoc]
  rfl

theorem write_members (s : Spot) (m : String × Json) (rest : List (String × Json)) (l : Line) :
    write s (ofJson (.obj (m :: rest))) ++ '\n' :: l.chars =
      s.opening s.mappingIndent ++ (memberLine s.mappingIndent (m :: rest) l).text := by
  have lines := writeEntries_lines s.mappingIndent rest l
  show (s.opening s.mappingIndent ++ memberText s.mappingIndent m.1 m.2 ++
    writeEntries s.mappingIndent (ofJsonMembers rest)) ++ '\n' :: l.chars = _
  rw [memberLine, List.append_assoc, lines, List.append_assoc]

/-- A key is written like a value that has to stay on its line. -/
theorem writeKey_eq (column : Nat) (key : String) :
    writeSimpleKey (.key column) (.scalar none .str key) =
      ScalarText.write ⟨column, column + 2, false⟩ (ScalarText.style .str key.toList) key.toList :=
  ScalarText.writeScalar_eq (.inl rfl) (.key column) false

theorem keyText_starts (column : Nat) (key : String) :
    ∃ c rest, writeSimpleKey (.key column) (.scalar none .str key) = c :: rest ∧
      IsVisible c ∧ c ≠ '#' := by
  rw [writeKey_eq]
  exact ScalarText.write_starts (ScalarText.styled (.inl rfl)) _

theorem memberText_simple (column : Nat) {key : String} (simple : isSimple key = true) (x : Json) :
    memberText column key x = writeSimpleKey (.key column) (.scalar none .str key) ++ ':' ::
      write (.value column
        (column + (writeSimpleKey (.key column) (.scalar none .str key)).length + 1)) (ofJson x) :=
  if_pos simple

/-- The entries of a mapping stand on the lines after its key. -/
theorem memberText_mapping (column : Nat) {key : String} (simple : isSimple key = true)
    (m : String × Json) (rest : List (String × Json)) (l : Line) :
    memberText column key (.obj (m :: rest)) ++ '\n' :: l.chars =
      writeSimpleKey (.key column) (.scalar none .str key) ++
        ':' :: (ScalarText.newLine (column + 2) ++
          (memberLine (column + 2) (m :: rest) l).text) := by
  rw [memberText_simple column simple, List.append_assoc, List.cons_append, write_members]
  rfl

theorem isSimple_ofList (cs : List Char) : isSimple (String.ofList cs) =
    (decide ((Tag.shorthand .str).length + cs.length ≤ keyWidth) && !cs.isEmpty &&
      !cs.any isBreak) := by
  have empty : (String.ofList cs).isEmpty = cs.isEmpty := by
    rw [Bool.eq_iff_iff, String.isEmpty_iff, List.isEmpty_iff, ← String.toList_inj,
      String.toList_ofList]
    rfl
  rw [isSimple, isSimpleKey, String.length_ofList, String.toList_ofList, empty]
  simp

/-! Lines that follow a block. -/

theorem itemLine_follows {column : Nat} {blocks : List Nat} {l : Line}
    (follows : l.Follows (column :: blocks)) (items : List Json) :
    (itemLine column items l).Follows (column :: blocks) := by
  cases items with
  | nil => exact follows
  | cons x rest =>
    exact ⟨.inr ⟨_, _, rfl, ⟨by decide, by decide, by decide⟩, by decide⟩,
      fun _ => .inl (Nat.lt_succ_self column)⟩

theorem memberLine_follows {column : Nat} {blocks : List Nat} {l : Line}
    (follows : l.Follows (column :: blocks)) (members : List (String × Json)) :
    (memberLine column members l).Follows (column :: blocks) := by
  cases members with
  | nil => exact follows
  | cons m rest =>
    obtain ⟨k, x⟩ := m
    refine ⟨.inr ?_, fun _ => .inl (Nat.lt_succ_self column)⟩
    show ∃ c text, memberText column k x ++ _ = c :: text ∧ _
    cases simple : isSimple k with
    | true =>
      obtain ⟨c, text, written, visible, comment⟩ := keyText_starts column k
      exact ⟨c, _, by rw [memberText, if_pos simple]; dsimp only; rw [written]; rfl,
        visible, comment⟩
    | false =>
      exact ⟨'?', _, by rw [memberText, if_neg (by simp [simple])]; rfl,
        ⟨by decide, by decide, by decide⟩, by decide⟩

/-! Reading a value. -/

/-- How a value is read after a sign of its own, and after a simple key. -/
structure ReadsBack (j : Json) : Prop where
  fresh :
    ∀ {column : Nat} {blocks : List Nat} {spot : Spot} {p : Place} {l : Line} {ts : List Token},
      spot = .item column ∨ spot = .announced column → p.column = column + 1 →
      isLegible (column + 2) false j = true → l.Follows (column :: blocks) →
      l.Reads (column :: blocks) ts →
      (here (column :: blocks) true none p (write spot (ofJson j) ++ '\n' :: l.chars)).Reads
        (tokens false j ++ ts)
  keyed :
    ∀ {column start : Nat} {blocks : List Nat} {p : Place} {l : Line} {ts : List Token},
      column < p.column →
      isLegible (column + 2) true j = true → l.Follows (column :: blocks) →
      l.Reads (column :: blocks) ts →
      (here (column :: blocks) false none p
        (write (.value column start) (ofJson j) ++ '\n' :: l.chars)).Reads
        (tokens true j ++ ts)

theorem opened_new {blocks : List Nat} {column : Nat} (room : leastIn blocks ≤ column) :
    opened blocks column = column :: blocks :=
  if_pos room

theorem not_leastIn (blocks : List Nat) (column : Nat) : ¬ leastIn (column :: blocks) ≤ column :=
  Nat.not_succ_le_self column

theorem opened_same (blocks : List Nat) (column : Nat) :
    opened (column :: blocks) column = column :: blocks :=
  if_neg (not_leastIn blocks column)

theorem head_le {blocks : List Nat} {column : Nat} (room : leastIn blocks ≤ column) :
    ∀ n ∈ blocks.head?, n ≤ column := by
  intro n first
  cases blocks with
  | nil => cases first
  | cons m rest =>
    cases first
    exact Nat.le_of_succ_le room

/-- A sign or a colon is a word of its own: what is written after it starts with a blank or on a new
line. -/
structure Apart (s : Spot) : Prop where
  spaced : s.spaced = true
  room : s.fresh = true → s.column < s.mappingIndent

theorem opening_separate {s : Spot} {indent : Nat} (room : s.fresh = true → s.column < indent)
    (cs : List Char) :
    endsWord (s.opening indent ++ cs) = true := by
  rw [Spot.opening]
  split
  · obtain ⟨k, blanks⟩ : ∃ k, indent - s.column = k + 1 :=
      ⟨indent - s.column - 1, by have := room ‹_›; omega⟩
    rw [blanks]
    rfl
  · rfl

theorem write_separate {s : Spot} (apart : Apart s) (j : Json) (l : Line) :
    endsWord (write s (ofJson j) ++ '\n' :: l.chars) = true := by
  have blank (cs : List Char) : endsWord (s.word cs ++ '\n' :: l.chars) = true := by
    rw [Spot.word, if_pos apart.spaced]
    rfl
  cases scalar : scalar? j with
  | some p =>
    rw [@write_scalar _ p.1 p.2 scalar]
    exact blank _
  | none =>
    cases j with
    | arr items =>
      cases items with
      | nil => exact blank _
      | cons x rest =>
        rw [write_items]
        refine opening_separate (fun fresh => ?_) _
        rw [Spot.sequenceIndent, fresh, if_neg (by simp)]
        exact apart.room fresh
    | obj members =>
      cases members with
      | nil => exact blank _
      | cons m rest =>
        rw [write_members]
        exact opening_separate apart.room _
    | null => cases scalar
    | bool b => cases scalar
    | int i => cases scalar
    | num x => cases scalar
    | str s => cases scalar

theorem item_apart (column : Nat) : Apart (.item column) :=
  ⟨rfl, fun _ => Nat.lt_succ_self (column + 1)⟩

theorem announced_apart (column : Nat) : Apart (.announced column) :=
  ⟨rfl, fun _ => Nat.lt_succ_self (column + 1)⟩

theorem value_apart (column start : Nat) : Apart (.value column start) :=
  ⟨rfl, fun fresh => by cases fresh⟩

variable {column : Nat} {blocks : List Nat} {l : Line} {ts : List Token}

/-- An item, the first one of a block or a later one. -/
theorem reads_item {x : Json} (back : ReadsBack x) (legible : isLegible (column + 2) false x = true)
    {blocks' : List Nat} (open_ : opened blocks column = column :: blocks')
    (inside : ∀ n ∈ blocks.head?, n ≤ column) (follows : l.Follows (column :: blocks'))
    (reads : l.Reads (column :: blocks') ts) :
    Line.Reads blocks ⟨column, '-' :: (write (.item column) (ofJson x) ++ '\n' :: l.chars)⟩
      ((if leastIn blocks ≤ column then [.blockSequence] else []) ++
        .item :: (tokens false x ++ ts)) := by
  intro i n
  refine Lexer.reads_sign .item (write_separate (item_apart column) x l) inside ?_
  dsimp only
  rw [open_]
  exact back.fresh (.inl rfl) rfl legible follows reads

theorem kept_of_legible {j : Json} {t : Tag} {cs : List Char} (scalar : scalar? j = some (t, cs))
    {loose : Bool} (legible : isLegible column loose j = true)
    (double : ScalarText.style t cs = .double) :
    ScalarText.isKept column cs = true := by
  have string : t = .str := by
    have styled := ScalarText.styled (scalar_fits scalar)
    rw [double] at styled
    cases styled
    assumption
  cases j with
  | str s =>
    cases scalar
    have either : (ScalarText.style .str s.toList ≠ .double || ScalarText.isKept column s.toList) =
        true := legible
    simpa [double] using either
  | null => cases scalar; cases string
  | bool b => cases scalar; cases string
  | int i => cases scalar; cases string
  | num x => cases scalar; cases string
  | arr items => cases scalar
  | obj members => cases scalar

theorem tokens_scalar {j : Json} {t : Tag} {cs : List Char} (scalar : scalar? j = some (t, cs))
    (loose : Bool) :
    tokens loose j = [word t cs] := by
  cases j with
  | arr items => cases scalar
  | obj members => cases scalar
  | _ => cases scalar; rfl

theorem reads_scalar {j : Json} {t : Tag} {cs : List Char} (scalar : scalar? j = some (t, cs))
    {spot : Spot} (spaced : spot.spaced = true) (indent : spot.scalarIndent = column + 2)
    {may loose : Bool} {p : Place} (right : column ≤ p.column)
    (legible : isLegible (column + 2) loose j = true) (follows : l.Follows (column :: blocks))
    (reads : l.Reads (column :: blocks) ts) :
    (here (column :: blocks) may none p (write spot (ofJson j) ++ '\n' :: l.chars)).Reads
      (tokens loose j ++ ts) := by
  have styled := ScalarText.styled (scalar_fits scalar)
  rw [tokens_scalar scalar, write_scalar scalar, indent, Spot.word, if_pos spaced, if_pos spaced]
  refine .of_advance (Lexer.advance_blank _ _ _ _ _) (Nat.le_succ _) (Nat.le_succ _) ?_
  refine Lexer.reads_scalar styled _ (Nat.succ_pos _)
    (fun double _ => kept_of_legible scalar legible double) (Nat.le_succ _) ?_ follows reads
  intro n first
  cases first
  exact Nat.lt_succ_of_le right

theorem back_scalar {j : Json} {t : Tag} {cs : List Char} (scalar : scalar? j = some (t, cs)) :
    ReadsBack j where
  fresh spot place legible follows reads := by
    rcases spot with rfl | rfl
    · exact reads_scalar scalar rfl rfl (by omega) legible follows reads
    · exact reads_scalar scalar rfl rfl (by omega) legible follows reads
  keyed right legible follows reads := reads_scalar scalar rfl rfl (Nat.le_of_lt right)
    legible follows reads

theorem oneLine_of_simple {key : String} (simple : isSimple key = true) : '\n' ∉ key.toList := by
  intro inside
  simp only [isSimple, isSimpleKey, Bool.and_eq_true, Bool.not_eq_true',
    List.any_eq_false] at simple
  exact simple.2 _ inside rfl

theorem leastIn_le (inside : ∀ n ∈ blocks.head?, n ≤ column) : leastIn blocks ≤ column + 1 := by
  cases blocks with
  | nil => exact Nat.zero_le _
  | cons m rest => exact Nat.succ_le_succ (inside m rfl)

theorem keyText_length {key : String} (simple : isSimple key = true) (column : Nat) :
    (writeSimpleKey (.key column) (.scalar none .str key)).length = (keyText key).length := by
  have styled := ScalarText.styled_string key.toList
  have oneLine := oneLine_of_simple simple
  rw [keyText, writeKey_eq, writeKey_eq, ScalarText.write_flat rfl styled oneLine,
    @ScalarText.write_flat ⟨0, 0 + 2, false⟩ rfl _ _ _ styled oneLine]

/-- A colon of its own after a key that takes its own lines. -/
theorem reads_announced {x : Json} (back : ReadsBack x)
    (legible : isLegible (column + 2) false x = true) (follows : l.Follows (column :: blocks))
    (reads : l.Reads (column :: blocks) ts) :
    Line.Reads (column :: blocks) ⟨column,
      ':' :: (write (.announced column) (ofJson x) ++ '\n' :: l.chars)⟩
      (.value :: (tokens false x ++ ts)) := by
  intro i n
  have read :=
    @Lexer.reads_sign (column :: blocks) ⟨i, n, column⟩ (tokens false x ++ ts) _ _ _ .value _
      (write_separate (announced_apart column) x l)
      (fun n first => by cases first; exact Nat.le_refl _) ?_
  · rwa [if_neg (not_leastIn blocks column)] at read
  · rw [opened_same]
    exact back.fresh (.inr rfl) rfl legible follows reads

/-- An entry, the first one of a block or a later one. -/
theorem reads_member {k : String} {x : Json} (back : ReadsBack x)
    (legible : areLegibleMembers (column + 2) [(k, x)] = true) {blocks' : List Nat}
    (open_ : opened blocks column = column :: blocks') (inside : ∀ n ∈ blocks.head?, n ≤ column)
    (follows : l.Follows (column :: blocks')) (reads : l.Reads (column :: blocks') ts) :
    Line.Reads blocks ⟨column, memberText column k x ++ '\n' :: l.chars⟩
      ((if leastIn blocks ≤ column then [.blockMapping] else []) ++
        .key :: word .str k.toList :: .value :: (tokens (isSimple k) x ++ ts)) := by
  intro i n
  rw [areLegibleMembers, areLegibleMembers, Bool.and_true] at legible
  cases simple : isSimple k with
  | true =>
    rw [simple, if_pos rfl, Bool.and_eq_true, decide_eq_true_eq] at legible
    have short := keyText_length simple column ▸ legible.1
    have separate := write_separate (value_apart column
      (column + (writeSimpleKey (.key column) (.scalar none .str k)).length + 1)) x l
    rw [memberText, if_pos simple]
    dsimp only
    rw [writeKey_eq] at short separate ⊢
    rw [List.append_assoc, List.cons_append]
    refine Lexer.reads_key (ScalarText.styled (.inl rfl)) (oneLine_of_simple simple)
      (Nat.succ_pos _) short (Nat.le_succ_of_le (leastIn_le inside)) inside separate ?_
    dsimp only
    rw [open_]
    exact back.keyed (by dsimp only; omega) legible.2 follows reads
  | false =>
    rw [simple, if_neg Bool.false_ne_true, Bool.and_eq_true] at legible
    have later : Line.Follows (column :: blocks') ⟨column,
        ':' :: (write (.announced column) (ofJson x) ++ '\n' :: l.chars)⟩ :=
      ⟨.inr ⟨_, _, rfl, ⟨by decide, by decide, by decide⟩, by decide⟩,
        fun _ => .inl (Nat.lt_succ_self column)⟩
    have text : memberText column k x ++ '\n' :: l.chars =
        '?' :: (write (.announced column) (ofJson (.str k)) ++
          '\n' :: Line.chars ⟨column,
            ':' :: (write (.announced column) (ofJson x) ++ '\n' :: l.chars)⟩) := by
      rw [memberText, if_neg (by simp [simple])]
      simp [ScalarText.newLine, Line.chars, ofJson]
    rw [text]
    refine Lexer.reads_sign .key (write_separate (announced_apart column) (.str k) _) inside ?_
    dsimp only
    rw [open_]
    exact (back_scalar (j := .str k) rfl).fresh (.inr rfl) rfl legible.1 later
      (reads_announced back legible.2 follows reads)

/-! Blocks. -/

theorem reads_itemLine {items : List Json} (back : ∀ x ∈ items, ReadsBack x)
    (legible : areLegible (column + 2) items = true) (follows : l.Follows (column :: blocks))
    (reads : l.Reads (column :: blocks) ts) :
    (itemLine column items l).Reads (column :: blocks) (itemTokens items ++ ts) := by
  induction items with
  | nil => exact reads
  | cons x rest ih =>
    rw [areLegible, Bool.and_eq_true] at legible
    have later := ih (fun y inside => back y (.tail _ inside)) legible.2
    have read := reads_item (back x List.mem_cons_self) legible.1 (opened_same blocks column)
      (fun n first => by cases first; exact Nat.le_refl _) (itemLine_follows follows rest) later
    rw [if_neg (not_leastIn blocks column)] at read
    rw [itemTokens, List.cons_append, List.append_assoc]
    exact read

theorem reads_memberLine {members : List (String × Json)} (back : ∀ m ∈ members, ReadsBack m.2)
    (legible : areLegibleMembers (column + 2) members = true)
    (follows : l.Follows (column :: blocks)) (reads : l.Reads (column :: blocks) ts) :
    (memberLine column members l).Reads (column :: blocks) (memberTokens members ++ ts) := by
  induction members with
  | nil => exact reads
  | cons m rest ih =>
    obtain ⟨k, x⟩ := m
    rw [areLegibleMembers, Bool.and_eq_true] at legible
    have later := ih (fun y inside => back y (.tail _ inside)) legible.2
    have first : areLegibleMembers (column + 2) [(k, x)] = true := by
      rw [areLegibleMembers, areLegibleMembers, Bool.and_true]
      exact legible.1
    have read := reads_member (back (k, x) List.mem_cons_self) first (opened_same blocks column)
      (fun n first => by cases first; exact Nat.le_refl _) (memberLine_follows follows rest) later
    rw [if_neg (not_leastIn blocks column)] at read
    simp only [memberTokens, List.cons_append, List.append_assoc]
    exact read

/-- A line that follows the block around a block follows it too. -/
structure Ends (column : Nat) (blocks : List Nat) (l : Line) : Prop where
  follows : l.Follows (column :: blocks)
  left : l.text ≠ [] → l.column < column

theorem ends_inside (follows : l.Follows (column :: blocks)) :
    Ends (column + 2) (column :: blocks) l := by
  have left : l.text ≠ [] → l.column < column + 2 := fun some => by
    rcases follows.left some with left | start
    · exact Nat.lt_succ_of_lt left
    · omega
  exact ⟨⟨follows.starts, fun some => .inl (Nat.lt_succ_of_lt (left some))⟩, left⟩

theorem reads_sequence {x : Json} {rest : List Json} (back : ∀ y ∈ x :: rest, ReadsBack y)
    (legible : areLegible (column + 2) (x :: rest) = true) (room : leastIn blocks ≤ column)
    (ends : Ends column blocks l) (reads : l.Reads blocks ts) :
    (itemLine column (x :: rest) l).Reads blocks (tokens false (.arr (x :: rest)) ++ ts) := by
  rw [areLegible, Bool.and_eq_true] at legible
  have close := Lexer.reads_dedent ends.follows.starts ends.left reads
  have later :=
    reads_itemLine (fun y inside => back y (.tail _ inside)) legible.2 ends.follows close
  have read := reads_item (back x List.mem_cons_self) legible.1 (opened_new room) (head_le room)
    (itemLine_follows ends.follows rest) later
  rw [if_pos room] at read
  simp only [tokens, itemTokens, Bool.false_eq_true, if_false, List.cons_append, List.append_assoc,
    List.nil_append]
  exact read

theorem reads_mapping {m : String × Json} {rest : List (String × Json)}
    (back : ∀ e ∈ m :: rest, ReadsBack e.2)
    (legible : areLegibleMembers (column + 2) (m :: rest) = true) (room : leastIn blocks ≤ column)
    (ends : Ends column blocks l) (reads : l.Reads blocks ts) (loose : Bool) :
    (memberLine column (m :: rest) l).Reads blocks (tokens loose (.obj (m :: rest)) ++ ts) := by
  obtain ⟨k, x⟩ := m
  rw [areLegibleMembers, Bool.and_eq_true] at legible
  have first : areLegibleMembers (column + 2) [(k, x)] = true := by
    rw [areLegibleMembers, areLegibleMembers, Bool.and_true]
    exact legible.1
  have close := Lexer.reads_dedent ends.follows.starts ends.left reads
  have later :=
    reads_memberLine (fun y inside => back y (.tail _ inside)) legible.2 ends.follows close
  have read := reads_member (back (k, x) List.mem_cons_self) first (opened_new room) (head_le room)
    (memberLine_follows ends.follows rest) later
  rw [if_pos room] at read
  simp only [tokens, memberTokens, List.cons_append, List.append_assoc, List.nil_append]
  exact read

/-- Blanks before a block on the line of the sign before it. -/
theorem reads_opening {spot : Spot} (fresh : spot = .item column ∨ spot = .announced column)
    {p : Place} (place : p.column = column + 1) {text : List Char}
    (reads : Line.Reads (column :: blocks) ⟨column + 2, text⟩ ts) :
    (here (column :: blocks) true none p (spot.opening (column + 2) ++ text)).Reads ts := by
  have blank : spot.opening (column + 2) = [' '] := by
    have one : column + 2 - (column + 1) = 1 := by omega
    rcases fresh with rfl | rfl <;> simp [Spot.opening, Spot.item, Spot.announced, one]
  rw [blank]
  refine .of_advance (Lexer.advance_blank _ _ _ _ _) (Nat.le_succ _) (Nat.le_succ _) ?_
  have next : p.next ' ' = ⟨p.index + 1, p.line, column + 2⟩ := by rw [next_blank, place]
  rw [next]
  exact reads _ _

theorem back_brackets {j : Json} {a b : Char} {opening closing : Token}
    (brackets : Lexer.Brackets a b opening closing)
    (written : ∀ s : Spot, write s (ofJson j) = s.word [a, b])
    (read : ∀ loose, tokens loose j = [opening, closing]) :
    ReadsBack j := by
  have reads {spot : Spot} (spaced : spot.spaced = true) {may loose : Bool} {p : Place}
      {column : Nat} {blocks : List Nat} {l : Line} {ts : List Token} (right : column ≤ p.column)
      (reads : l.Reads (column :: blocks) ts) :
      (here (column :: blocks) may none p (write spot (ofJson j) ++ '\n' :: l.chars)).Reads
        (tokens loose j ++ ts) := by
    rw [written, read, Spot.word, if_pos spaced]
    refine .of_advance (Lexer.advance_blank _ _ _ _ _) (Nat.le_succ _) (Nat.le_succ _) ?_
    exact Lexer.reads_brackets brackets
      (fun n first => by cases first; exact Nat.lt_succ_of_le right) reads
  constructor
  · rintro column blocks spot p l ts fresh place - - line
    refine reads ?_ (by omega) line
    rcases fresh with rfl | rfl <;> rfl
  · exact fun right _ _ line => reads rfl (Nat.le_of_lt right) line

/-- Every value is read back where it is written. -/
theorem readsBack (j : Json) : ReadsBack j := by
  induction j using Json.by_parts with
  | whole j items members =>
    cases scalar : scalar? j with
    | some p => exact @back_scalar _ p.1 p.2 scalar
    | none =>
      cases j with
      | arr items' =>
        cases items' with
        | nil => exact back_brackets .sequence (fun s => rfl) (fun loose => rfl)
        | cons x rest =>
          constructor
          · intro column blocks spot p l ts fresh place legible follows reads
            have indent : spot.sequenceIndent = column + 2 := by rcases fresh with rfl | rfl <;> rfl
            rw [write_items, indent]
            exact reads_opening fresh place
              (reads_sequence items legible (Nat.le_succ _) (ends_inside follows) reads)
          · intro column start blocks p l ts right legible follows reads
            rw [write_items]
            exact Lexer.reads_line (by simp) (reads_itemLine items legible follows reads)
      | obj members' =>
        cases members' with
        | nil => exact back_brackets .mapping (fun s => rfl) (fun loose => rfl)
        | cons m rest =>
          constructor
          · intro column blocks spot p l ts fresh place legible follows reads
            have indent : spot.mappingIndent = column + 2 := by rcases fresh with rfl | rfl <;> rfl
            rw [write_members, indent]
            exact reads_opening fresh place
              (reads_mapping members legible (Nat.le_succ _) (ends_inside follows) reads false)
          · intro column start blocks p l ts right legible follows reads
            rw [write_members]
            exact Lexer.reads_line (by simp)
              (reads_mapping members legible (Nat.le_succ _) (ends_inside follows) reads true)
      | null => cases scalar
      | bool b => cases scalar
      | int i => cases scalar
      | num x => cases scalar
      | str s => cases scalar

/-! Documents. -/

/-- The tokens of a document. A plain text has its end marked. -/
def documentTokens (j : Json) : List Token :=
  tokens false j ++ match scalar? j with
    | some (t, cs) => if ScalarText.style t cs = .plain then [.documentEnd] else []
    | none => []

def lastLine (plain : Bool) : Line :=
  ⟨0, if plain then "...\n".toList else []⟩

theorem lastLine_follows (plain : Bool) : (lastLine plain).Follows [] := by
  cases plain with
  | false => exact ⟨.inl rfl, fun some => absurd rfl some⟩
  | true =>
    have text : "...\n".toList = ['.', '.', '.', '\n'] := by decide +kernel
    refine ⟨.inr ⟨'.', _, text, ⟨by decide, by decide, by decide⟩, by decide⟩,
      fun _ => .inr ⟨rfl, ?_⟩⟩
    show startsBoundary "...\n".toList = true
    rw [text]
    rfl

theorem reads_lastLine (plain : Bool) :
    (lastLine plain).Reads [] (if plain then [.documentEnd] else []) := by
  cases plain with
  | false => exact Lexer.reads_nothing
  | true => exact Lexer.reads_documentEnd

theorem lastLine_ends : Ends 0 [] (lastLine false) :=
  ⟨⟨.inl rfl, fun some => absurd rfl some⟩, fun some => absurd rfl some⟩

theorem reads_document {j : Json} (legible : isLegible 0 false j = true) :
    (Lexer.start (documentText (ofJson j))).Reads (documentTokens j) := by
  show (here [] true none ⟨0, 0, 0⟩ (documentText (ofJson j))).Reads _
  cases scalar : scalar? j with
  | some p =>
    obtain ⟨t, cs⟩ := p
    have styled := ScalarText.styled (scalar_fits scalar)
    have ending : (ofJson j).ending =
        '\n' :: (lastLine (ScalarText.style t cs = .plain)).chars := by
      have points : "\n...\n".toList = '\n' :: "...\n".toList := by decide +kernel
      rw [ofJson_scalar scalar, text, Node.ending, String.toList_ofList]
      by_cases plain : ScalarText.style t cs = .plain <;> simp [plain, points, lastLine, Line.chars]
    have read := @Lexer.reads_scalar [] true ⟨0, 0, 0⟩ _ _ _ _ styled ⟨0, 2, true⟩ (by decide)
      (fun _ _ => rfl) (Nat.zero_le _) (by simp) _ (lastLine_follows _)
      (reads_lastLine (ScalarText.style t cs = .plain))
    rw [documentText, write_scalar scalar, ending, documentTokens, tokens_scalar scalar, scalar]
    simp only [decide_eq_true_eq] at read
    exact read
  | none =>
    have ends := lastLine_ends
    have line : (lastLine false).Reads [] [] := reads_lastLine false
    cases j with
    | arr items =>
      cases items with
      | nil => exact Lexer.reads_brackets .sequence (by simp) line
      | cons x rest =>
        have lines := write_items .root x rest (lastLine false)
        have read := reads_sequence (fun y _ => readsBack y) legible (Nat.zero_le _) ends line 0 0
        rw [documentText, show (ofJson (.arr (x :: rest))).ending =
          '\n' :: (lastLine false).chars from rfl, lines]
        exact read
    | obj members =>
      cases members with
      | nil => exact Lexer.reads_brackets .mapping (by simp) line
      | cons m rest =>
        have lines := write_members .root m rest (lastLine false)
        have read :=
          reads_mapping (fun y _ => readsBack y.2) legible (Nat.zero_le _) ends line false 0 0
        rw [documentText, show (ofJson (.obj (m :: rest))).ending =
          '\n' :: (lastLine false).chars from rfl, lines]
        exact read
    | null => cases scalar
    | bool b => cases scalar
    | int i => cases scalar
    | num x => cases scalar
    | str s => cases scalar

end Node

end AgentWire.Yaml
