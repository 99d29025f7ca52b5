import AgentWire.Proofs.Yaml.Layout

/-! The node of written tokens. Every collection takes the tokens of its parts one after another,
and the depth that the reader allows is enough. -/
namespace AgentWire.Yaml.Node

section Steps

variable (hs : Handles) (fuel : Nat) (position : Position) (rest : List Token)
  (anchors : List String)

theorem ofTokens_scalar (plain : Bool) (text : String) :
    ofTokens hs (fuel + 1) position ⟨.scalar plain text :: rest, anchors⟩ =
      .ok (.scalar none (scalarTag none plain text) text, ⟨rest, anchors⟩) := by
  cases position <;> rfl

theorem ofTokens_flowSequence :
    ofTokens hs (fuel + 2) position ⟨.flowSequence :: .flowSequenceEnd :: rest, anchors⟩ =
      .ok (.sequence none .seq [], ⟨rest, anchors⟩) := by
  cases position <;> rfl

theorem ofTokens_flowMapping :
    ofTokens hs (fuel + 2) position ⟨.flowMapping :: .flowMappingEnd :: rest, anchors⟩ =
      .ok (.mapping none .map [], ⟨rest, anchors⟩) := by
  cases position <;> rfl

theorem ofTokens_blockSequence (block : position ≠ .flow) :
    ofTokens hs (fuel + 1) position ⟨.blockSequence :: rest, anchors⟩ =
      (blockItems hs fuel ⟨rest, anchors⟩).map fun (items, r) =>
        (.sequence none .seq items, r) := by
  have opens : ofTokens hs (fuel + 1) position ⟨.blockSequence :: rest, anchors⟩ = (do
      let (items, r) ← blockItems hs fuel ⟨rest, anchors⟩
      return (.sequence none .seq items, r)) := by
    cases position with
    | flow => exact absurd rfl block
    | block => rfl
    | afterKey => rfl
  rw [opens]
  cases blockItems hs fuel ⟨rest, anchors⟩ <;> rfl

theorem ofTokens_item :
    ofTokens hs (fuel + 1) .afterKey ⟨.item :: rest, anchors⟩ =
      (looseItems hs fuel ⟨.item :: rest, anchors⟩).map fun (items, r) =>
        (.sequence none .seq items, r) := by
  show (do
    let (items, r) ← looseItems hs fuel ⟨.item :: rest, anchors⟩
    return (Node.sequence none .seq items, r)) = _
  cases looseItems hs fuel ⟨.item :: rest, anchors⟩ <;> rfl

theorem ofTokens_blockMapping (block : position ≠ .flow) :
    ofTokens hs (fuel + 1) position ⟨.blockMapping :: rest, anchors⟩ =
      (blockEntries hs fuel ⟨rest, anchors⟩).map fun (entries, r) =>
        (.mapping none .map entries, r) := by
  have opens : ofTokens hs (fuel + 1) position ⟨.blockMapping :: rest, anchors⟩ = (do
      let (entries, r) ← blockEntries hs fuel ⟨rest, anchors⟩
      return (.mapping none .map entries, r)) := by
    cases position with
    | flow => exact absurd rfl block
    | block => rfl
    | afterKey => rfl
  rw [opens]
  cases blockEntries hs fuel ⟨rest, anchors⟩ <;> rfl

/-- An item that is written, in a block or not. -/
theorem blockItems_item (written : leftOutInSequence rest = false) :
    blockItems hs (fuel + 1) ⟨.item :: rest, anchors⟩ = (do
      let (n, r) ← ofTokens hs fuel .block ⟨rest, anchors⟩
      let (items, r) ← blockItems hs fuel r
      return (n :: items, r)) := by
  rw [blockItems]
  dsimp only
  rw [written]
  rfl

theorem looseItems_item (written : leftOutInSequence rest = false)
    (written' : leftOutInMapping rest = false) :
    looseItems hs (fuel + 1) ⟨.item :: rest, anchors⟩ = (do
      let (n, r) ← ofTokens hs fuel .block ⟨rest, anchors⟩
      let (items, r) ← looseItems hs fuel r
      return (n :: items, r)) := by
  rw [looseItems]
  dsimp only
  rw [written, written']
  rfl

/-- An entry with its key and its value. -/
theorem blockEntries_key (plain : Bool) (text : String) (written : leftOutInMapping rest = false) :
    blockEntries hs (fuel + 2) ⟨.key :: .scalar plain text :: .value :: rest, anchors⟩ = (do
      let (v, r) ← ofTokens hs (fuel + 1) .afterKey ⟨rest, anchors⟩
      let (entries, r) ← blockEntries hs (fuel + 1) r
      return ((.scalar none (scalarTag none plain text) text, v) :: entries, r)) := by
  have key := ofTokens_scalar hs fuel .afterKey (.value :: rest) anchors plain text
  have word : leftOutInMapping (.scalar plain text :: .value :: rest) = false := rfl
  rw [blockEntries]
  dsimp only [Rest.at]
  rw [word, if_neg Bool.false_ne_true, key]
  dsimp only [bind, Except.bind]
  rw [written]
  rfl

end Steps

theorem tokens_inMapping (loose : Bool) (j : Json) (rest : List Token) :
    leftOutInMapping (tokens loose j ++ rest) = false := by
  cases j with
  | arr items =>
    cases items with
    | nil => rfl
    | cons x more => cases loose <;> rfl
  | obj members => cases members <;> rfl
  | _ => rfl

theorem tokens_inSequence (j : Json) (rest : List Token) :
    leftOutInSequence (tokens false j ++ rest) = false := by
  cases j with
  | arr items => cases items <;> rfl
  | obj members => cases members <;> rfl
  | _ => rfl

/-- What follows a list without a block of its own: the next entry, or the end of the mapping around
it. -/
def EndsEntry (rest : List Token) : Prop :=
  ∃ t more, rest = t :: more ∧ (t = .key ∨ t = .blockEnd)

/-- The node of a value is made from its tokens. Every call takes a token at least, or goes on to
the items of a list that starts here; so twice the number of tokens bounds the depth. -/
def Composes (j : Json) : Prop :=
  ∀ (hs : Handles) (fuel : Nat) (position : Position) (loose : Bool) (rest : List Token)
    (anchors : List String),
    position ≠ .flow → (loose = true → position = .afterKey ∧ EndsEntry rest) →
    2 * (tokens loose j ++ rest).length + 1 ≤ fuel →
    ofTokens hs fuel position ⟨tokens loose j ++ rest, anchors⟩ = .ok (ofJson j, ⟨rest, anchors⟩)

section Collections

variable {hs : Handles} {fuel : Nat} {rest : List Token} {anchors : List String}

theorem blockItems_json {items : List Json} (composes : ∀ x ∈ items, Composes x)
    (enough : 2 * (itemTokens items ++ .blockEnd :: rest).length ≤ fuel) :
    blockItems hs fuel ⟨itemTokens items ++ .blockEnd :: rest, anchors⟩ =
      .ok (ofJsonItems items, ⟨rest, anchors⟩) := by
  induction items generalizing fuel with
  | nil =>
    obtain ⟨n, rfl⟩ : ∃ n, fuel = n + 1 := ⟨fuel - 1, by simp [itemTokens] at enough; omega⟩
    rfl
  | cons x more ih =>
    rw [itemTokens, List.cons_append, List.append_assoc] at enough ⊢
    simp only [List.length_cons, List.length_append] at enough
    obtain ⟨n, rfl⟩ : ∃ n, fuel = n + 1 := ⟨fuel - 1, by omega⟩
    have first := composes x List.mem_cons_self hs n .block false
      (itemTokens more ++ .blockEnd :: rest) anchors (by simp) (by simp)
      (by simp only [List.length_cons, List.length_append]; omega)
    have later := @ih n (fun y inside => composes y (.tail _ inside))
      (by simp only [List.length_cons, List.length_append]; omega)
    rw [blockItems_item _ _ _ _ (tokens_inSequence x _), first]
    show (do
      let (items, r) ← blockItems hs n ⟨itemTokens more ++ Token.blockEnd :: rest, anchors⟩
      return (ofJson x :: items, r)) = _
    rw [later]
    rfl

theorem looseItems_json {items : List Json} (composes : ∀ x ∈ items, Composes x)
    (ends : EndsEntry rest) (enough : 2 * (itemTokens items ++ rest).length ≤ fuel) :
    looseItems hs fuel ⟨itemTokens items ++ rest, anchors⟩ =
      .ok (ofJsonItems items, ⟨rest, anchors⟩) := by
  induction items generalizing fuel with
  | nil =>
    obtain ⟨t, more, rfl, kind⟩ := ends
    obtain ⟨n, rfl⟩ : ∃ n, fuel = n + 1 := ⟨fuel - 1, by simp [itemTokens] at enough; omega⟩
    rcases kind with rfl | rfl <;> rfl
  | cons x more ih =>
    rw [itemTokens, List.cons_append, List.append_assoc] at enough ⊢
    simp only [List.length_cons, List.length_append] at enough
    obtain ⟨n, rfl⟩ : ∃ n, fuel = n + 1 := ⟨fuel - 1, by omega⟩
    have first := composes x List.mem_cons_self hs n .block false (itemTokens more ++ rest) anchors
      (by simp) (by simp) (by simp only [List.length_append]; omega)
    have later := @ih n (fun y inside => composes y (.tail _ inside))
      (by simp only [List.length_append]; omega)
    rw [looseItems_item _ _ _ _ (tokens_inSequence x _) (tokens_inMapping false x _), first]
    show (do
      let (items, r) ← looseItems hs n ⟨itemTokens more ++ rest, anchors⟩
      return (ofJson x :: items, r)) = _
    rw [later]
    rfl

theorem memberTokens_end (members : List (String × Json)) :
    EndsEntry (memberTokens members ++ .blockEnd :: rest) := by
  cases members with
  | nil => exact ⟨_, _, rfl, .inr rfl⟩
  | cons m more => exact ⟨_, _, rfl, .inl rfl⟩

theorem blockEntries_json {members : List (String × Json)} (composes : ∀ m ∈ members, Composes m.2)
    (enough : 2 * (memberTokens members ++ .blockEnd :: rest).length ≤ fuel) :
    blockEntries hs fuel ⟨memberTokens members ++ .blockEnd :: rest, anchors⟩ =
      .ok (ofJsonMembers members, ⟨rest, anchors⟩) := by
  induction members generalizing fuel with
  | nil =>
    obtain ⟨n, rfl⟩ : ∃ n, fuel = n + 1 := ⟨fuel - 1, by simp [memberTokens] at enough; omega⟩
    rfl
  | cons m more ih =>
    obtain ⟨k, x⟩ := m
    simp only [memberTokens, List.cons_append, List.append_assoc, List.length_cons,
      List.length_append] at enough ⊢
    obtain ⟨n, rfl⟩ : ∃ n, fuel = n + 2 := ⟨fuel - 2, by omega⟩
    have first := composes (k, x) List.mem_cons_self hs (n + 1) .afterKey (isSimple k)
      (memberTokens more ++ .blockEnd :: rest) anchors (by simp)
      (fun _ => ⟨rfl, memberTokens_end more⟩)
      (by simp only [List.length_cons, List.length_append]; omega)
    have later := @ih (n + 1) (fun y inside => composes y (.tail _ inside))
      (by simp only [List.length_cons, List.length_append]; omega)
    have tag := ScalarText.scalarTag_eq (ScalarText.styled_string k.toList)
    rw [word, blockEntries_key _ _ _ _ _ _ (tokens_inMapping (isSimple k) x _), first]
    show (do
      let (entries, r) ← blockEntries hs (n + 1)
          ⟨memberTokens more ++ Token.blockEnd :: rest, anchors⟩
      return ((Node.scalar none
          (scalarTag none (ScalarText.style .str k.toList = Style.plain) (String.ofList k.toList))
          (String.ofList k.toList), ofJson x) :: entries, r)) = _
    rw [later, tag, String.ofList_toList]
    rfl

end Collections

theorem composes (j : Json) : Composes j := by
  induction j using Json.by_parts with
  | whole j items members =>
    intro hs fuel position loose rest anchors block ends enough
    cases scalar : scalar? j with
    | some p =>
      obtain ⟨t, cs⟩ := p
      obtain ⟨n, rfl⟩ : ∃ n, fuel = n + 1 := ⟨fuel - 1, by omega⟩
      have tag := ScalarText.scalarTag_eq (ScalarText.styled (scalar_fits scalar))
      rw [tokens_scalar scalar, List.singleton_append, word, ofTokens_scalar, tag,
        ofJson_scalar scalar]
      rfl
    | none =>
      cases j with
      | arr items' =>
        cases items' with
        | nil =>
          obtain ⟨n, rfl⟩ : ∃ n, fuel = n + 2 := ⟨fuel - 2, by simp [tokens] at enough; omega⟩
          exact ofTokens_flowSequence hs n position rest anchors
        | cons x more =>
          have parts : ∀ y ∈ x :: more, Composes y := items
          cases loose with
          | true =>
            obtain ⟨rfl, ends'⟩ := ends rfl
            have written : tokens true (.arr (x :: more)) ++ rest =
                itemTokens (x :: more) ++ rest := rfl
            rw [written] at enough ⊢
            obtain ⟨n, rfl⟩ : ∃ n, fuel = n + 1 := ⟨fuel - 1, by omega⟩
            have read :=
              @looseItems_json hs n rest anchors _ parts ends' (Nat.le_of_succ_le_succ enough)
            have start : itemTokens (x :: more) ++ rest =
                .item :: (tokens false x ++ itemTokens more ++ rest) := rfl
            rw [start] at read ⊢
            rw [ofTokens_item, read]
            rfl
          | false =>
            have written : tokens false (.arr (x :: more)) ++ rest =
                .blockSequence :: (itemTokens (x :: more) ++ .blockEnd :: rest) := by
              simp [tokens]
            rw [written, List.length_cons] at enough
            obtain ⟨n, rfl⟩ : ∃ n, fuel = n + 1 := ⟨fuel - 1, by omega⟩
            rw [written, ofTokens_blockSequence _ _ _ _ _ block, blockItems_json parts (by omega)]
            rfl
      | obj members' =>
        cases members' with
        | nil =>
          obtain ⟨n, rfl⟩ : ∃ n, fuel = n + 2 := ⟨fuel - 2, by simp [tokens] at enough; omega⟩
          exact ofTokens_flowMapping hs n position rest anchors
        | cons m more =>
          have parts : ∀ e ∈ m :: more, Composes e.2 := members
          have written : tokens loose (.obj (m :: more)) ++ rest =
              .blockMapping :: (memberTokens (m :: more) ++ .blockEnd :: rest) := by
            simp [tokens]
          rw [written, List.length_cons] at enough
          obtain ⟨n, rfl⟩ : ∃ n, fuel = n + 1 := ⟨fuel - 1, by omega⟩
          rw [written, ofTokens_blockMapping _ _ _ _ _ block, blockEntries_json parts (by omega)]
          rfl
      | null => cases scalar
      | bool b => cases scalar
      | int i => cases scalar
      | num x => cases scalar
      | str s => cases scalar

end AgentWire.Yaml.Node
