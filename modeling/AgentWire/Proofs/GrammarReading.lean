import AgentWire.Proofs.Grammar

/-! The grammar of documents, and that reading accepts its texts, with what they denote, and no
others. -/
namespace AgentWire.Json

/-! The rules. -/

def Gap (cs rest : List Char) : Prop :=
  ∃ gap, (∀ c ∈ gap, c ∈ [' ', '\t', '\n', '\r']) ∧ cs = gap ++ rest

def words : List (String × Json) :=
  [("null", .null), ("true", .bool true), ("false", .bool false)]

/-- Members as they are written and as an object has them: a key stands where it came first, with
the value that came last. -/
structure Collects (written members : List (String × Json)) : Prop where
  keys : members.map (·.1) = (written.map (·.1)).eraseDups
  values : ∀ key, lookup key members = (written.reverse.find? fun w => w.1 = key).map (·.2)

/-- What a rule is about: a value, or all that an array or an object has up to its closing
bracket. -/
inductive Form where
  | value (j : Json)
  | items (xs : List Json)
  | members (written : List (String × Json))

/-- A text starts with a form, and this is what it leaves. -/
inductive Derives : List Char → Form → List Char → Prop
  | word {w : String} {j : Json} (named : (w, j) ∈ words) (rest : List Char) :
      Derives (w.toList ++ rest) (.value j) rest
  | number {cs rest : List Char} {j : Json} (number : IsNumber cs j rest) :
      Derives cs (.value j) rest
  | string {cs rest : List Char} {s : String} (characters : Characters cs s.toList rest) :
      Derives ('"' :: cs) (.value (.str s)) rest
  | emptyArray {cs rest : List Char} (closed : Gap cs (']' :: rest)) :
      Derives ('[' :: cs) (.value (.arr [])) rest
  | array {cs inner rest : List Char} {xs : List Json} (opened : Gap cs inner)
      (items : Derives inner (.items xs) rest) :
      Derives ('[' :: cs) (.value (.arr xs)) rest
  | emptyObject {cs rest : List Char} (closed : Gap cs ('}' :: rest)) :
      Derives ('\x7b' :: cs) (.value (.obj [])) rest
  | object {cs inner rest : List Char} {written ms : List (String × Json)} (opened : Gap cs inner)
      (members : Derives inner (.members written) rest) (collected : Collects written ms) :
      Derives ('\x7b' :: cs) (.value (.obj ms)) rest
  | lastItem {cs tail rest : List Char} {x : Json} (value : Derives cs (.value x) tail)
      (closed : Gap tail (']' :: rest)) : Derives cs (.items [x]) rest
  | item {cs tail next inner rest : List Char} {x : Json} {xs : List Json}
      (value : Derives cs (.value x) tail) (comma : Gap tail (',' :: next)) (gap : Gap next inner)
      (items : Derives inner (.items xs) rest) :
      Derives cs (.items (x :: xs)) rest
  | lastMember {cs tail next inner beyond rest : List Char} {key : String} {x : Json}
      (name : Characters cs key.toList tail) (colon : Gap tail (':' :: next)) (gap : Gap next inner)
      (value : Derives inner (.value x) beyond) (closed : Gap beyond ('}' :: rest)) :
      Derives ('"' :: cs) (.members [(key, x)]) rest
  | member {cs tail next inner beyond other more rest : List Char} {key : String} {x : Json}
      {written : List (String × Json)} (name : Characters cs key.toList tail)
      (colon : Gap tail (':' :: next)) (gap : Gap next inner)
      (value : Derives inner (.value x) beyond) (comma : Gap beyond (',' :: other))
      (space : Gap other more) (members : Derives more (.members written) rest) :
      Derives ('"' :: cs) (.members ((key, x) :: written)) rest

/-- A text denotes a document: the whole of it is a value, with blanks around. -/
def Denotes (text : List Char) (d : Json) : Prop :=
  ∃ inner rest, Gap text inner ∧ Derives inner (.value d) rest ∧ Gap rest []

/-! Gaps. -/

theorem isBlank_iff {c : Char} : isBlank c = true ↔ c ∈ [' ', '\t', '\n', '\r'] := by
  simp [isBlank, or_assoc]

theorem gap_none (cs : List Char) : Gap cs cs :=
  ⟨[], by simp, rfl⟩

theorem gap_skipBlanks (cs : List Char) : Gap cs (skipBlanks cs) :=
  ⟨cs.takeWhile isBlank, fun _ inside => isBlank_iff.mp (List.mem_takeWhile_imp inside),
    List.takeWhile_append_dropWhile.symm⟩

theorem gap_of_skipBlanks {cs rest : List Char} (skipped : skipBlanks cs = rest) : Gap cs rest :=
  skipped ▸ gap_skipBlanks cs

theorem Gap.skipBlanks {cs rest : List Char} {c : Char} (gap : Gap cs (c :: rest))
    (visible : isBlank c = false) :
    skipBlanks cs = c :: rest := by
  obtain ⟨blanks, all, rfl⟩ := gap
  rw [skipBlanks_append fun c inside => isBlank_iff.mpr (all c inside), skipBlanks_cons visible]

theorem Gap.skipBlanks_nil {cs : List Char} (gap : Gap cs []) : Json.skipBlanks cs = [] := by
  obtain ⟨blanks, all, rfl⟩ := gap
  rw [skipBlanks_append fun c inside => isBlank_iff.mpr (all c inside)]
  rfl

theorem Gap.length_le {cs rest : List Char} (gap : Gap cs rest) : rest.length ≤ cs.length := by
  obtain ⟨blanks, -, rfl⟩ := gap
  simp

theorem Gap.length_lt {cs rest : List Char} {c : Char} (mark : Gap cs (c :: rest)) :
    rest.length < cs.length :=
  Nat.lt_of_succ_le mark.length_le

/-- A mark with blanks around takes at least itself. -/
theorem Gap.around {cs next inner : List Char} {c : Char} (mark : Gap cs (c :: next))
    (gap : Gap next inner) :
    inner.length < cs.length :=
  Nat.lt_of_le_of_lt gap.length_le mark.length_lt

/-- Nothing goes on with a number behind which a gap begins. -/
theorem Gap.numberEnds {cs rest : List Char} (gap : Gap cs rest) (ends : NumberEnds rest) :
    NumberEnds cs := by
  obtain ⟨blanks, all, rfl⟩ := gap
  cases blanks with
  | nil => exact ends
  | cons b blanks =>
    have blank := all b List.mem_cons_self
    intro c more text
    cases text
    simp only [List.mem_cons, List.not_mem_nil, or_false] at blank
    rcases blank with rfl | rfl | rfl | rfl <;> decide

/-! Members with repeats. -/

theorem lookup_insert (key other : String) (x : Json) (members : List (String × Json)) :
    lookup other (insert key x members) = if key = other then some x else lookup other members := by
  induction members with
  | nil => rfl
  | cons m rest ih =>
    obtain ⟨k, y⟩ := m
    rw [insert]
    split
    · rename_i same
      subst same
      rw [lookup_cons, lookup_cons]
      split <;> rfl
    · rename_i different
      rw [lookup_cons, lookup_cons, ih]
      by_cases here : k = other
      · rw [if_pos here, if_neg fun same => different (here.trans same.symm), if_pos here]
      · rw [if_neg here, if_neg here]

theorem eraseDups_snoc (keys : List String) (key : String) :
    (keys ++ [key]).eraseDups = if key ∈ keys then keys.eraseDups else keys.eraseDups ++ [key] := by
  rw [List.eraseDups_append, List.removeAll, List.filter_singleton]
  by_cases again : key ∈ keys
  · simp [again]
  · simp [again, List.eraseDups_cons]

/-- Members put in one after the other. -/
def collected (written : List (String × Json)) : List (String × Json) :=
  written.foldl (fun members w => insert w.1 w.2 members) []

theorem ofMembers_eq (written : List (String × Json)) :
    ofMembers written = .obj (collected written) := rfl

theorem collects_collected (written : List (String × Json)) :
    Collects written (collected written) := by
  induction written using List.reverseRecOn with
  | nil => exact ⟨rfl, fun _ => rfl⟩
  | append_singleton before w ih =>
    have step : collected (before ++ [w]) = insert w.1 w.2 (collected before) := by
      rw [collected, List.foldl_append]
      rfl
    have named : w.1 ∈ (collected before).map (·.1) ↔ w.1 ∈ before.map (·.1) := by
      rw [ih.keys, List.mem_eraseDups]
    refine ⟨?_, fun key => ?_⟩
    · rw [step, insert_keys, List.map_append, List.map_singleton, eraseDups_snoc, ih.keys]
      simp only [List.mem_eraseDups]
    · rw [step, lookup_insert, ih.values, List.reverse_append, List.reverse_singleton,
        List.singleton_append, List.find?_cons]
      by_cases here : w.1 = key
      · simp [here]
      · simp [here]

/-- Objects with the same keys in the same order and the same values under them are the same. -/
theorem members_ext {members others : List (String × Json)} (distinct : (members.map (·.1)).Nodup)
    (keys : members.map (·.1) = others.map (·.1))
    (values : ∀ key, lookup key members = lookup key others) :
    members = others := by
  induction members generalizing others with
  | nil => exact (List.map_eq_nil_iff.mp keys.symm).symm
  | cons m rest ih =>
    obtain ⟨k, x⟩ := m
    cases others with
    | nil => cases keys
    | cons o more =>
      obtain ⟨l, y⟩ := o
      rw [List.map_cons, List.map_cons, List.cons.injEq] at keys
      rw [List.map_cons, List.nodup_cons] at distinct
      obtain ⟨same, keys⟩ := keys
      dsimp only at same distinct
      subst same
      have first := values k
      rw [lookup_cons, lookup_cons, if_pos rfl, if_pos rfl] at first
      have later : ∀ key, lookup key rest = lookup key more := by
        intro key
        by_cases here : k = key
        · subst here
          rw [lookup_eq_none_iff.mpr distinct.1, lookup_eq_none_iff.mpr (keys ▸ distinct.1)]
        · have both := values key
          rwa [lookup_cons, lookup_cons, if_neg here, if_neg here] at both
      obtain rfl : x = y := Option.some.inj first
      rw [ih distinct.2 keys later]

theorem Collects.ofMembers_eq {written members : List (String × Json)}
    (collects : Collects written members) :
    ofMembers written = .obj members := by
  have own := collects_collected written
  have distinct : ((collected written).map (·.1)).Nodup := by
    have folded : ∀ later before : List (String × Json), (before.map (·.1)).Nodup →
        ((later.foldl (fun members w => insert w.1 w.2 members) before).map (·.1)).Nodup := by
      intro later
      induction later with
      | nil => exact fun _ distinct => distinct
      | cons w rest ih => exact fun before distinct => ih _ (insert_nodup w.1 w.2 distinct)
    exact folded written [] List.nodup_nil
  rw [Json.ofMembers_eq, members_ext distinct (own.keys.trans collects.keys.symm)
    fun key => (own.values key).trans (collects.values key).symm]

/-! What is read follows the rules. -/

theorem after_eq {word : String} {cs rest : List Char} (read : after? word cs = some rest) :
    cs = word.toList ++ rest := by
  rw [after?] at read
  split at read
  · rename_i starts
    obtain ⟨tail, rfl⟩ := List.isPrefixOf_iff_prefix.mp starts
    cases read
    rw [← String.length_toList, List.drop_left]
  · cases read

theorem derives_of_readPlain {cs rest : List Char} {j : Json}
    (read : readPlain cs = .ok (j, rest)) :
    Derives cs (.value j) rest := by
  unfold readPlain at read
  split at read
  · rename_i found
    cases read
    rw [after_eq found]
    exact .word (by simp [words]) rest
  · rename_i found _
    cases read
    rw [after_eq found]
    exact .word (by simp [words]) rest
  · rename_i found _ _
    cases read
    rw [after_eq found]
    exact .word (by simp [words]) rest
  split at read
  · cases read
  split at read
  · rename_i found
    cases read
    exact .number (isNumber_of_read found)
  · cases read

/-- What one call of each reader finds is there by the rules. -/
structure Follows (fuel : Nat) : Prop where
  value : ∀ cs j rest, readValue fuel cs = .ok (j, rest) → Derives cs (.value j) rest
  items : ∀ cs xs rest, readItems fuel cs = .ok (xs, rest) → Derives cs (.items xs) rest
  members : ∀ cs ms rest, readMembers fuel cs = .ok (ms, rest) → Derives cs (.members ms) rest

theorem readValue_follows {fuel : Nat} (inside : Follows fuel) {cs rest : List Char} {j : Json}
    (read : readValue (fuel + 1) cs = .ok (j, rest)) : Derives cs (.value j) rest := by
  rw [readValue.eq_def] at read
  dsimp only at read
  split at read
  · obtain ⟨⟨s, _⟩, inner, made⟩ := map_eq_ok_iff.mp read
    cases made
    exact .string (readString_iff.mp inner)
  · split at read
    · rename_i more closed
      cases read
      exact .emptyArray (gap_of_skipBlanks closed)
    · obtain ⟨⟨xs, _⟩, inner, made⟩ := map_eq_ok_iff.mp read
      cases made
      exact .array (gap_skipBlanks _) (inside.items _ _ _ inner)
  · split at read
    · rename_i more closed
      cases read
      exact .emptyObject (gap_of_skipBlanks closed)
    · obtain ⟨⟨written, _⟩, inner, made⟩ := map_eq_ok_iff.mp read
      cases made
      rw [ofMembers_eq]
      exact .object (gap_skipBlanks _) (inside.members _ _ _ inner) (collects_collected written)
  · exact derives_of_readPlain read

theorem readItems_follows {fuel : Nat} (inside : Follows fuel) {cs rest : List Char}
    {xs : List Json} (read : readItems (fuel + 1) cs = .ok (xs, rest)) :
    Derives cs (.items xs) rest := by
  rw [readItems] at read
  obtain ⟨⟨x, tail⟩, first, read⟩ := bind_eq_ok_iff.mp read
  have value := inside.value _ _ _ first
  dsimp only at read
  split at read
  · rename_i closed
    cases read
    exact .lastItem value (gap_of_skipBlanks closed)
  · rename_i comma
    obtain ⟨⟨later, tail⟩, others, read⟩ := bind_eq_ok_iff.mp read
    cases read
    exact .item value (gap_of_skipBlanks comma) (gap_skipBlanks _) (inside.items _ _ _ others)
  · cases read

theorem readMembers_follows {fuel : Nat} (inside : Follows fuel) {cs rest : List Char}
    {ms : List (String × Json)} (read : readMembers (fuel + 1) cs = .ok (ms, rest)) :
    Derives cs (.members ms) rest := by
  rw [readMembers.eq_def] at read
  dsimp only at read
  split at read
  · obtain ⟨⟨key, tail'⟩, name, read⟩ := bind_eq_ok_iff.mp read
    have named := readString_iff.mp name
    dsimp only at read
    split at read
    · rename_i colon
      obtain ⟨⟨x, tail⟩, first, read⟩ := bind_eq_ok_iff.mp read
      have value := inside.value _ _ _ first
      dsimp only at read
      split at read
      · rename_i closed
        cases read
        exact .lastMember named (gap_of_skipBlanks colon) (gap_skipBlanks _) value
          (gap_of_skipBlanks closed)
      · rename_i comma
        obtain ⟨⟨later, tail⟩, others, read⟩ := bind_eq_ok_iff.mp read
        cases read
        exact .member named (gap_of_skipBlanks colon) (gap_skipBlanks _) value
          (gap_of_skipBlanks comma) (gap_skipBlanks _) (inside.members _ _ _ others)
      · cases read
    · cases read
  · cases read

theorem follows (fuel : Nat) : Follows fuel := by
  -- The readers call each other, each time with one call fewer.
  induction fuel with
  | zero =>
    refine ⟨?_, ?_, ?_⟩
    · intro cs j rest read
      cases read
    · intro cs xs rest read
      cases read
    · intro cs ms rest read
      cases read
  | succ fuel ih =>
    exact ⟨fun _ _ _ => readValue_follows ih, fun _ _ _ => readItems_follows ih,
      fun _ _ _ => readMembers_follows ih⟩

theorem denotes_of_read {text : List Char} {d : Json} (read : Json.read text = .ok d) :
    Denotes text d := by
  unfold Json.read at read
  split at read
  · cases read
  · obtain ⟨⟨x, tail⟩, first, read⟩ := bind_eq_ok_iff.mp read
    dsimp only at read
    split at read
    · rename_i ended
      cases read
      exact ⟨_, tail, gap_skipBlanks text, (follows _).value _ _ _ first, gap_of_skipBlanks ended⟩
    · cases read

/-! What follows the rules is read. -/

theorem Characters.length_lt {cs s rest : List Char} (characters : Characters cs s rest) :
    rest.length < cs.length := by
  induction characters with
  | close => simp
  | plain => simp only [List.length_cons]; omega
  | letter => simp only [List.length_cons]; omega
  | unit escaped =>
    cases escaped
    simp only [List.length_cons]
    omega
  | pair first second =>
    cases first
    cases second
    simp only [List.length_cons] at *
    omega
  | lone escaped =>
    cases escaped
    simp only [List.length_cons]
    omega

theorem IsNumber.length_lt {cs rest : List Char} {j : Json} (number : IsNumber cs j rest) :
    rest.length < cs.length := by
  have counted : ∀ {ds : List Char}, Whole ds → 0 < ds.length :=
    fun whole => List.length_pos_iff.mpr whole.some
  cases number with
  | integer negative whole =>
    have some := counted whole
    simp only [List.length_append]
    omega
  | double negative whole fraction scale =>
    have some := counted whole
    have part : ∀ {cs ds rest}, Fraction cs ds rest → rest.length ≤ cs.length := by
      intro cs ds rest fraction
      cases fraction <;> simp; omega
    have power : ∀ {cs n rest}, Power cs n rest → rest.length ≤ cs.length := by
      intro cs n rest scale
      cases scale <;> simp <;> omega
    have first := part fraction
    have second := power scale
    simp only [List.length_append]
    omega

theorem word_length {w : String} {j : Json} (named : (w, j) ∈ words) : 0 < w.toList.length := by
  simp only [words, List.mem_cons, Prod.mk.injEq, List.not_mem_nil, or_false] at named
  rcases named with ⟨rfl, -⟩ | ⟨rfl, -⟩ | ⟨rfl, -⟩ <;> decide

theorem Derives.length_lt {cs rest : List Char} {form : Form} (derives : Derives cs form rest) :
    rest.length < cs.length := by
  induction derives with
  | word named rest =>
    have some : 0 < _ := word_length named
    rw [List.length_append]
    omega
  | number number => exact number.length_lt
  | string characters =>
    have shorter := characters.length_lt
    simp only [List.length_cons]
    omega
  | emptyArray closed => exact Nat.lt_succ_of_lt closed.length_lt
  | array opened _ ih => exact Nat.lt_succ_of_lt (Nat.lt_of_lt_of_le ih opened.length_le)
  | emptyObject closed => exact Nat.lt_succ_of_lt closed.length_lt
  | object opened _ _ ih => exact Nat.lt_succ_of_lt (Nat.lt_of_lt_of_le ih opened.length_le)
  | lastItem _ closed ih => exact Nat.lt_trans closed.length_lt ih
  | item _ comma gap _ first later =>
    have next := comma.around gap
    omega
  | lastMember name colon gap _ closed ih =>
    have named := name.length_lt
    have begun := colon.around gap
    have ended := closed.length_lt
    rw [List.length_cons]
    omega
  | member name colon gap _ comma space _ first later =>
    have named := name.length_lt
    have begun := colon.around gap
    have next := comma.around space
    rw [List.length_cons]
    omega

/-- What a form of a text starts with: the name of a first member has a quote, and everything else
opens with a value. -/
def Form.Begins (form : Form) (c : Char) : Prop :=
  match form with
  | .members _ => c = '"'
  | _ => Opens c

theorem IsNumber.opens {cs rest : List Char} {j : Json} (number : IsNumber cs j rest) :
    ∃ c more, cs = c :: more ∧ Opens c := by
  have first : ∀ (negative : Bool) {ds : List Char} (more : List Char), Whole ds →
      ∃ c later, minus negative ++ (ds ++ more) = c :: later ∧ Opens c := by
    intro negative ds more whole
    cases negative with
    | true => exact ⟨'-', ds ++ more, rfl, by decide, by decide, by decide, by decide⟩
    | false =>
      obtain ⟨c, later, rfl⟩ := List.exists_cons_of_ne_nil whole.some
      exact ⟨c, later ++ more, rfl, opens_digit (whole.all c List.mem_cons_self)⟩
  cases number with
  | integer negative whole rest => exact first negative rest whole
  | double negative whole => exact first negative _ whole

theorem Derives.head {cs rest : List Char} {form : Form} (derives : Derives cs form rest) :
    ∃ c more, cs = c :: more ∧ form.Begins c := by
  induction derives with
  | word named rest =>
    simp only [words, List.mem_cons, Prod.mk.injEq, List.not_mem_nil, or_false] at named
    rcases named with ⟨rfl, -⟩ | ⟨rfl, -⟩ | ⟨rfl, -⟩ <;>
      exact ⟨_, _, rfl, by decide, by decide, by decide, by decide⟩
  | number number => exact number.opens
  | string | emptyArray | array | emptyObject | object =>
    exact ⟨_, _, rfl, by decide, by decide, by decide, by decide⟩
  | lastItem _ _ ih => exact ih
  | item _ _ _ _ ih => exact ih
  | lastMember => exact ⟨_, _, rfl, rfl⟩
  | member => exact ⟨_, _, rfl, rfl⟩

theorem Derives.skipBlanks {cs inner rest : List Char} {form : Form} (gap : Gap cs inner)
    (derives : Derives inner form rest) : Json.skipBlanks cs = inner := by
  obtain ⟨c, more, rfl, begins⟩ := derives.head
  apply gap.skipBlanks
  cases form with
  | value j => exact begins.1
  | items xs => exact begins.1
  | members written =>
    cases begins
    rfl

/-- What a reader answers for a form, if its calls may go deep enough. -/
def Form.Read (form : Form) (cs rest : List Char) : Prop :=
  match form with
  | .value j => NumberEnds rest → ∀ fuel, 2 * cs.length ≤ fuel → readValue fuel cs = .ok (j, rest)
  | .items xs => ∀ fuel, 2 * cs.length + 1 ≤ fuel → readItems fuel cs = .ok (xs, rest)
  | .members written => ∀ fuel, 2 * cs.length + 1 ≤ fuel → readMembers fuel cs = .ok (written, rest)

theorem Gap.mark_ends {cs rest : List Char} {c : Char} (gap : Gap cs (c :: rest))
    (mark : c ∈ [',', ']', '}', '\n']) :
    NumberEnds cs :=
  gap.numberEnds (numberEnds_cons mark rest)

theorem exists_succ {n m : Nat} (less : n < m) : ∃ k, m = k + 1 ∧ n ≤ k :=
  ⟨m - 1, by omega, by omega⟩

/-- An opening bracket pays for the call that reads what is behind it. -/
theorem exists_inside {c : Char} {cs inner : List Char} {fuel : Nat} (opened : Gap cs inner)
    (enough : 2 * (c :: cs).length ≤ fuel) : ∃ k, fuel = k + 1 ∧ 2 * inner.length + 1 ≤ k := by
  have shorter := opened.length_le
  rw [List.length_cons] at enough
  exact exists_succ (by omega)

theorem Derives.read {cs rest : List Char} {form : Form} (derives : Derives cs form rest) :
    form.Read cs rest := by
  -- Every rule takes a character for each call that it needs, so the parts are read with the calls
  -- that are left.
  induction derives with
  | word named rest =>
    intro _ fuel enough
    have some := word_length named
    obtain ⟨fuel, rfl, -⟩ := exists_succ (show 0 < fuel by rw [List.length_append] at enough; omega)
    simp only [words, List.mem_cons, Prod.mk.injEq, List.not_mem_nil, or_false] at named
    rcases named with ⟨rfl, rfl⟩ | ⟨rfl, rfl⟩ | ⟨rfl, rfl⟩ <;> rfl
  | number number =>
    intro ends fuel enough
    have shorter := number.length_lt
    obtain ⟨fuel, rfl, -⟩ := exists_succ (show 0 < fuel by omega)
    exact readValue_number fuel (number.read ends)
  | string characters =>
    intro _ fuel enough
    obtain ⟨fuel, rfl, -⟩ := exists_inside (gap_none _) enough
    rw [readValue, readString_iff.mpr characters]
    rfl
  | emptyArray closed =>
    intro _ fuel enough
    obtain ⟨fuel, rfl, -⟩ := exists_inside closed enough
    rw [readValue, closed.skipBlanks (by decide)]
    rfl
  | array opened items ih =>
    intro _ fuel enough
    obtain ⟨fuel, rfl, left⟩ := exists_inside opened enough
    obtain ⟨c, more, text, begins⟩ := items.head
    refine (readValue_items (items.skipBlanks opened) ?_
      (answers_ok (ih fuel left) trivial)).1 trivial
    rintro _ rfl
    cases text
    exact begins.2.1 rfl
  | emptyObject closed =>
    intro _ fuel enough
    obtain ⟨fuel, rfl, -⟩ := exists_inside closed enough
    rw [readValue, closed.skipBlanks (by decide)]
    rfl
  | object opened members collected ih =>
    intro _ fuel enough
    obtain ⟨fuel, rfl, left⟩ := exists_inside opened enough
    obtain ⟨c, more, text, begins⟩ := members.head
    rw [← collected.ofMembers_eq]
    refine (readValue_members (members.skipBlanks opened) ?_
      (answers_ok (ih fuel left) trivial)).1 trivial
    rintro _ rfl
    cases text
    cases begins
  | lastItem value closed ih =>
    intro fuel enough
    obtain ⟨fuel, rfl, left⟩ := exists_succ enough
    exact (readItems_last (answers_ok (ih (closed.mark_ends (by decide)) fuel left) trivial)
      (closed.skipBlanks (by decide))).1 trivial
  | item value comma gap items first later =>
    intro fuel enough
    obtain ⟨fuel, rfl, left⟩ := exists_succ enough
    have shorter := value.length_lt
    have next := comma.around gap
    refine (readItems_more (answers_ok (first (comma.mark_ends (by decide)) fuel left) trivial)
      (comma.skipBlanks (by decide)) (answers_ok ?_ trivial)).1 ⟨trivial, trivial⟩
    rw [items.skipBlanks gap]
    exact later fuel (by omega)
  | lastMember name colon gap value closed ih =>
    intro fuel enough
    obtain ⟨fuel, rfl, left⟩ := exists_succ enough
    have named := name.length_lt
    have begun := colon.around gap
    rw [List.length_cons] at left
    refine (readMembers_last (readString_iff.mpr name) (colon.skipBlanks (by decide))
      (answers_ok ?_ trivial) (closed.skipBlanks (by decide))).1 trivial
    rw [value.skipBlanks gap]
    exact ih (closed.mark_ends (by decide)) fuel (by omega)
  | member name colon gap value comma space members first later =>
    intro fuel enough
    obtain ⟨fuel, rfl, left⟩ := exists_succ enough
    have named := name.length_lt
    have begun := colon.around gap
    have shorter := value.length_lt
    have next := comma.around space
    rw [List.length_cons] at left
    refine (readMembers_more (readString_iff.mpr name) (colon.skipBlanks (by decide))
      (answers_ok ?_ trivial) (comma.skipBlanks (by decide)) (answers_ok ?_ trivial)).1 ⟨trivial,
        trivial⟩
    · rw [value.skipBlanks gap]
      exact first (comma.mark_ends (by decide)) fuel (by omega)
    · rw [members.skipBlanks space]
      exact later fuel (by omega)

theorem unmarked_of_skipBlanks {text more : List Char} {c : Char}
    (skipped : skipBlanks text = c :: more) (other : c ≠ '\ufeff') (rest : List Char) :
    text ≠ '\ufeff' :: rest := by
  rintro rfl
  rw [skipBlanks_cons (by decide)] at skipped
  cases skipped
  exact other rfl

theorem Denotes.read {text : List Char} {d : Json} (denotes : Denotes text d) :
    Json.read text = .ok d := by
  obtain ⟨inner, rest, gap, value, ended⟩ := denotes
  have shorter := gap.length_le
  have found := value.read (ended.numberEnds numberEnds_nil) (2 * text.length + 2) (by omega)
  have skipped := value.skipBlanks gap
  have unmarked : ∀ more, text ≠ '\ufeff' :: more := by
    obtain ⟨c, later, rfl, begins⟩ := value.head
    exact unmarked_of_skipBlanks skipped begins.2.2.2
  rw [Json.read]
  · rw [skipped, found]
    simp only [bind, Except.bind, ended.skipBlanks_nil]
    rfl
  · exact unmarked

/-- What a text is read as is what it denotes by the grammar. -/
theorem read_iff {text : List Char} {d : Json} : Json.read text = .ok d ↔ Denotes text d :=
  ⟨denotes_of_read, Denotes.read⟩

end AgentWire.Json
