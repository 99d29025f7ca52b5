import AgentWire.Proofs.JsonText
import AgentWire.Wire.Path

/-! The text of a path. As long as no name is empty or holds one of the marks that set steps apart,
the text of each step can be told from what follows it; so two paths with the same text are the
same. -/
namespace AgentWire

/-- The characters that set the steps of a path apart. -/
def pathMarks : List Char := ['.', '[', ']']

def Unmarked (cs : List Char) : Prop :=
  ∀ c ∈ cs, c ∉ pathMarks

instance (cs : List Char) : Decidable (Unmarked cs) :=
  List.decidableBAll (· ∉ pathMarks) cs

namespace Step

/-- An index, or a name that is not empty and has no mark in it. -/
def Plain : Step → Prop
  | .key k => k ≠ "" ∧ Unmarked k.toList
  | .index _ => True
  | .flag _ | .null | .num _ => False

instance : (s : Step) → Decidable s.Plain
  | .key _ => inferInstanceAs (Decidable (_ ∧ _))
  | .index _ => inferInstanceAs (Decidable True)
  | .flag _ | .null | .num _ => inferInstanceAs (Decidable False)

/-- What a step adds to a text before it. -/
def suffix (s : Step) : List Char :=
  if s.isBracketed then '[' :: (s.text.toList ++ [']']) else '.' :: s.text.toList

theorem text_key (k : String) : (Step.key k).text.toList = k.toList :=
  String.toList_ofList

theorem text_index (i : Int) : (Step.index i).text.toList = Json.writeInt i :=
  String.toList_ofList

/-- The text of an index ends at its bracket. -/
theorem index_append {i j : Int} {a b : List Char}
    (same : Json.writeInt i ++ ']' :: a = Json.writeInt j ++ ']' :: b) :
    i = j ∧ a = b := by
  have left := Json.number_writeInt i (Json.numberEnds_cons (c := ']') (by decide) a)
  have right := Json.number_writeInt j (Json.numberEnds_cons (c := ']') (by decide) b)
  rw [same, right] at left
  cases left
  exact ⟨rfl, rfl⟩

/-- The text of a name ends where a mark follows. -/
theorem name_append {k l a b : List Char} (left : Unmarked k) (right : Unmarked l)
    (mark : ∀ c ∈ a.head?, c ∈ pathMarks) (mark' : ∀ c ∈ b.head?, c ∈ pathMarks)
    (same : k ++ a = l ++ b) :
    k = l ∧ a = b := by
  -- the name is what stands before the first mark
  have cut : ∀ {name tail : List Char}, Unmarked name → (∀ c ∈ tail.head?, c ∈ pathMarks) →
      (name ++ tail).takeWhile (· ∉ pathMarks) = name := by
    intro name tail clean stop
    rw [List.takeWhile_append_of_pos fun c inside => decide_eq_true (clean c inside)]
    cases tail with
    | nil => simp
    | cons c rest =>
      have ends : c ∈ pathMarks := stop c rfl
      rw [List.takeWhile_cons, if_neg (by simpa using ends), List.append_nil]
  have names : k = l := by rw [← cut left mark, same, cut right mark']
  exact ⟨names, List.append_cancel_left (names ▸ same)⟩

/-- A step is known by what it adds, whatever steps follow it. -/
theorem suffix_append {s t : Step} (plain : s.Plain) (plain' : t.Plain) {a b : List Char}
    (mark : ∀ c ∈ a.head?, c ∈ pathMarks) (mark' : ∀ c ∈ b.head?, c ∈ pathMarks)
    (same : s.suffix ++ a = t.suffix ++ b) : s = t ∧ a = b := by
  cases s with
  | key k =>
    cases t with
    | key l =>
      have rest := List.cons.inj same
      rw [text_key, text_key] at rest
      obtain ⟨names, ends⟩ := name_append plain.2 plain'.2 mark mark' rest.2
      exact ⟨by rw [String.toList_inj.mp names], ends⟩
    | index j => exact absurd (List.cons.inj same).1 (by decide)
    | _ => cases plain'
  | index i =>
    cases t with
    | key l => exact absurd (List.cons.inj same).1 (by decide)
    | index j =>
      have rest : (index i).text.toList ++ [']'] ++ a = (index j).text.toList ++ [']'] ++ b :=
        (List.cons.inj same).2
      rw [text_index, text_index, List.append_assoc, List.append_assoc] at rest
      obtain ⟨rfl, ends⟩ := index_append rest
      exact ⟨rfl, ends⟩
    | _ => cases plain'
  | _ => cases plain

end Step

namespace Path

def suffixes (steps : Path) : List Char :=
  steps.flatMap Step.suffix

theorem suffixes_cons (s : Step) (rest : Path) : suffixes (s :: rest) = s.suffix ++ suffixes rest :=
  List.flatMap_cons

theorem suffixes_head (steps : Path) : ∀ c ∈ (suffixes steps).head?, c ∈ pathMarks := by
  cases steps with
  | nil => simp [suffixes]
  | cons s rest =>
    rw [suffixes_cons, Step.suffix]
    split <;> simp [pathMarks]

theorem suffixes_injective {p q : Path} (plain : ∀ s ∈ p, s.Plain) (plain' : ∀ s ∈ q, s.Plain)
    (same : suffixes p = suffixes q) : p = q := by
  have some (s : Step) (rest : Path) : suffixes (s :: rest) ≠ [] := by
    rw [suffixes_cons, Step.suffix]
    split <;> simp
  induction p generalizing q with
  | nil =>
    cases q with
    | nil => rfl
    | cons t others => exact absurd same.symm (some t others)
  | cons s rest ih =>
    cases q with
    | nil => exact absurd same (some s rest)
    | cons t others =>
      rw [List.forall_mem_cons] at plain plain'
      rw [suffixes_cons, suffixes_cons] at same
      obtain ⟨rfl, more⟩ :=
        Step.suffix_append plain.1 plain'.1 (suffixes_head rest) (suffixes_head others) same
      rw [ih plain.2 plain'.2 more]

theorem extend_some {before : String} (some : before ≠ "") (s : Step) :
    (extend before s).toList = before.toList ++ s.suffix := by
  unfold extend Step.suffix
  split
  · simp [String.toList_append]
  · simp [String.toList_append]

theorem foldl_extend {before : String} (some : before ≠ "") (steps : Path) :
    (steps.foldl extend before).toList = before.toList ++ suffixes steps := by
  induction steps generalizing before with
  | nil => simp [suffixes]
  | cons s rest ih =>
    have longer : extend before s ≠ "" := by
      intro empty
      have text := extend_some some s
      rw [empty] at text
      exact some (String.toList_eq_nil_iff.mp (List.append_eq_nil_iff.mp text.symm).1)
    rw [List.foldl_cons, ih longer, extend_some some, suffixes_cons, List.append_assoc]

theorem text_index (i : Int) (rest : Path) :
    (text (.index i :: rest)).toList = suffixes (.index i :: rest) := by
  have first : extend "" (.index i) = "[" ++ (Step.index i).text ++ "]" := by
    simp [extend, Step.isBracketed]
  have some : extend "" (.index i) ≠ "" := by
    rw [first]
    simp
  have folded : text (.index i :: rest) = rest.foldl extend (extend "" (.index i)) := rfl
  rw [folded, foldl_extend some, suffixes_cons, first]
  simp [Step.suffix, Step.isBracketed]

/-- A name at the start is written without its dot. -/
theorem text_key {k : String} (some : k ≠ "") (rest : Path) :
    '.' :: (text (.key k :: rest)).toList = suffixes (.key k :: rest) := by
  have first : extend "" (.key k) = k := String.ofList_toList
  have folded : text (.key k :: rest) = rest.foldl extend (extend "" (.key k)) := rfl
  rw [folded, first, foldl_extend some, suffixes_cons, Step.suffix, Step.text_key]
  rfl

/-- A name at the start is never taken for an index. -/
theorem text_key_ne_index {k : String} (plain : (Step.key k).Plain) (i : Int) (rest others : Path) :
    text (.key k :: rest) ≠ text (.index i :: others) := by
  intro same
  obtain ⟨c, more, name⟩ := List.exists_cons_of_ne_nil (mt String.toList_eq_nil_iff.mp plain.1)
  have left := text_key plain.1 rest
  have right := text_index i others
  rw [suffixes_cons, Step.suffix, Step.text_key, name] at left
  rw [← same, suffixes_cons] at right
  have bracket : c = '[' := by
    have chars := (List.cons.inj left).2
    rw [right] at chars
    exact (List.cons.inj chars).1.symm
  refine plain.2 c (by simp [name]) ?_
  simp [bracket, pathMarks]

theorem text_injective {p q : Path} (some : p ≠ []) (some' : q ≠ []) (plain : ∀ s ∈ p, s.Plain)
    (plain' : ∀ s ∈ q, s.Plain) (same : text p = text q) : p = q := by
  obtain ⟨s, rest, rfl⟩ := List.exists_cons_of_ne_nil some
  obtain ⟨t, others, rfl⟩ := List.exists_cons_of_ne_nil some'
  have first := plain s List.mem_cons_self
  have first' := plain' t List.mem_cons_self
  apply suffixes_injective plain plain'
  -- only at the start is a dot left out, so the first steps are compared by hand
  cases s with
  | key k =>
    cases t with
    | key l => rw [← text_key first.1, ← text_key first'.1, same]
    | index j => exact absurd same (text_key_ne_index first j rest others)
    | _ => cases first'
  | index i =>
    cases t with
    | key l => exact absurd same.symm (text_key_ne_index first' i others rest)
    | index j => rw [← text_index, ← text_index, same]
    | _ => cases first'
  | _ => cases first

/-- The text of a plain path says which one it is. It is the text of the empty path for a single
name alone, and a name is never written as an index, wherever it stands. -/
theorem text_identifies {p q : Path} (some : p ≠ []) (some' : q ≠ []) (plain : ∀ s ∈ p, s.Plain)
    (plain' : ∀ s ∈ q, s.Plain) :
    (text p = text q → p = q) ∧
      (text p = "<root>" → p = [.key "<root>"]) ∧
      ∀ front k i back others, p = front ++ .key k :: back → q = front ++ .index i :: others →
        text p ≠ text q := by
  refine ⟨text_injective some some' plain plain', fun root => ?_, ?_⟩
  · exact text_injective some (by simp) plain (by decide) root
  · rintro front k i back others rfl rfl same
    have paths := text_injective some some' plain plain' same
    simp at paths

theorem text_identifies_items :
    (∀ s ∈ [Step.key "rows", .key "0"], s.Plain) ∧ (∀ s ∈ [Step.key "rows", .index 0], s.Plain) ∧
      text [.key "rows", .key "0"] = "rows.0" ∧ text [.key "rows", .index 0] = "rows[0]" ∧
      text [.key "rows", .key "0"] ≠ text [.key "rows", .index 0] := by
  have name : ∀ s ∈ [Step.key "rows", .key "0"], s.Plain := by decide
  have index : ∀ s ∈ [Step.key "rows", .index 0], s.Plain := by decide
  have apart :=
    (text_identifies (by simp) (by simp) name index).2.2 [.key "rows"] "0" 0 [] [] rfl rfl
  exact ⟨name, index, by decide +kernel, by decide +kernel, apart⟩

end Path

end AgentWire
