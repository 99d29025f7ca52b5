import AgentWire.Proofs.RoundTrip

/-! Column values. Every document is one, but an object that fits a result set is taken for a result
set at every depth, and a result set is written back without its nulls. Nothing else is lost, and
nothing but the order of members changes.
-/
namespace AgentWire

open List (Forall₂)

/-- Equality up to the order of the members of objects. -/
inductive Json.Reordered : Json → Json → Prop where
  | refl (d : Json) : Reordered d d
  | arr {items others : List Json} (length : items.length = others.length)
      (each : ∀ (i : Nat) x y, items[i]? = some x → others[i]? = some y → Reordered x y) :
      Reordered (.arr items) (.arr others)
  | obj {members others : List (String × Json)} (keys : (members.map (·.1)).Perm (others.map (·.1)))
      (each : ∀ key x y, Json.lookup key members = some x → Json.lookup key others = some y →
        Reordered x y) :
      Reordered (.obj members) (.obj others)

theorem Json.Reordered.member {members others : List (String × Json)} {key : String} {x y : Json}
    (same : Reordered (.obj members) (.obj others)) (here : lookup key members = some x)
    (there : lookup key others = some y) : Reordered x y := by
  cases same with
  | refl =>
    cases here.symm.trans there
    exact .refl x
  | obj keys each => exact each key x y here there

theorem Json.Reordered.keys {members others : List (String × Json)}
    (same : Reordered (.obj members) (.obj others)) :
    (members.map (·.1)).Perm (others.map (·.1)) := by
  cases same with
  | refl => exact .refl _
  | obj keys each => exact keys

theorem Json.Reordered.item {items others : List Json} {i : Nat} {x y : Json}
    (same : Reordered (.arr items) (.arr others)) (here : items[i]? = some x)
    (there : others[i]? = some y) :
    Reordered x y := by
  cases same with
  | refl =>
    cases here.symm.trans there
    exact .refl x
  | arr length each => exact each i x y here there

/-- Members that are taken for a result set: no keys but `aggregates`, null or an object, and
`rows`, null or an array of objects. -/
def IsResultSet (members : List (String × Json)) : Prop :=
  (∀ m ∈ members, m.1 ∈ ["aggregates", "rows"]) ∧
    (∀ x, Json.lookup "aggregates" members = some x → x = .null ∨ ∃ groups, x = .obj groups) ∧
    ∀ x, Json.lookup "rows" members = some x →
      x = .null ∨ ∃ rows, x = .arr rows ∧ ∀ row ∈ rows, ∃ columns, row = .obj columns

/-- A column value that is not written back as it was: it is taken for a result set, and one of its
members is null, or a column of one of its rows is such a value. -/
inductive LosesNull : Json → Prop where
  | null {members : List (String × Json)} {key : String} (captured : IsResultSet members)
      (null : Json.lookup key members = some .null) : LosesNull (.obj members)
  | column {members columns : List (String × Json)} {rows : List Json} {key : String} {x : Json}
      (captured : IsResultSet members) (listed : Json.lookup "rows" members = some (.arr rows))
      (row : .obj columns ∈ rows) (column : Json.lookup key columns = some x)
      (deeper : LosesNull x) :
      LosesNull (.obj members)

theorem belongs_column (d : Json) : Belongs Alias.responseFieldValue.shape d :=
  .second (.json d)

theorem isResultSet_iff {members : List (String × Json)} :
    Belongs (.record .responseRow) (.obj members) ↔ IsResultSet members := by
  constructor
  · intro belongs
    cases belongs with
    | record _ given declared =>
      refine ⟨declared rfl, ?_, ?_⟩
      · intro x found
        by_cases null : x = .null
        · exact .inl null
        · have fits :=
            given (opt "aggregates" (.map .json)) (.head _) x found (mt skips_opt_iff.mp null)
          cases fits with
          | map each => exact .inr ⟨_, rfl⟩
      · intro x found
        by_cases null : x = .null
        · exact .inl null
        · have fits := given (opt "rows" (.list (.map Alias.responseFieldValue.shape)))
            (.tail _ (.head _)) x found (mt skips_opt_iff.mp null)
          cases fits with
          | list each =>
            refine .inr ⟨_, rfl, ?_⟩
            intro row inside
            cases each row inside with
            | map _ => exact ⟨_, rfl⟩
  · rintro ⟨declared, aggregates, rows⟩
    refine .record ?_ ?_ fun _ => declared
    · intro f member required
      rcases List.mem_pair.mp member with rfl | rfl <;> cases required
    · intro f member x found kept
      rcases List.mem_pair.mp member with rfl | rfl
      · rcases aggregates x found with null | ⟨groups, rfl⟩
        · exact absurd (skips_opt_iff.mpr null) kept
        · exact .map fun m _ => .json m.2
      · rcases rows x found with null | ⟨items, rfl, each⟩
        · exact absurd (skips_opt_iff.mpr null) kept
        · refine .list fun row inside => ?_
          obtain ⟨columns, rfl⟩ := each row inside
          exact .map fun m _ => belongs_column m.2

/-! The form in which a column value is written back. -/

/-- A column value that is taken for no result set is written back as it was. -/
theorem normal_column {d : Json} (other : ∀ members, d = .obj members → ¬ IsResultSet members) :
    normal Alias.responseFieldValue.shape d = d := by
  have fails : ∀ v, readShape d (.record .responseRow) ≠ .ok v := by
    intro v reads
    obtain ⟨members, _, rfl, _⟩ := read_record_iff.mp reads
    exact other members rfl (isResultSet_iff.mp (belongs_of_read reads))
  show normal (.either (.record .responseRow) .json) d = d
  rw [normal_second rfl fails, normal.eq_def]

theorem normal_captured {members : List (String × Json)} (captured : IsResultSet members) :
    normal Alias.responseFieldValue.shape (.obj members) =
      .obj (normalMembers .responseRow members) := by
  obtain ⟨v, reads⟩ := read_of_belongs (isResultSet_iff.mpr captured) rfl
  show normal (.either (.record .responseRow) .json) _ = _
  rw [normal_first rfl reads, normal]

theorem lookup_dropped {r : Record} {name : String} {s : Shape} {members : List (String × Json)}
    (declared : opt name s ∈ r.fields)
    (nothing : ∀ x, Json.lookup name members = some x → x = .null) :
    Json.lookup name (normalMembers r members) = none := by
  have there : Json.lookup name _ = _ := lookup_normalMembers members declared
  rw [there, Option.map_eq_none_iff]
  cases found : Json.lookup name members with
  | none => exact normalField_none found
  | some x => exact normalField_skipped found (skips_opt_iff.mpr (nothing x found))

theorem lookup_kept {r : Record} {name : String} {s : Shape} {members : List (String × Json)}
    {x : Json} (declared : opt name s ∈ r.fields) (found : Json.lookup name members = some x)
    (real : x ≠ .null) :
    Json.lookup name (normalMembers r members) = some (normal s x) := by
  have there : Json.lookup name _ = _ := lookup_normalMembers members declared
  rw [there, normalField_given found (mt skips_opt_iff.mp real)]
  rfl

theorem normal_groups (groups : List (String × Json)) :
    normal (.map .json) (.obj groups) = .obj groups := by
  have same : ∀ m ∈ groups, (m.1, normal .json m.2) = m := by
    intro m _
    rw [normal.eq_def]
  rw [normal, List.map_congr_left same, List.map_id']

section Captured

variable {members : List (String × Json)} (captured : IsResultSet members)

include captured in
theorem captured_key {key : String} {x : Json} (found : Json.lookup key members = some x) :
    key = "aggregates" ∨ key = "rows" :=
  List.mem_pair.mp (captured.1 _ (Json.mem_of_lookup found))

include captured in
/-- Without nulls a result set is written back with its keys. -/
theorem captured_keys (distinct : (members.map (·.1)).Nodup)
    (real : ∀ key, Json.lookup key members ≠ some .null) :
    ((normalMembers .responseRow members).map (·.1)).Perm (members.map (·.1)) := by
  have found_iff : ∀ name s, opt name s ∈ Record.responseRow.fields →
      (Json.lookup name (normalMembers .responseRow members) = none ↔
        Json.lookup name members = none) := by
    intro name s declared
    cases found : Json.lookup name members with
    | none =>
      exact iff_of_true (lookup_dropped declared fun x here => by cases found.symm.trans here) rfl
    | some x =>
      rw [lookup_kept declared found fun null => real name (null ▸ found)]
      exact iff_of_false (Option.some_ne_none _) (Option.some_ne_none _)
  refine (List.perm_ext_iff_of_nodup (normalMembers_nodup _ _) distinct).mpr ?_
  intro key
  by_cases known : key = "aggregates" ∨ key = "rows"
  · rw [← not_iff_not, ← Json.lookup_eq_none_iff, ← Json.lookup_eq_none_iff]
    rcases known with rfl | rfl
    · exact found_iff "aggregates" _ (.head _)
    · exact found_iff "rows" _ (.tail _ (.head _))
  · refine iff_of_false ?_ ?_
    · intro inside
      obtain ⟨m, member, rfl⟩ := List.mem_map.mp inside
      exact known (List.mem_pair.mp (declared_of_normalMembers m member))
    · intro inside
      obtain ⟨m, member, rfl⟩ := List.mem_map.mp inside
      exact known (List.mem_pair.mp (captured.1 m member))

end Captured

/-- What loses no null is written back as it was, up to the order of members. -/
theorem reordered_normal {d : Json} (distinct : d.Distinct) (keeps : ¬ LosesNull d) :
    (normal Alias.responseFieldValue.shape d).Reordered d := by
  -- Columns stand in the rows of the members, so the recursion goes by size and not by parts.
  by_cases set : ∃ members, d = .obj members ∧ IsResultSet members
  · obtain ⟨members, rfl, captured⟩ := set
    have real : ∀ key, Json.lookup key members ≠ some .null := by
      intro key null
      exact keeps (.null captured null)
    rw [normal_captured captured]
    refine .obj (captured_keys captured distinct.nodup real) ?_
    intro key x y here there
    rcases captured_key captured there with rfl | rfl
    · have kept := lookup_kept (r := .responseRow) (.head _) there fun null => real _ (null ▸ there)
      cases kept.symm.trans here
      obtain rfl | ⟨groups, rfl⟩ := captured.2.1 y there
      · exact absurd there (real _)
      · rw [normal_groups]
        exact .refl _
    · have kept :=
        lookup_kept (r := .responseRow) (.tail _ (.head _)) there fun null => real _ (null ▸ there)
      cases kept.symm.trans here
      obtain rfl | ⟨rows, rfl, objects⟩ := captured.2.2 y there
      · exact absurd there (real _)
      · rw [normal]
        refine .arr (List.length_map _) ?_
        intro i row row' normal_row given_row
        rw [List.getElem?_map, given_row] at normal_row
        cases normal_row
        have inside := List.mem_of_getElem? given_row
        obtain ⟨columns, rfl⟩ := objects row' inside
        show (normal (.map Alias.responseFieldValue.shape) (.obj columns)).Reordered (.obj columns)
        rw [normal]
        refine .obj (by rw [List.map_map]; rfl) ?_
        intro key x y here column
        rw [Json.lookup_map, column] at here
        cases here
        have listed := Json.everywhere_members distinct (Json.mem_of_lookup there)
        have whole := Json.everywhere_items listed inside
        have part := Json.everywhere_members whole (Json.mem_of_lookup column)
        exact reordered_normal part fun deeper =>
          keeps (.column captured there inside column deeper)
  · rw [normal_column fun members same captured => set ⟨members, same, captured⟩]
    exact .refl d
termination_by sizeOf d
decreasing_by
  subst ‹d = Json.obj members›
  have outer : sizeOf (Json.arr rows) < sizeOf (Json.obj members) :=
    Json.sizeOf_member (d := .obj members) (Json.mem_of_lookup ‹Json.lookup "rows" members = _›)
  have middle : sizeOf (Json.obj columns) < sizeOf (Json.arr rows) :=
    Json.sizeOf_item (d := .arr rows) ‹_ ∈ rows›
  have inner :=
    Json.sizeOf_member (d := .obj columns) (Json.mem_of_lookup ‹Json.lookup _ columns = _›)
  exact Nat.lt_trans (Nat.lt_trans inner middle) outer

theorem not_reordered_normal {d : Json} (loses : LosesNull d) :
    ¬ (normal Alias.responseFieldValue.shape d).Reordered d := by
  induction loses with
  | @null members key captured null =>
    rw [normal_captured captured]
    intro same
    have gone : Json.lookup key (normalMembers .responseRow members) = none := by
      have nothing : ∀ x, Json.lookup key members = some x → x = .null := by
        intro x found
        cases null.symm.trans found
        rfl
      rcases captured_key captured null with rfl | rfl
      · exact lookup_dropped (r := .responseRow) (.head _) nothing
      · exact lookup_dropped (r := .responseRow) (.tail _ (.head _)) nothing
    have named := same.keys.mem_iff.mpr (List.mem_map_of_mem (Json.mem_of_lookup null))
    exact Json.lookup_eq_none_iff.mp gone named
  | @column members columns rows key x captured listed row column deeper ih =>
    rw [normal_captured captured]
    intro same
    have kept := lookup_kept (r := .responseRow) (.tail _ (.head _)) listed (by simp)
    have lists := same.member kept listed
    obtain ⟨i, at_⟩ := List.getElem?_of_mem row
    rw [normal] at lists
    have there : (rows.map (normal (.map Alias.responseFieldValue.shape)))[i]? = some _ :=
      List.getElem?_map.trans (congrArg _ at_)
    have objects := lists.item there at_
    rw [normal] at objects
    exact ih (objects.member (by rw [Json.lookup_map, column]; rfl) column)

/-- Decoding takes every document for a column value, and what is written back for it is the
document, up to the order of members, unless the document loses a null. -/
theorem encode_column (d : Json) (distinct : d.Distinct) (finite : d.Finite) :
    ∃ v, decode Alias.responseFieldValue.shape d = .ok v ∧
      ((encodeAt v Alias.responseFieldValue.shape).Reordered d ↔ ¬ LosesNull d) := by
  obtain ⟨v, reads⟩ := read_of_belongs (belongs_column d) rfl
  refine ⟨v, decode_eq_ok_iff.mpr reads, ?_⟩
  rw [encode_read rfl finite reads]
  constructor
  · intro same loses
    exact not_reordered_normal loses same
  · exact reordered_normal distinct

/-- A row whose column holds a result set without aggregates, as an agent may well write it. -/
def nullAggregates : Json :=
  .obj [("rows",
    .arr [.obj [("name", .null), ("orders", .obj [("aggregates", .null), ("rows", .arr [])])]])]

theorem encode_column_nulls :
    nullAggregates.Distinct ∧ nullAggregates.Finite ∧ LosesNull nullAggregates ∧
      ∃ v, decode Alias.responseFieldValue.shape nullAggregates = .ok v ∧
        ¬ (encodeAt v Alias.responseFieldValue.shape).Reordered nullAggregates := by
  have distinct : nullAggregates.Distinct := by decide
  have finite : nullAggregates.Finite := by decide
  have orders : LosesNull (.obj [("aggregates", .null), ("rows", .arr [])]) := by
    refine @LosesNull.null _ "aggregates" ⟨by simp, ?_, ?_⟩ rfl
    · intro x found
      cases found
      exact .inl rfl
    · intro x found
      cases found
      exact .inr ⟨[], rfl, by simp⟩
  have loses : LosesNull nullAggregates := by
    refine @LosesNull.column _ _ _ "orders" _ ⟨by simp, ?_, ?_⟩ rfl List.mem_cons_self rfl orders
    · intro x found
      cases found
    · intro x found
      cases found
      exact .inr ⟨_, rfl, by simp⟩
  obtain ⟨v, decoded, kept_iff⟩ := encode_column nullAggregates distinct finite
  exact ⟨distinct, finite, loses, v, decoded, fun kept => kept_iff.mp kept loses⟩

/-- A column value with null aggregates and nothing else is written back as the empty object. -/
theorem encode_column_differs :
    ¬ ∀ (d : Json) (v : Value), d.Distinct → d.Finite →
      decode Alias.responseFieldValue.shape d = .ok v →
      (encodeAt v Alias.responseFieldValue.shape).Reordered d := by
  intro always
  have same := always (.obj [("aggregates", .null)])
    (.record .responseRow [("aggregates", .absent), ("rows", .absent)]) (by decide) (by decide) rfl
  have form : encodeAt (.record .responseRow [("aggregates", .absent), ("rows", .absent)])
      Alias.responseFieldValue.shape = .obj [] := rfl
  rw [form] at same
  exact absurd same.keys.length_eq (by decide)

end AgentWire
