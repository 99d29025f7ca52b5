import AgentWire.Proofs.Normal
import AgentWire.Proofs.ResultSets

/-! Reading the normal form of a document gives the value of the document again, except where it
takes a single result set for several. -/
namespace AgentWire

open List (Forall₂)

theorem kind_normal (s : Shape) (d : Json) : (normal s d).kind = d.kind := by
  induction s generalizing d with
  | list item _ =>
    rw [normal.eq_def]
    cases d <;> rfl
  | map value _ =>
    rw [normal.eq_def]
    cases d <;> rfl
  | record r =>
    rw [normal.eq_def]
    cases d <;> rfl
  | tagged variants =>
    rw [normal.eq_def]
    cases d with
    | obj members =>
      dsimp only
      split
      · split <;> rfl
      · rfl
    | _ => rfl
  | either first second first_ih second_ih =>
    rw [normal]
    split
    · exact first_ih d
    · exact second_ih d
  | _ => rw [normal.eq_def]

/-- In a normal form a field is found where its declaration puts it. -/
theorem lookup_normalMembers {r : Record} {f : Field} (members : List (String × Json))
    (declared : f ∈ r.fields) :
    Json.lookup f.name (normalMembers r members) = (normalField f members).map (·.2) := by
  rw [normalMembers]
  have distinct := r.fields_nodup
  generalize r.fields = fields at declared distinct
  induction fields with
  | nil => simp at declared
  | cons g rest ih =>
    rw [List.map_cons, List.nodup_cons] at distinct
    rcases List.mem_cons.mp declared with rfl | later
    -- No later field has the same name, so what follows in the normal form cannot be found under
    -- it.
    · have absent : Json.lookup f.name (rest.filterMap fun f => normalField f members) = none := by
        rw [Json.lookup_eq_none_iff]
        intro inside
        obtain ⟨m, member, name⟩ := List.mem_map.mp inside
        obtain ⟨g, other, here⟩ := List.mem_filterMap.mp member
        exact distinct.1 (List.mem_map.mpr ⟨g, other, by rw [← (normalField_eq_some here).1, name]⟩)
      cases here : normalField f members with
      | none => simp [here, absent]
      | some m => simp [here, Json.lookup, (normalField_eq_some here).1]
    · have other : g.name ≠ f.name := fun same => distinct.1 (same ▸ List.mem_map_of_mem later)
      rw [List.filterMap_cons, ← ih later distinct.2]
      cases here : normalField g members with
      | none => rfl
      | some m => simp [Json.lookup, (normalField_eq_some here).1, other]

theorem declared_of_normalMembers {r : Record} {members : List (String × Json)} :
    ∀ m ∈ normalMembers r members, m.1 ∈ r.fields.map (·.name) := by
  intro m member
  rw [normalMembers] at member
  obtain ⟨f, inside, here⟩ := List.mem_filterMap.mp member
  exact List.mem_map.mpr ⟨f, inside, (normalField_eq_some here).1.symm⟩

/-- A field gets its value again from the normal form, where nothing is skipped or implied any
more. -/
theorem fieldReads_normal {r : Record} {f : Field} {members : List (String × Json)} {v : Value}
    (declared : f ∈ r.fields) (reads : FieldReads members f v)
    (again : ∀ x, Json.lookup f.name members = some x → readShape x f.shape = .ok v →
      readShape (normal f.shape x) f.shape = .ok v) :
    FieldReads (normalMembers r members) f v := by
  have there := lookup_normalMembers members declared
  cases reads with
  | omitted missing optional =>
    rw [normalField_none missing, Field.impliedMember, optional] at there
    exact .omitted there optional
  | implied missing constant =>
    obtain ⟨label, rfl⟩ := Record.constant_field declared constant
    rw [normalField_none missing] at there
    exact .given there (variant_not_skips label _) (read_tag_iff.mpr ⟨rfl, rfl⟩)
  | skipped found skipped =>
    rw [normalField_skipped found skipped] at there
    exact .omitted there skipped.1
  | given found kept inner =>
    rw [normalField_given found kept] at there
    refine .given there (fun skipped => kept ⟨skipped.1, ?_⟩) (again _ found inner)
    rw [← skipped.2, kind_normal]

/-- Reading the normal form of a document gives the value of the document, as long as no union
inside of the shape could choose anew. -/
theorem read_normal {s : Shape} {d : Json} {v : Value} (separated : s.separated = true)
    (settled : s.settled = true) (reads : readShape d s = .ok v) :
    readShape (normal s d) s = .ok v := by
  induction s, d using Shape.descend generalizing v with
  | list item d ih =>
    obtain ⟨items, vs, rfl, rfl, all⟩ := read_list_iff.mp reads
    have again : Forall₂ (fun x v => readShape x item = .ok v)
        (items.map fun x => normal item x) vs := by
      apply forall₂_map_left_of all
      intro x inside v here
      exact ih x inside separated settled here
    rw [normal]
    exact read_list_iff.mpr ⟨_, vs, rfl, rfl, again⟩
  | map value d ih =>
    obtain ⟨members, entries, rfl, rfl, all⟩ := read_map_iff.mp reads
    have again : Forall₂ (fun m e => e.1 = m.1 ∧ readShape m.2 value = .ok e.2)
        (members.map fun m => (m.1, normal value m.2)) entries := by
      apply forall₂_map_left_of all
      intro m inside e here
      exact ⟨here.1, ih m inside separated settled here.2⟩
    rw [normal]
    exact read_map_iff.mpr ⟨_, entries, rfl, rfl, again⟩
  | record r d ih =>
    obtain ⟨members, entries, rfl, rfl, all, _⟩ := read_record_iff.mp reads
    have again : Forall₂ (fun f e => e.1 = f.name ∧ FieldReads (normalMembers r members) f e.2)
        (r.fields.map id) entries := by
      apply forall₂_map_left_of all
      intro f member e here
      refine ⟨here.1, fieldReads_normal member here.2 ?_⟩
      intro x found inner
      exact ih f member x found (Record.fields_separated member)
        (Record.fields_settled member) inner
    rw [List.map_id] at again
    rw [normal]
    exact read_record_iff.mpr ⟨_, entries, rfl, rfl, again, fun _ => declared_of_normalMembers⟩
  | tagged variants d ih =>
    obtain ⟨label, r, tag, found, inner⟩ := read_tagged_iff.mp reads
    obtain ⟨member, named⟩ := variantOf_eq_some found
    obtain ⟨members, entries, rfl, _⟩ := read_record_iff.mp inner
    have record := ih r member rfl rfl inner
    have given : Json.lookup (variant label).name members = some (.str label) := tag
    have still := lookup_normalMembers members (Record.variant_mem_fields named)
    rw [normalField_given given (variant_not_skips label _), normal.eq_def] at still
    rw [normal] at record
    rw [normal_tagged tag found, normal]
    exact read_tagged_iff.mpr ⟨label, r, still, found, record⟩
  | either first second d first_ih second_ih =>
    simp only [Shape.separated, Bool.and_eq_true] at separated
    simp only [Shape.settled, Bool.and_eq_true, Bool.or_eq_true, beq_iff_eq] at settled
    rcases read_either_iff.mp reads with here | ⟨none, here⟩
    · rw [normal_first separated.1.1 here]
      exact read_either_iff.mpr (.inl (first_ih separated.1.1 settled.1 here))
    -- The second shape keeps the document as it is, so the first one still does not take it.
    · have same : normal second d = d := by
        rcases settled.2 with rfl | rfl <;> rw [normal.eq_def]
      rw [normal_second separated.1.1 none, same]
      exact reads
  | _ => rw [normal.eq_def]; exact reads

/-! The one union whose variants both change documents. -/

theorem normalField_of_absent {f : Field} {members : List (String × Json)} {v : Value}
    (optional : f.need = .optional) (reads : FieldReads members f v) (absent : v = .absent) :
    normalField f members = none := by
  cases reads with
  | omitted missing _ => rw [normalField_none missing, Field.impliedMember, optional]
  | implied _ constant => simp [optional] at constant
  | skipped found skipped => exact normalField_skipped found skipped
  | given _ _ inner =>
    subst absent
    exact absurd (isPresent_of_read inner) (by decide)

/-- In normal form nothing but its value decides whether a single result set is taken for
several. -/
theorem belongs_forEachResponse_normal {d : Json} {v : Value}
    (reads : readShape d (.record .responseRow) = .ok v) :
    Belongs (.record .forEachResponse) (normal (.record .responseRow) d) ↔ LooksForEach v := by
  obtain ⟨members, _, rfl, _⟩ := read_record_iff.mp reads
  have again := read_normal rfl rfl reads
  obtain ⟨aggregates, _, same, aggregates_read, _⟩ := read_responseRow_iff.mp reads
  rw [normal] at again ⊢
  rw [belongs_forEachResponse_iff again, and_iff_left_iff_imp]
  rintro ⟨_, looks, _⟩
  rw [same] at looks
  cases looks
  have there := lookup_normalMembers (r := .responseRow) members (.head _)
  rw [normalField_of_absent rfl aggregates_read rfl] at there
  exact Json.lookup_eq_none_iff.mp there

/-- What was read as the answer to a query is read as the same again, unless it is a single result
set that looks like several. -/
theorem read_normal_queryResponse {d : Json} {v : Value}
    (reads : readShape d Alias.queryResponse.shape = .ok v) :
    readShape (normal Alias.queryResponse.shape d) Alias.queryResponse.shape = .ok v ↔
      ¬ LooksForEach v := by
  rcases read_either_iff.mp reads with here | ⟨none, here⟩
  · have again := read_normal rfl rfl here
    obtain ⟨_, _, _, rfl, _⟩ := read_record_iff.mp here
    refine iff_of_true ?_ ?_
    · rw [Alias.shape, normal_first rfl here]
      exact read_either_iff.mpr (.inl again)
    · rintro ⟨_, looks, _⟩
      cases looks
  · have again := read_normal rfl rfl here
    obtain ⟨_, _, _, same, _⟩ := read_record_iff.mp here
    rw [Alias.shape, normal_second rfl none, ← belongs_forEachResponse_normal here, read_either_iff]
    constructor
    · rintro (first | ⟨none, _⟩) belongs
      · obtain ⟨_, _, _, other, _⟩ := read_record_iff.mp first
        rw [same] at other
        cases other
      · obtain ⟨w, first⟩ := read_of_belongs belongs rfl
        exact none w first
    · intro outside
      exact .inr ⟨fun w first => outside (belongs_of_read first), again⟩

theorem belongs_normal (t : WireType) {d : Json} {v : Value} (reads : readShape d t.shape = .ok v) :
    Belongs t.shape (normal t.shape d) := by
  by_cases settled : t.shape.settled = true
  · exact belongs_of_read (read_normal t.separated settled reads)
  · rw [WireType.settled_iff, not_not] at settled
    subst settled
    rcases read_either_iff.mp reads with here | ⟨none, here⟩
    · rw [WireType.shape, Alias.shape, normal_first rfl here]
      exact .first (belongs_of_read (read_normal rfl rfl here))
    · rw [WireType.shape, Alias.shape, normal_second rfl none]
      exact .second (belongs_of_read (read_normal rfl rfl here))

/-- What was decoded can be decoded again once it is written, and gives the same value unless it is
a single result set that looks like several. -/
theorem decode_encoded (t : WireType) (d : Json) (v : Value) (finite : d.Finite)
    (decoded : decode t.shape d = .ok v) :
    (∃ w, decode t.shape (encodeAt v t.shape) = .ok w) ∧
      (decode t.shape (encodeAt v t.shape) = .ok v ↔
        ¬ (t = .alias .queryResponse ∧ LooksForEach v)) := by
  have reads := decode_eq_ok_iff.mp decoded
  rw [encode_read t.separated finite reads]
  simp only [decode_eq_ok_iff]
  refine ⟨read_of_belongs (belongs_normal t reads) t.separated, ?_⟩
  by_cases settled : t.shape.settled = true
  · have other := t.settled_iff.mp settled
    exact iff_of_true (read_normal t.separated settled reads) fun both => other both.1
  · rw [WireType.settled_iff, not_not] at settled
    subst settled
    rw [and_iff_right rfl]
    exact read_normal_queryResponse reads

/-- Rows that look like the result sets of several entries, next to aggregates. -/
def aggregatedAnswer : Json :=
  .obj [("rows", .arr [.obj [("query", .obj [("rows", .arr []), ("aggregates", .null)])]]),
    ("aggregates", .obj [("mean", .num 1.5), ("count", .int 1)])]

/-- One result set, with another one as the only column of its only row. -/
def aggregatedRow : Value :=
  .record .responseRow [("aggregates",
    .map [("mean", .json (.num 1.5)), ("count", .json (.int 1))]),
    ("rows",
      .list [.map [("query", .record .responseRow [("aggregates", .absent), ("rows", .list [])])]])]

theorem decode_encoded_aggregated :
    aggregatedAnswer.Finite ∧ decode Alias.queryResponse.shape aggregatedAnswer =
      .ok aggregatedRow ∧
      decode Alias.queryResponse.shape (encodeAt aggregatedRow Alias.queryResponse.shape) =
        .ok aggregatedRow := by
  have finite : aggregatedAnswer.Finite := by decide
  have decoded : decode Alias.queryResponse.shape aggregatedAnswer = .ok aggregatedRow := rfl
  have again :=
    (decode_encoded (.alias .queryResponse) aggregatedAnswer aggregatedRow finite decoded).2
  refine ⟨finite, decoded, again.mpr ?_⟩
  rintro ⟨_, _, looks, _⟩
  cases looks

/-- An empty result set whose aggregates are null becomes an empty list of result sets. -/
theorem decode_encoded_differs :
    ¬ ∀ (t : WireType) (d : Json) (v : Value), d.Finite → decode t.shape d = .ok v →
      decode t.shape (encodeAt v t.shape) = .ok v := by
  intro always
  have same := always (.alias .queryResponse) (.obj [("aggregates", .null), ("rows", .arr [])])
    (.record .responseRow [("aggregates", .absent), ("rows", .list [])]) (by decide) rfl
  have several : decode Alias.queryResponse.shape (.obj [("rows", .arr [])]) =
      .ok (.record .forEachResponse [("rows", .list [])]) := rfl
  cases several.symm.trans same

end AgentWire
