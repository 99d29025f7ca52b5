import AgentWire.Proofs.RoundTrip

/-! Where a query's answer is ambiguous. A single result set that is written comes back as itself,
unless its rows hold result sets under `query` and nothing else: then the same sets come back as an
answer of several. -/
namespace AgentWire

open List (Forall₂)

/-- A row whose only column is a result set under `query`. -/
def queryRow (fields : List (String × Value)) : Value :=
  .map [("query", .record .responseRow fields)]

def forEachRow (fields : List (String × Value)) : Value :=
  .record .forEachRow [("query", .record .responseRow fields)]

/-- A single result set without aggregates, with a row for each of some result sets. -/
def singleAnswer (sets : List (List (String × Value))) : Value :=
  .record .responseRow [("aggregates", .absent), ("rows", .list (sets.map queryRow))]

def severalAnswer (sets : List (List (String × Value))) : Value :=
  .record .forEachResponse [("rows", .list (sets.map forEachRow))]

/-! The rows. -/

theorem isQueryRow_of_read {x : Json} {row : Value} (distinct : x.Distinct)
    (reads : readShape x (.map Alias.responseFieldValue.shape) = .ok row) (looks : IsQueryRow row) :
    ∃ fields, row = queryRow fields := by
  obtain ⟨members, columns, rfl, rfl, all⟩ := read_map_iff.mp reads
  obtain ⟨_, fields, same, only, found⟩ := looks
  cases same
  have names : (columns.map (·.1)).Nodup := by
    rw [map_eq_of_forall₂ all fun _ _ _ here => here.1]
    exact distinct.nodup
  have keyed : ∀ key ∈ columns.map (·.1), key = "query" := List.forall_mem_map.mpr only
  cases columns with
  | nil => cases found
  | cons column rest =>
    obtain ⟨key, v⟩ := column
    obtain rfl : key = "query" := keyed key List.mem_cons_self
    obtain rfl : v = .record .responseRow fields := Option.some.inj found
    cases rest with
    | nil => exact ⟨fields, rfl⟩
    | cons column rest =>
      have again := keyed column.1 (List.mem_cons_of_mem _ List.mem_cons_self)
      simp [again] at names

/-- Single answers are the result sets that look like several. -/
theorem looksForEach_iff {d : Json} {r : Value} (distinct : d.Distinct)
    (reads : readShape d (.record .responseRow) = .ok r) :
    LooksForEach r ↔ ∃ sets, r = singleAnswer sets := by
  constructor
  · rintro ⟨rows, rfl, each⟩
    obtain ⟨members, _, rfl, _⟩ := read_record_iff.mp reads
    obtain ⟨_, _, same, _, rows_read, _⟩ := read_responseRow_iff.mp reads
    cases same
    obtain ⟨x, found, inner⟩ := rows_read.exists_given rfl rfl
    obtain ⟨items, _, rfl, same, all⟩ := read_list_iff.mp inner
    cases same
    have items_distinct : ∀ y ∈ items, y.Distinct := by
      intro y inside
      exact Json.everywhere_items (Json.everywhere_members distinct
        (Json.mem_of_lookup found)) inside
    have sets : ∀ row ∈ rows, ∃ fields, row = queryRow fields := by
      intro row inside
      obtain ⟨y, member, here⟩ := forall₂_partner all.flip inside
      exact isQueryRow_of_read (items_distinct y member) here (each row inside)
    obtain ⟨sets, listed⟩ := exists_forall₂ sets
    refine ⟨sets, ?_⟩
    rw [singleAnswer, map_eq_of_forall₂ (g := queryRow) (h := id) listed
      fun _ _ _ same => same.symm, List.map_id]
  · rintro ⟨sets, rfl⟩
    refine ⟨_, rfl, fun row inside => ?_⟩
    obtain ⟨fields, _, rfl⟩ := List.mem_map.mp inside
    exact ⟨_, fields, rfl, by simp, rfl⟩

/-- A row that is read as one with a result set under `query` is read as an entry with the same
result set. -/
theorem read_forEachRow {x : Json} {fields : List (String × Value)} {entry : Value}
    (asRow : readShape x (.map Alias.responseFieldValue.shape) = .ok (queryRow fields))
    (asEntry : readShape x (.record .forEachRow) = .ok entry) : entry = forEachRow fields := by
  obtain ⟨members, columns, rfl, same, all⟩ := read_map_iff.mp asRow
  cases same
  obtain ⟨_, entries, same, rfl, fields_read, _⟩ := read_record_iff.mp asEntry
  cases same
  cases fields_read with
  | @cons _ e _ _ here none =>
    cases none
    obtain ⟨key, v⟩ := e
    obtain ⟨rfl, here⟩ := here
    have partner :=
      lookup_partner (R := fun x v => readShape x Alias.responseFieldValue.shape = .ok v)
        "query" all
    rw [show Value.lookup "query" [("query", .record .responseRow fields)] =
      some (.record .responseRow fields) from rfl]
      at partner
    cases found : Json.lookup "query" members with
    | none =>
      rw [found] at partner
      contradiction
    | some y =>
      rw [found] at partner
      cases partner with
      | some column =>
        have inner := here.read found (req_not_skips _ _ y)
        have first : readShape y Alias.responseFieldValue.shape = .ok _ :=
          read_either_iff.mpr (.inl inner)
        cases first.symm.trans column
        rfl

theorem forEachRows_of_rows {items : List Json} {sets : List (List (String × Value))}
    {entries : List Value}
    (rows : Forall₂ (fun x v => readShape x (.map Alias.responseFieldValue.shape) = .ok v) items
      (sets.map queryRow))
    (reads : Forall₂ (fun x v => readShape x (.record .forEachRow) = .ok v) items entries) :
    entries = sets.map forEachRow := by
  induction sets generalizing items entries with
  | nil =>
    cases rows
    cases reads
    rfl
  | cons fields rest ih =>
    cases rows with
    | cons row rows =>
      cases reads with
      | cons entry more => rw [read_forEachRow row entry, ih rows more, List.map_cons]

/-- A document that is read as a single answer is read as the answer of several with the same result
sets. -/
theorem read_severalAnswer {x : Json} {sets : List (List (String × Value))} {w : Value}
    (asSingle : readShape x (.record .responseRow) = .ok (singleAnswer sets))
    (asSeveral : readShape x (.record .forEachResponse) = .ok w) : w = severalAnswer sets := by
  obtain ⟨members, _, rfl, _⟩ := read_record_iff.mp asSingle
  obtain ⟨_, _, same, _, rows_read, _⟩ := read_responseRow_iff.mp asSingle
  cases same
  obtain ⟨y, found, inner⟩ := rows_read.exists_given rfl rfl
  obtain ⟨items, _, rfl, same, all⟩ := read_list_iff.mp inner
  cases same
  obtain ⟨_, entries, same, rfl, fields_read, _⟩ := read_record_iff.mp asSeveral
  cases same
  cases fields_read with
  | @cons _ e _ _ here none =>
    cases none
    obtain ⟨key, v⟩ := e
    obtain ⟨rfl, here⟩ := here
    obtain ⟨_, vs, same, rfl, others⟩ := read_list_iff.mp (here.read found (req_not_skips _ _ _))
    cases same
    rw [forEachRows_of_rows all others]
    rfl

/-! Both are written alike. -/

theorem encode_severalAnswer (sets : List (List (String × Value))) :
    (severalAnswer sets).encode = (singleAnswer sets).encode := by
  have entry : ∀ fields, (forEachRow fields).encode.withoutNonFinite =
      (queryRow fields).encode.withoutNonFinite := by
    intro fields
    exact withoutNonFinite_of_finite (withoutNonFinite_finite (queryRow fields).encode)
  have rows : ∀ f : List (String × Value) →
      Value, (Json.arr (Value.encodeItems (sets.map f))).withoutNonFinite =
        .arr (sets.map fun fields => (f fields).encode.withoutNonFinite) := by
    intro f
    rw [Json.withoutNonFinite, withoutNonFiniteItems_eq, encodeItems_eq, List.map_map, List.map_map]
    rfl
  show Json.obj [("rows", (Json.arr (Value.encodeItems (sets.map forEachRow))).withoutNonFinite)] =
    Json.obj [("rows", (Json.arr (Value.encodeItems (sets.map queryRow))).withoutNonFinite)]
  rw [rows, rows, List.map_congr_left fun fields _ => entry fields]

/-- A single result set comes back from its written form as it is, or, if it is a single answer, as
the answer of several with the same result sets. Either way it is written alike again, and an answer
of several always comes back. -/
theorem answer_reread (d : Json) (distinct : d.Distinct) (finite : d.Finite) :
    (∀ r, decode (.record .responseRow) d = .ok r →
      ((∀ sets, r ≠ singleAnswer sets) → decode Alias.queryResponse.shape r.encodeAlone = .ok r) ∧
      (∀ sets, r = singleAnswer sets →
        decode Alias.queryResponse.shape r.encodeAlone = .ok (severalAnswer sets)) ∧
      ∃ w, decode Alias.queryResponse.shape r.encodeAlone = .ok w ∧
        encodeAt w Alias.queryResponse.shape = r.encodeAlone) ∧
    ∀ f, decode (.record .forEachResponse) d = .ok f →
      decode Alias.queryResponse.shape f.encodeAlone = .ok f := by
  simp only [decode_eq_ok_iff]
  constructor
  · intro r reads
    obtain ⟨_, fields, _, same, _⟩ := read_record_iff.mp reads
    have alone : r.encodeAlone = r.encode := by rw [same]; rfl
    have written : r.encode = normal (.record .responseRow) d := by
      rw [encode_of_read rfl reads, encode_read rfl finite reads]
    have again := read_normal rfl rfl reads
    have overlaps := belongs_forEachResponse_normal reads
    rw [looksForEach_iff distinct reads] at overlaps
    rw [alone, written]
    -- The first variant takes the written form exactly if the result set is a single answer.
    have kept : (∀ sets, r ≠ singleAnswer sets) →
        readShape (normal (.record .responseRow) d) Alias.queryResponse.shape = .ok r := by
      intro other
      refine read_either_iff.mpr (.inr ⟨fun w first => ?_, again⟩)
      obtain ⟨sets, single⟩ := overlaps.mp (belongs_of_read first)
      exact other sets single
    have taken : ∀ sets, r = singleAnswer sets →
        readShape (normal (.record .responseRow) d) Alias.queryResponse.shape =
          .ok (severalAnswer sets) := by
      intro sets single
      obtain ⟨w, first⟩ := read_of_belongs (overlaps.mpr ⟨sets, single⟩) rfl
      rw [single] at again
      rw [read_severalAnswer again first] at first
      exact read_either_iff.mpr (.inl first)
    refine ⟨kept, taken, ?_⟩
    by_cases single : ∃ sets, r = singleAnswer sets
    · obtain ⟨sets, rfl⟩ := single
      refine ⟨_, taken sets rfl, ?_⟩
      rw [← encode_of_read rfl (taken sets rfl), encode_severalAnswer, written]
    · have other := not_exists.mp single
      refine ⟨r, kept other, ?_⟩
      rw [← encode_of_read rfl (kept other), written]
  · intro f reads
    obtain ⟨_, fields, _, same, _⟩ := read_record_iff.mp reads
    have alone : f.encodeAlone = f.encode := by rw [same]; rfl
    rw [alone, encode_of_read rfl reads, encode_read rfl finite reads]
    exact read_either_iff.mpr (.inl (read_normal rfl rfl reads))

/-- Two result sets, one of them with a row and the other with aggregates only. -/
def twoSets : List (List (String × Value)) :=
  [[("aggregates", .absent), ("rows", .list [.map [("total", .json (.num 1.5))]])],
    [("aggregates", .map [("count", .json .null)]), ("rows", .absent)]]

def nestedAnswer : Json :=
  .obj [("aggregates", .null),
    ("rows", .arr [.obj [("query", .obj [("rows", .arr [.obj [("total", .num 1.5)]])])],
      .obj [("query", .obj [("aggregates", .obj [("count", .null)])])]])]

theorem answer_reread_nested :
    nestedAnswer.Distinct ∧ nestedAnswer.Finite ∧
      decode (.record .responseRow) nestedAnswer = .ok (singleAnswer twoSets) ∧
      decode Alias.queryResponse.shape (singleAnswer twoSets).encodeAlone =
        .ok (severalAnswer twoSets) := by
  have distinct : nestedAnswer.Distinct := by decide
  have finite : nestedAnswer.Finite := by decide
  have decoded : decode (.record .responseRow) nestedAnswer = .ok (singleAnswer twoSets) := rfl
  have reread := (answer_reread nestedAnswer distinct finite).1 _ decoded
  exact ⟨distinct, finite, decoded, reread.2.1 twoSets rfl⟩

end AgentWire
