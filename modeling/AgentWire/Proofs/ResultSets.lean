import AgentWire.Proofs.Language

/-! Where the two forms of a query's answer overlap. A single result set is also an answer of
several ones exactly when it has no aggregates and each of its rows holds a result set under `query`
and nothing else. -/
namespace AgentWire

open List (Forall₂)

/-- A row with a result set under `query` and no other column. -/
def IsQueryRow (row : Value) : Prop :=
  ∃ columns fields, row = .map columns ∧ (∀ c ∈ columns, c.1 = "query") ∧
    Value.lookup "query" columns = some (.record .responseRow fields)

/-- A single result set that is written as several are. -/
def LooksForEach (v : Value) : Prop :=
  ∃ rows, v = .record .responseRow [("aggregates", .absent), ("rows", .list rows)] ∧
    ∀ row ∈ rows, IsQueryRow row

/-- Members and entries of the same names have partners under every key. -/
theorem lookup_partner {R : Json → Value → Prop} {members : List (String × Json)}
    {entries : List (String × Value)} (key : String)
    (all : Forall₂ (fun m e => e.1 = m.1 ∧ R m.2 e.2) members entries) :
    Option.Rel R (Json.lookup key members) (Value.lookup key entries) := by
  induction all with
  | nil => exact .none
  | @cons m e members entries here _ ih =>
    obtain ⟨k, x⟩ := m
    obtain ⟨l, v⟩ := e
    obtain ⟨name, related⟩ := here
    dsimp only at name related
    subst name
    by_cases same : l = key
    · simp only [Json.lookup, Value.lookup, if_pos same]
      exact .some related
    · simpa only [Json.lookup, Value.lookup, if_neg same] using ih

/-- A column that is a result set is always taken for one. -/
theorem belongs_responseRow_iff {x : Json} {v : Value}
    (reads : readShape x Alias.responseFieldValue.shape = .ok v) :
    Belongs (.record .responseRow) x ↔ ∃ fields, v = .record .responseRow fields := by
  rcases read_either_iff.mp reads with here | ⟨none, here⟩
  · obtain ⟨members, entries, _, same, _⟩ := read_record_iff.mp here
    exact iff_of_true (belongs_of_read here) ⟨entries, same⟩
  · refine iff_of_false (fun belongs => ?_) ?_
    · obtain ⟨w, other⟩ := read_of_belongs belongs rfl
      exact none w other
    · rintro ⟨fields, rfl⟩
      cases read_json.symm.trans here

/-- What belongs to a record of one required field that refuses all other keys. -/
theorem belongs_single_iff {r : Record} {name : String} {shape : Shape}
    {members : List (String × Json)} (fields : r.fields = [req name shape])
    (closed : r.closed = true) :
    Belongs (.record r) (.obj members) ↔
      (∃ x, Json.lookup name members = some x ∧ Belongs shape x) ∧ ∀ m ∈ members, m.1 = name := by
  constructor
  · intro belongs
    cases belongs with
    | record required given declared =>
      have member : req name shape ∈ r.fields := fields ▸ List.mem_singleton_self _
      have only : ∀ m ∈ members, m.1 = name := by
        intro m inside
        have known := declared closed m inside
        rw [fields] at known
        exact List.mem_singleton.mp known
      cases found : Json.lookup name members with
      | none => exact absurd (required _ member rfl) (Json.lookup_eq_none_iff.mp found)
      | some x => exact ⟨⟨x, rfl, given _ member x found (req_not_skips _ _ x)⟩, only⟩
  · rintro ⟨⟨x, found, fits⟩, only⟩
    refine .record (fun f member _ => ?_) (fun f member y there _ => ?_) fun _ m member => ?_
    · rw [fields] at member
      cases List.mem_singleton.mp member
      exact List.mem_map_of_mem (Json.mem_of_lookup found)
    · rw [fields] at member
      cases List.mem_singleton.mp member
      cases found.symm.trans there
      exact fits
    · rw [fields]
      exact List.mem_singleton.mpr (only m member)

theorem belongs_forEachRow_iff {x : Json} {row : Value}
    (reads : readShape x (.map Alias.responseFieldValue.shape) = .ok row) :
    Belongs (.record .forEachRow) x ↔ IsQueryRow row := by
  obtain ⟨members, columns, rfl, rfl, all⟩ := read_map_iff.mp reads
  have names : columns.map (·.1) = members.map (·.1) :=
    map_eq_of_forall₂ all fun _ _ _ here => here.1
  have partner : Option.Rel (fun x v => readShape x Alias.responseFieldValue.shape = .ok v)
      (Json.lookup "query" members) (Value.lookup "query" columns) := lookup_partner "query" all
  have only_query : (∀ k ∈ members.map (·.1), k = "query") ↔
      ∀ k ∈ columns.map (·.1), k = "query" := by
    rw [names]
  rw [List.forall_mem_map, List.forall_mem_map] at only_query
  rw [belongs_single_iff rfl rfl]
  constructor
  · rintro ⟨⟨x, found, fits⟩, only⟩
    rw [found] at partner
    cases column : Value.lookup "query" columns with
    | none =>
      rw [column] at partner
      contradiction
    | some v =>
      rw [column] at partner
      cases partner with
      | some related =>
        obtain ⟨fields, rfl⟩ := (belongs_responseRow_iff related).mp fits
        exact ⟨columns, fields, rfl, only_query.mp only, column⟩
  · rintro ⟨_, fields, same, only, column⟩
    cases same
    rw [column] at partner
    cases found : Json.lookup "query" members with
    | none =>
      rw [found] at partner
      contradiction
    | some x =>
      rw [found] at partner
      cases partner with
      | some related =>
        have fits := (belongs_responseRow_iff related).mpr ⟨fields, rfl⟩
        exact ⟨⟨x, rfl, fits⟩, only_query.mpr only⟩

theorem read_responseRow_iff {members : List (String × Json)} {v : Value} :
    readShape (.obj members) (.record .responseRow) = .ok v ↔
      ∃ aggregates rows, v = .record .responseRow [("aggregates", aggregates), ("rows", rows)] ∧
        FieldReads members (opt "aggregates" (.map .json)) aggregates ∧
        FieldReads members (opt "rows" (.list (.map Alias.responseFieldValue.shape))) rows ∧
        ∀ m ∈ members, m.1 ∈ ["aggregates", "rows"] := by
  rw [read_record_iff]
  constructor
  · rintro ⟨_, entries, same, rfl, all, declared⟩
    cases same
    cases all with
    | @cons _ aggregates _ _ aggregates_read more =>
      cases more with
      | @cons _ rows _ _ rows_read none =>
        cases none
        obtain ⟨_, aggregates⟩ := aggregates
        obtain ⟨_, rows⟩ := rows
        obtain ⟨rfl, aggregates_read⟩ := aggregates_read
        obtain ⟨rfl, rows_read⟩ := rows_read
        exact ⟨aggregates, rows, rfl, aggregates_read, rows_read, declared rfl⟩
  · rintro ⟨aggregates, rows, rfl, aggregates_read, rows_read, declared⟩
    exact ⟨members, _, rfl, rfl, .cons ⟨rfl, aggregates_read⟩ (.cons ⟨rfl, rows_read⟩ .nil),
      fun _ => declared⟩

/-- A document that is read as a single result set is an answer of several exactly if its value
looks so and it does not name its aggregates, not even as null. -/
theorem belongs_forEachResponse_iff {members : List (String × Json)} {v : Value}
    (reads : readShape (.obj members) (.record .responseRow) = .ok v) :
    Belongs (.record .forEachResponse) (.obj members) ↔
      LooksForEach v ∧ "aggregates" ∉ members.map (·.1) := by
  obtain ⟨aggregates, rows, rfl, aggregates_read, rows_read, known⟩ := read_responseRow_iff.mp reads
  rw [belongs_single_iff rfl rfl]
  constructor
  · rintro ⟨⟨x, found, fits⟩, only⟩
    have absent : "aggregates" ∉ members.map (·.1) := by
      intro named
      obtain ⟨m, member, name⟩ := List.mem_map.mp named
      exact absurd (name.symm.trans (only m member)) (by decide)
    cases fits with
    | @list _ items each =>
      have kept : ¬ (opt "rows" (.list (.map Alias.responseFieldValue.shape))).skips
          (.arr items) := by
        rintro ⟨_, null⟩
        cases null
      obtain ⟨_, vs, same, rfl, all⟩ := read_list_iff.mp (rows_read.read found kept)
      cases same
      have none := aggregates_read.eq_absent rfl (Json.lookup_eq_none_iff.mpr absent)
      refine ⟨⟨vs, by rw [none], fun row member => ?_⟩, absent⟩
      obtain ⟨y, inside, here⟩ := forall₂_partner all.flip member
      exact (belongs_forEachRow_iff here).mp (each y inside)
  · rintro ⟨⟨vs, same, each⟩, absent⟩
    cases same
    obtain ⟨x, found, inner⟩ := rows_read.exists_given rfl rfl
    obtain ⟨items, _, rfl, same, all⟩ := read_list_iff.mp inner
    cases same
    refine ⟨⟨.arr items, found, .list fun y inside => ?_⟩, fun m member => ?_⟩
    · obtain ⟨row, listed, here⟩ := forall₂_partner all inside
      exact (belongs_forEachRow_iff here).mpr (each row listed)
    · rcases List.mem_cons.mp (known m member) with name | name
      · exact absurd (name ▸ List.mem_map_of_mem member) absent
      · exact List.mem_singleton.mp name

end AgentWire
