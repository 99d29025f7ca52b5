import AgentWire.Proofs.Yaml.Vertices

/-! The objects of the graph of a JSON value. Whatever waits for its parts gets them, and no key is
merged or met twice; so every vertex that is mentioned ends with the object of its value. -/
namespace AgentWire.Yaml

open AgentWire.Yaml.Graph (layout layoutOfItems layoutOfMembers itemVertices memberVertices
  vertex weight Stands)

namespace Objects

/-- The object of a vertex with the value that it stands for. -/
def object (j : Json) (v : Vertex) : Object :=
  match v.content with
  | .scalar _ => .scalar (Datum.ofJson j)
  | .sequence items => .list items
  | .mapping entries => .map entries

/-- The object as long as its parts are missing. -/
def hollow : Json → Object
  | .arr _ => .list []
  | .obj _ => .map []
  | j => .scalar (Datum.ofJson j)

/-- The vertices without an object, and the collections that wait for their parts. -/
def waiting (c : Objects) : Nat :=
  c.made.countP Option.isNone + c.queue.length

/-- The graph of the layout is being made into objects: what is mentioned has its object, but for
the collections whose parts are missing. Those wait, apart from the ones that get their parts just
now. -/
structure Sound (l : List (Json × Vertex)) (filling : List Nat) (c : Objects) : Prop where
  graph : c.graph = (l.map (·.2)).toArray
  size : c.made.size = l.length
  made : ∀ i o, c.object? i = some o → ∃ j, Stands l i j ∧
    (o = object j (vertex i j) ∨ (i ∈ filling ∨ i ∈ c.queue) ∧ o = hollow j)
  parts : ∀ i o, c.object? i = some o → ∀ k ∈ parts o, (c.object? k).isSome
  queue : ∀ i ∈ c.queue, (c.object? i).isSome ∧ ∃ j, Stands l i j ∧ Node.scalar? j = none

/-- Nothing made is lost, and no more is left to do. -/
structure Extends (c d : Objects) : Prop where
  made : ∀ i, (c.object? i).isSome → (d.object? i).isSome
  waiting : d.waiting ≤ c.waiting

theorem Extends.refl (c : Objects) : Extends c c :=
  ⟨fun _ made => made, Nat.le_refl _⟩

theorem Extends.trans {c d e : Objects} (first : Extends c d) (second : Extends d e) :
    Extends c e :=
  ⟨fun i made => second.made i (first.made i made), Nat.le_trans second.waiting first.waiting⟩

theorem object?_put (c : Objects) (i : Nat) (o : Object) (k : Nat) (inside : i < c.made.size) :
    (c.put i o).object? k = if k = i then some o else c.object? k := by
  unfold object? put
  rw [Array.getElem?_setIfInBounds]
  by_cases same : i = k
  · subst same
    simp [inside]
  · rw [if_neg same, if_neg (Ne.symm same)]

theorem inside_of_made {c : Objects} {i : Nat} (made : (c.object? i).isSome) : i < c.made.size := by
  by_contra outside
  simp [object?, Array.getElem?_eq_none (Nat.le_of_not_lt outside)] at made

theorem waiting_put (c : Objects) {i : Nat} (inside : i < c.made.size) (o : Object) :
    (c.put i o).waiting + (if (c.object? i).isSome then 0 else 1) = c.waiting := by
  have old : c.object? i = c.made[i] := by simp [object?, Array.getElem?_eq_getElem inside]
  have count := Array.countP_set (p := Option.isNone) (a := some o) inside
  have put_made : (c.put i o).made = c.made.set i (some o) inside := by
    simp [put, Array.setIfInBounds, inside]
  have put_queue : (c.put i o).queue = c.queue := rfl
  rw [waiting, waiting, put_made, put_queue, count, old]
  cases here : c.made[i] with
  | some o => simp
  | none =>
    have some : 0 < c.made.countP Option.isNone :=
      Array.countP_pos_iff.mpr ⟨_, Array.getElem_mem inside, by simp [here]⟩
    simp
    omega

section Making

variable {l : List (Json × Vertex)} {filling : List Nat} {c : Objects} {i : Nat} {j : Json}

/-- A vertex is mentioned for the first time. -/
theorem Sound.put_new (sound : Sound l filling c) (stands : Stands l i j) (new : c.object? i = none)
    (queue : List Nat) (grows : ∀ k, k ∈ queue ↔ k ∈ c.queue ∨ k = i ∧ Node.scalar? j = none) :
    Sound l filling { c.put i (hollow j) with queue } := by
  have inside : i < c.made.size := by
    have label := stands.label
    rw [sound.size]
    exact (List.getElem?_eq_some_iff.mp label).1
  have objects (k : Nat) : ({ c.put i (hollow j) with queue } : Objects).object? k =
      if k = i then some (hollow j) else c.object? k := object?_put c i _ k inside
  have kept (k : Nat) (old : (c.object? k).isSome) :
      (({ c.put i (hollow j) with queue } : Objects).object? k).isSome := by
    rw [objects]
    split
    · rfl
    · exact old
  refine ⟨sound.graph, ?_, fun k o made => ?_, fun k o made => ?_, fun k waits => ?_⟩
  · exact (Array.size_setIfInBounds ..).trans sound.size
  · rw [objects] at made
    split at made
    · rename_i same
      subst same
      cases made
      refine ⟨j, stands, ?_⟩
      cases scalar : Node.scalar? j with
      | none => exact .inr ⟨.inr ((grows k).mpr (.inr ⟨rfl, scalar⟩)), rfl⟩
      | some p =>
        refine .inl ?_
        cases j with
        | arr items => cases scalar
        | obj members => cases scalar
        | _ => rfl
    · obtain ⟨x, there, form⟩ := sound.made k o made
      refine ⟨x, there, form.imp_right fun ⟨waits, empty⟩ =>
        ⟨waits.imp_right fun queued => ?_, empty⟩⟩
      exact (grows k).mpr (.inl queued)
  · rw [objects] at made
    split at made
    · cases made
      cases j <;> simp [hollow, Objects.parts]
    · exact fun p part => kept p (sound.parts k o made p part)
  · rcases (grows k).mp waits with queued | ⟨rfl, collection⟩
    · exact ⟨kept k (sound.queue k queued).1, (sound.queue k queued).2⟩
    · refine ⟨?_, j, stands, collection⟩
      rw [objects, if_pos rfl]
      rfl

theorem Sound.vertex? (sound : Sound l filling c) (stands : Stands l i j) :
    c.graph[i]? = some (vertex i j) := by
  rw [sound.graph, List.getElem?_toArray, List.getElem?_map, stands.label]
  rfl

theorem scalar_datum (sound : Sound l filling c) (stands : Stands l i j) {t : Tag} {cs : List Char}
    (scalar : Node.scalar? j = some (t, cs)) :
    hollow? t = none ∧ scalarDatum c.graph i t = .ok (Datum.ofJson j) ∧
      hollow j = .scalar (Datum.ofJson j) := by
  have content : c.graph.content? i = some (.scalar (String.ofList cs)) := by
    rw [Graph.content?, sound.vertex? stands, Graph.vertex_scalar scalar]
    rfl
  have text : c.graph.scalarText (c.graph.size + 1) i = .ok (String.ofList cs) := by
    rw [Graph.scalarText, content]
  have kind : t ∈ [.null, .bool, .int, .float, .str] := by
    cases j with
    | arr items => cases scalar
    | obj members => cases scalar
    | _ => cases scalar; decide
  have plain : t ∈ [.null, .bool, .int, .float, .str, .binary, .timestamp] := by
    simp only [List.mem_cons] at kind ⊢
    tauto
  have datum := Node.scalar_datum scalar i
  refine ⟨?_, ?_, ?_⟩
  · simp only [List.mem_cons, List.not_mem_nil, or_false] at kind
    rcases kind with rfl | rfl | rfl | rfl | rfl <;> rfl
  · rw [scalarDatum, if_pos plain, text]
    dsimp only [bind, Except.bind]
    rw [content, ← datum]
    split
    · simp_all
    · rfl
  · cases j with
    | arr items => cases scalar
    | obj members => cases scalar
    | _ => rfl

/-- A vertex that is mentioned has an object, though its parts may be missing. -/
theorem Sound.mention (sound : Sound l filling c) (stands : Stands l i j) :
    ∃ d, c.mention i = .ok d ∧ Extends c d ∧ Sound l filling d ∧ (d.object? i).isSome := by
  have tag : c.graph.tag? i = some (vertex i j).tag := by
    rw [Graph.tag?, sound.vertex? stands]
    rfl
  cases old : c.object? i with
  | some o => exact ⟨c, by simp [Objects.mention, old], .refl c, sound, by simp [old]⟩
  | none =>
    have inside : i < c.made.size := by
      rw [sound.size]
      exact (List.getElem?_eq_some_iff.mp stands.label).1
    have left := waiting_put c inside (hollow j)
    simp only [old, Option.isSome_none, Bool.false_eq_true, if_false] at left
    have objects (k : Nat) := object?_put c i (hollow j) k inside
    have kept (k : Nat) (made : (c.object? k).isSome) :
        ((c.put i (hollow j)).object? k).isSome := by
      rw [objects]
      split
      · rfl
      · exact made
    have here : ((c.put i (hollow j)).object? i).isSome := by
      rw [objects, if_pos rfl]
      rfl
    cases scalar : Node.scalar? j with
    | some p =>
      obtain ⟨t, cs⟩ := p
      obtain ⟨solid, datum, form⟩ := scalar_datum sound stands scalar
      rw [Graph.vertex_scalar scalar] at tag
      refine ⟨c.put i (hollow j), ?_, ⟨kept, by omega⟩, sound.put_new stands old c.queue ?_, here⟩
      · simp [Objects.mention, old, tag, solid, datum, form, Except.map]
      · simp [scalar]
    | none =>
      have made : hollow? (vertex i j).tag = some (hollow j) := by
        cases j with
        | arr items => rfl
        | obj members => rfl
        | _ => cases scalar
      refine ⟨{ c.put i (hollow j) with queue := c.queue ++ [i] }, ?_, ⟨kept, ?_⟩,
        sound.put_new stands old _ ?_, here⟩
      · simp [Objects.mention, old, tag, made]
      · have queued : ({ c.put i (hollow j) with queue := c.queue ++ [i] } : Objects).waiting =
            (c.put i (hollow j)).waiting + 1 := by
          simp [waiting, put, Nat.add_assoc]
        omega
      · simp [scalar]

theorem Sound.mentionAll {items : List Json} (sound : Sound l filling c)
    (front : layoutOfItems i items <+: l.drop i) :
    ∃ d, c.mentionAll (itemVertices i items) = .ok d ∧ Extends c d ∧ Sound l filling d ∧
      ∀ k ∈ itemVertices i items, (d.object? k).isSome := by
  induction items generalizing c i with
  | nil => exact ⟨c, rfl, .refl c, sound, by simp [itemVertices]⟩
  | cons x rest ih =>
    obtain ⟨stands, behind⟩ := Graph.stands_item front
    obtain ⟨d, first, grown, sound, here⟩ := sound.mention stands
    obtain ⟨e, later, grown', sound, there⟩ := ih sound behind
    refine ⟨e, ?_, grown.trans grown', sound, List.forall_mem_cons.mpr ⟨grown'.made _ here, there⟩⟩
    simp only [itemVertices, Objects.mentionAll, first]
    exact later

/-- The datum of a key is its text. -/
theorem Sound.key (sound : Sound l filling c) {k : String} (stands : Stands l i (.str k))
    (made : (c.object? i).isSome) :
    c.key? i = some (.str k) := by
  obtain ⟨o, here⟩ := Option.isSome_iff_exists.mp made
  obtain ⟨x, there, form⟩ := sound.made i o here
  obtain rfl := stands.unique there
  have text : o = .scalar (.str k) := by
    rcases form with rfl | ⟨-, rfl⟩
    · rw [object, Graph.vertex_scalar (j := .str k) rfl]
      rfl
    · rfl
  rw [key?, here, text]

theorem Sound.mentionEntries {members : List (String × Json)} (sound : Sound l filling c)
    (front : layoutOfMembers i members <+: l.drop i) :
    ∃ d, c.mentionEntries (memberVertices i members) = .ok d ∧ Extends c d ∧ Sound l filling d ∧
      ∀ e ∈ memberVertices i members, (d.object? e.1).isSome ∧ (d.object? e.2).isSome := by
  induction members generalizing c i with
  | nil => exact ⟨c, rfl, .refl c, sound, by simp [memberVertices]⟩
  | cons m rest ih =>
    obtain ⟨k, x⟩ := m
    obtain ⟨key, value, behind⟩ := Graph.stands_member front
    obtain ⟨d, first, grown, sound, here⟩ := sound.mention key
    have name := sound.key key here
    obtain ⟨e, second, grown', sound, there⟩ := sound.mention value
    obtain ⟨f, later, grown'', sound, all⟩ := ih sound behind
    refine ⟨f, ?_, (grown.trans grown').trans grown'', sound, ?_⟩
    · simp only [memberVertices, Objects.mentionEntries, first]
      dsimp only [bind, Except.bind]
      rw [name]
      rw [second]
      exact later
    · exact List.forall_mem_cons.mpr ⟨⟨grown''.made _ (grown'.made _ here), grown''.made _ there⟩,
        all⟩

/-- No key is met again. -/
theorem insertEntry_new (done : List (Nat × Nat)) {k : String} (v : Nat)
    (name : c.key? i = some (.str k))
    (others : ∀ e ∈ done, ∃ s, s ≠ k ∧ c.key? e.1 = some (.str s)) :
    c.insertEntry i v done = done ++ [(i, v)] := by
  induction done with
  | nil => rfl
  | cons e rest ih =>
    rw [List.forall_mem_cons] at others
    obtain ⟨⟨s, apart, other⟩, others⟩ := others
    have different : c.sameKey i e.1 = false := by
      simp [sameKey, name, other, Datum.same, Ne.symm apart]
    simp [insertEntry, different, ih others]

theorem Sound.foldl_insertEntry {members : List (String × Json)} (sound : Sound l filling c)
    (front : layoutOfMembers i members <+: l.drop i)
    (made : ∀ e ∈ memberVertices i members, (c.object? e.1).isSome ∧ (c.object? e.2).isSome)
    (distinct : (members.map (·.1)).Nodup) (done : List (Nat × Nat))
    (others : ∀ e ∈ done, ∃ s, s ∉ members.map (·.1) ∧ c.key? e.1 = some (.str s)) :
    (memberVertices i members).foldl (fun done (k, v) => c.insertEntry k v done) done =
      done ++ memberVertices i members := by
  induction members generalizing i done with
  | nil => simp [memberVertices]
  | cons m rest ih =>
    obtain ⟨k, x⟩ := m
    rw [memberVertices, List.forall_mem_cons] at made
    rw [List.map_cons, List.nodup_cons] at distinct
    obtain ⟨key, -, behind⟩ := Graph.stands_member front
    have name := sound.key key made.1.1
    have new := insertEntry_new done (i + 1) name fun e inside => by
      obtain ⟨s, apart, other⟩ := others e inside
      exact ⟨s, fun same => apart (by simp [same]), other⟩
    have later := ih behind made.2 distinct.2 (done ++ [(i, i + 1)]) fun e inside => by
      rcases List.mem_append.mp inside with old | here
      · obtain ⟨s, apart, other⟩ := others e old
        exact ⟨s, fun later => apart (by simp only [List.map_cons]; exact .tail _ later), other⟩
      · obtain rfl := List.mem_singleton.mp here
        exact ⟨k, distinct.1, name⟩
    rw [memberVertices, List.foldl_cons]
    dsimp only
    rw [new, later, List.append_assoc, List.singleton_append]

/-- Keys that are texts give nothing to the mapping around them. -/
theorem merged_plain {g : Graph} (plain : ∀ e ∈ g.entries i, g.tag? e.1 = some .str) :
    g.merged i = .ok g := by
  have ordinary : (g.entries i).takeWhile (fun e => decide (g.tag? e.1 ≠ some .merge)) =
      g.entries i := by
    rw [List.takeWhile_eq_self_iff]
    intro e inside
    rw [plain e inside]
    rfl
  have named : ∀ es : List (Nat × Nat), (∀ e ∈ es, g.tag? e.1 = some .str) →
      es.foldl Graph.nameValueKey g = g := by
    intro es texts
    induction es with
    | nil => rfl
    | cons e rest ih =>
      rw [List.forall_mem_cons] at texts
      have same : g.nameValueKey e = g := by
        rw [Graph.nameValueKey, texts.1, if_neg (by decide)]
      rw [List.foldl_cons, same, ih texts.2]
  have nothing : Graph.mergeFrom (2 * g.mergeKeys + 1) g i 0 [] = .ok ([], g) := by
    rw [Graph.mergeFrom]
    dsimp only
    rw [List.drop_zero, ordinary, named _ plain, Nat.zero_add,
      List.getElem?_eq_none (Nat.le_refl _)]
    rfl
  rw [Graph.merged, Graph.flatten, nothing]
  rfl

theorem Sound.keys_plain {members : List (String × Json)} (sound : Sound l filling c)
    (front : layoutOfMembers i members <+: l.drop i) :
    ∀ e ∈ memberVertices i members, c.graph.tag? e.1 = some .str := by
  induction members generalizing i with
  | nil => simp [memberVertices]
  | cons m rest ih =>
    obtain ⟨key, -, behind⟩ := Graph.stands_member front
    refine List.forall_mem_cons.mpr ⟨?_, ih behind⟩
    rw [Graph.tag?, sound.vertex? key]
    rfl

/-- The entries of a mapping are mentioned, and none is lost. -/
theorem Sound.entriesOf {members : List (String × Json)} (sound : Sound l filling c)
    (stands : Stands l i (.obj members)) (distinct : (members.map (·.1)).Nodup) :
    ∃ d, c.entriesOf i = .ok (memberVertices (i + 1) members, d) ∧ Extends c d ∧ Sound l filling d ∧
      ∀ e ∈ memberVertices (i + 1) members, (d.object? e.1).isSome ∧ (d.object? e.2).isSome := by
  have content : c.graph.content? i = some (.mapping (memberVertices (i + 1) members)) := by
    rw [Graph.content?, sound.vertex? stands]
    rfl
  have entries : c.graph.entries i = memberVertices (i + 1) members := by
    rw [Graph.entries, content]
  have merged : c.graph.merged i = .ok c.graph :=
    merged_plain (by rw [entries]; exact sound.keys_plain stands.members)
  obtain ⟨d, mentioned, grown, sound', all⟩ := sound.mentionEntries stands.members
  have kept := sound'.foldl_insertEntry stands.members all distinct [] (by simp)
  refine ⟨d, ?_, grown, sound', all⟩
  rw [Objects.entriesOf, content]
  dsimp only
  rw [merged]
  dsimp only [bind, Except.bind]
  rw [entries, mentioned]
  dsimp only
  rw [Objects.distinct, kept]
  rfl

/-- Once a collection has its parts it is no longer among those that get theirs. -/
theorem Sound.put_filled (sound : Sound l [i] c) (stands : Stands l i j)
    (made : (c.object? i).isSome)
    (all : ∀ k ∈ Objects.parts (object j (vertex i j)), (c.object? k).isSome) :
    Extends c (c.put i (object j (vertex i j))) ∧ Sound l [] (c.put i (object j (vertex i j))) := by
  have inside := inside_of_made made
  have left := waiting_put c inside (object j (vertex i j))
  have objects (k : Nat) := object?_put c i (object j (vertex i j)) k inside
  have kept (k : Nat) (old : (c.object? k).isSome) :
      ((c.put i (object j (vertex i j))).object? k).isSome := by
    rw [objects]
    split
    · rfl
    · exact old
  simp only [made, if_true, Nat.add_zero] at left
  refine ⟨⟨kept, Nat.le_of_eq left⟩, sound.graph, ?_, fun k o made => ?_, fun k o made => ?_,
    fun k waits => ?_⟩
  · exact (Array.size_setIfInBounds ..).trans sound.size
  · rw [objects] at made
    split at made
    · rename_i same
      subst same
      cases made
      exact ⟨j, stands, .inl rfl⟩
    · rename_i other
      obtain ⟨x, there, form⟩ := sound.made k o made
      refine ⟨x, there, form.imp_right fun ⟨waits, empty⟩ => ⟨.inr ?_, empty⟩⟩
      exact waits.resolve_left fun here => other (List.mem_singleton.mp here)
  · rw [objects] at made
    split at made
    · cases made
      exact fun p part => kept p (all p part)
    · exact fun p part => kept p (sound.parts k o made p part)
  · exact ⟨kept k (sound.queue k waits).1, (sound.queue k waits).2⟩

/-- A collection whose turn comes gets its parts. -/
theorem Sound.fill (sound : Sound l [] c) (distinct : ∀ p ∈ l, p.1.Distinct) {rest : List Nat}
    (turn : c.queue = i :: rest) :
    ∃ d, Objects.fill { c with queue := rest } i = .ok d ∧ Sound l [] d ∧ d.waiting < c.waiting ∧
      ∀ k, (c.object? k).isSome → (d.object? k).isSome := by
  obtain ⟨made, j, stands, collection⟩ := sound.queue i (by simp [turn])
  have taken : Sound l [i] { c with queue := rest } := by
    refine ⟨sound.graph, sound.size, fun k o made => ?_, sound.parts, fun k waits => ?_⟩
    · obtain ⟨x, there, form⟩ := sound.made k o made
      refine ⟨x, there, form.imp_right fun ⟨waits, empty⟩ => ⟨?_, empty⟩⟩
      simpa [turn] using waits
    · exact sound.queue k (by simp [turn, waits])
  have left : ({ c with queue := rest } : Objects).waiting + 1 = c.waiting := by
    simp [waiting, turn, Nat.add_assoc]
  -- Getting parts ends the same for both kinds of collection.
  have ends {d : Objects} (grown : Extends { c with queue := rest } d) (sound' : Sound l [i] d)
      (all : ∀ k ∈ Objects.parts (object j (vertex i j)), (d.object? k).isSome) :
      Sound l [] (d.put i (object j (vertex i j))) ∧
        (d.put i (object j (vertex i j))).waiting < c.waiting ∧
        ∀ k, (c.object? k).isSome → ((d.put i (object j (vertex i j))).object? k).isSome := by
    obtain ⟨more, whole⟩ := sound'.put_filled stands (grown.made i made) all
    have fewer := (grown.trans more).waiting
    exact ⟨whole, by omega, (grown.trans more).made⟩
  obtain ⟨o, here⟩ := Option.isSome_iff_exists.mp made
  have here' : ({ c with queue := rest } : Objects).object? i = some o := here
  obtain ⟨x, there, form⟩ := sound.made i o here
  obtain rfl := stands.unique there
  cases j with
  | arr items =>
    obtain ⟨ks, rfl⟩ : ∃ ks, o = .list ks := by
      rcases form with rfl | ⟨-, rfl⟩ <;> exact ⟨_, rfl⟩
    have content : ({ c with queue := rest } : Objects).graph.content? i =
      some (.sequence (itemVertices (i + 1) items)) := by
      rw [Graph.content?, taken.vertex? stands]
      rfl
    obtain ⟨d, mentioned, grown, sound', all⟩ := taken.mentionAll stands.items
    refine ⟨_, ?_, ends grown sound' all⟩
    rw [Objects.fill, here', content]
    dsimp only
    rw [mentioned]
    rfl
  | obj members =>
    obtain ⟨es, rfl⟩ : ∃ es, o = .map es := by
      rcases form with rfl | ⟨-, rfl⟩ <;> exact ⟨_, rfl⟩
    have keys : (members.map (·.1)).Nodup :=
      Json.Distinct.nodup (distinct _ (List.mem_of_getElem? stands.label))
    obtain ⟨d, mentioned, grown, sound', all⟩ := taken.entriesOf stands keys
    refine ⟨_, ?_, ends grown sound' fun k part => ?_⟩
    · rw [Objects.fill, here']
      dsimp only
      rw [mentioned]
      rfl
    · obtain ⟨e, inside, one⟩ := List.mem_flatMap.mp part
      rcases List.mem_cons.mp one with rfl | value
      · exact (all e inside).1
      · obtain rfl := List.mem_singleton.mp value
        exact (all e inside).2
  | null => cases collection
  | bool b => cases collection
  | int n => cases collection
  | num x => cases collection
  | str s => cases collection

/-- What waits gets its parts before the steps run out. -/
theorem Sound.fillAll (sound : Sound l [] c) (distinct : ∀ p ∈ l, p.1.Distinct) (fuel : Nat)
    (enough : c.waiting ≤ fuel) :
    ∃ d, Objects.fillAll fuel c = .ok d ∧ Sound l [] d ∧ d.queue = [] ∧
      ∀ k, (c.object? k).isSome → (d.object? k).isSome := by
  induction fuel generalizing c with
  | zero =>
    have none : c.queue = [] := List.length_eq_zero_iff.mp (by simp only [waiting] at enough; omega)
    exact ⟨c, rfl, sound, none, fun _ made => made⟩
  | succ fuel ih =>
    cases turn : c.queue with
    | nil => exact ⟨c, by rw [Objects.fillAll, turn], sound, turn, fun _ made => made⟩
    | cons i rest =>
      obtain ⟨d, filled, sound', fewer, kept⟩ := sound.fill distinct turn
      obtain ⟨e, later, sound'', none, kept'⟩ := ih sound' (by omega)
      refine ⟨e, ?_, sound'', none, fun k made => kept' k (kept k made)⟩
      rw [Objects.fillAll, turn]
      dsimp only [bind, Except.bind]
      rw [filled]
      exact later

end Making

/-- The objects of a layout are made: each vertex that is mentioned has the object of its value. -/
structure Complete (l : List (Json × Vertex)) (c : Objects) : Prop where
  size : c.made.size = l.length
  made : ∀ i o, c.object? i = some o → ∃ j, Stands l i j ∧ o = object j (vertex i j)
  parts : ∀ i o, c.object? i = some o → ∀ k ∈ parts o, (c.object? k).isSome

theorem ofGraph_ofJson {j : Json} (distinct : j.Distinct) :
    ∃ c, ofGraph (.ofNode (Node.ofJson j)) = .ok c ∧ Complete (layout 0 j) c ∧
      (c.object? 0).isSome := by
  rw [Graph.ofNode_ofJson]
  have nothing (i : Nat) : (start ((layout 0 j).map (·.2)).toArray).object? i = none := by
    simp only [object?, start, Array.getElem?_replicate]
    split <;> rfl
  have sound : Sound (layout 0 j) [] (start ((layout 0 j).map (·.2)).toArray) := by
    refine ⟨rfl, by simp [start], fun i o made => ?_, fun i o made => ?_,
      fun i waits => by cases waits⟩
    · rw [nothing] at made
      cases made
    · rw [nothing] at made
      cases made
  have left : (start ((layout 0 j).map (·.2)).toArray).waiting ≤
      (((layout 0 j).map (·.2)).toArray).size := by
    simp only [waiting, start, List.length_nil, Nat.add_zero]
    exact Array.countP_le_size.trans (by simp)
  obtain ⟨c, mentioned, grown, sound, here⟩ := sound.mention (Graph.stands_root j)
  obtain ⟨d, filled, sound, none, kept⟩ :=
    sound.fillAll (Graph.layout_distinct distinct 0) _ (Nat.le_trans grown.waiting left)
  refine ⟨d, ?_, ⟨sound.size, fun i o made => ?_, sound.parts⟩, kept 0 here⟩
  · rw [ofGraph, mentioned]
    exact filled
  · obtain ⟨x, there, form⟩ := sound.made i o made
    refine ⟨x, there, form.resolve_right ?_⟩
    rintro ⟨waits, -⟩
    simp [none] at waits

end Objects

end AgentWire.Yaml
