import AgentWire.Proofs.Language

/-! The issues of a document, listed from the declarations along shape and document. Decoding
reports exactly this list: reading names the variants it goes through and the walk along the
document takes their labels out again. -/
namespace AgentWire

def mismatched (expected : Expected) (d : Json) : List Issue :=
  [⟨[], .mismatch expected d.kind⟩]

def unrecognised (detail : Option Detail) : List Issue :=
  [⟨[], .unrecognised detail⟩]

mutual
/-- Every issue of a document at a shape, in order and with its path in the document. -/
def faults : Shape → Json → List Issue
  | .text, d => match d with
    | .str _ => []
    | _ => mismatched .string d
  | .flag, d => match d with
    | .bool _ => []
    | _ => mismatched .boolean d
  | .integer, d => match d with
    | .int _ => []
    | _ => mismatched .integer d
  | .natural, d => match d with
    | .int i => if 0 ≤ i ∧ i < naturalEnd then [] else mismatched .unsigned d
    | _ => mismatched .integer d
  | .json, _ => []
  | .names, d => match d with
    | .arr items =>
      itemFaults .text 0 items ++ if items.any (·.kind == .string) then []
        else mismatched .nonEmptyArray d
    | _ => mismatched .array d
  | .choice e, d => match d with
    | .str w => if w ∈ e.words then [] else unrecognised (some (.notAmong e.words))
    | _ => mismatched .string d
  | .operator _, d => match d with
    | .str _ => []
    | _ => mismatched .string d
  | .tag label, d => match d with
    | .str w => if w = label then [] else unrecognised (some (.notAmong [label]))
    | _ => mismatched .string d
  | .list item, d => match d with
    | .arr items => itemFaults item 0 items
    | _ => mismatched .array d
  | .map value, d => match d with
    | .obj members => members.flatMap fun m => (faults value m.2).map (Issue.under (.key m.1))
    | _ => mismatched .object d
  | .record r, d => match d with
    | .obj members => recordFaults r members
    | _ => mismatched .object d
  | .tagged variants, d => match d with
    | .obj members => match Json.lookup "type" members with
      | none => [⟨[.key "type"], .untagged⟩]
      | some (.str label) => match variantOf label variants with
        | some r => recordFaults r members
        | none => unrecognised (some (.unknownTag (.str label)))
      | some tag => unrecognised (some (.unknownTag tag))
    | _ => mismatched .object d
  | .either first second, d =>
    if (faults first d).isEmpty || (faults second d).isEmpty then [] else unrecognised none
termination_by s d => (sizeOf d, sizeOf s)
decreasing_by
  · decreasing_tactic
  · decreasing_tactic
  · exact .left _ _ (Json.sizeOf_member (d := .obj members) ‹m ∈ members›)
  all_goals decreasing_tactic

def itemFaults (item : Shape) (start : Nat) : List Json → List Issue
  | [] => []
  | x :: rest =>
    (faults item x).map (Issue.under (.index start)) ++ itemFaults item (start + 1) rest
termination_by items => (sizeOf items, sizeOf item)

/-- The declared fields in their order; then, where they are refused, the keys that are no field. -/
def recordFaults (r : Record) (members : List (String × Json)) : List Issue :=
  (r.fields.flatMap fun f => fieldFaults f members) ++
    if r.closed then
      (members.filter fun m => m.1 ∉ r.fields.map (·.name)).map fun m =>
        ⟨[.key m.1], .mismatch .noField m.2.kind⟩
    else []
termination_by (sizeOf members, 1)

def fieldFaults (f : Field) (members : List (String × Json)) : List Issue :=
  match _found : Json.lookup f.name members with
  | none => if f.need = .required then [⟨[.key f.name], .missing⟩] else []
  | some x => if f.skips x then [] else (faults f.shape x).map (Issue.under (.key f.name))
termination_by (sizeOf members, 0)
decreasing_by
  exact .left _ _ (Json.sizeOf_lookup ‹_›)
end

theorem fieldFaults_missing {f : Field} {members : List (String × Json)}
    (missing : Json.lookup f.name members = none) :
    fieldFaults f members = if f.need = .required then [⟨[.key f.name], .missing⟩] else [] := by
  rw [fieldFaults]
  split
  · rfl
  · rename_i x found
    rw [missing] at found
    cases found

theorem fieldFaults_found {f : Field} {members : List (String × Json)} {x : Json}
    (found : Json.lookup f.name members = some x) :
    fieldFaults f members = if f.skips x then []
      else (faults f.shape x).map (Issue.under (.key f.name)) := by
  rw [fieldFaults]
  split
  · rename_i missing
    rw [missing] at found
    cases found
  · rename_i y there
    rw [there] at found
    cases found
    rfl

/-! The walk of a location along the document. -/

namespace Path

theorem ofLocation_index {items : List Json} {n : Nat} {x : Json} (found : items[n]? = some x)
    (rest : List Step) :
    ofLocation (.arr items) (.index n :: rest) = .index n :: ofLocation x rest := by
  have inside : child (.arr items) (.index n) = some x := by simpa [child] using found
  cases rest with
  | nil => rfl
  | cons next more => simp only [ofLocation, isLabel, inside]; rfl

/-- A step that names a member leads to it, unless the `type` of the object has the same text. -/
theorem ofLocation_key {members : List (String × Json)} {key : String} {x : Json}
    (found : Json.lookup key members = some x) (free : Json.lookup "type" members ≠ some (.str key))
    (rest : List Step) :
    ofLocation (.obj members) (.key key :: rest) = .key key :: ofLocation x rest := by
  have inside : child (.obj members) (.key key) = some x := found
  have other : (((Json.lookup "type" members).getD .null).same (.str key)) = false := by
    cases tag : Json.lookup "type" members with
    | none => simp [Json.same]
    | some t =>
      cases t with
      | str s =>
        have different : s ≠ key := fun same => free (by rw [tag, same])
        simpa [Json.same] using different
      | _ => simp [Json.same, Json.quantity?]
  cases rest with
  | nil => rfl
  | cons next more => simp [ofLocation, isLabel, Step.toJson, other, inside]

/-- The label of a variant is dropped when it is no key of the object. -/
theorem ofLocation_label {members : List (String × Json)} {label : String}
    (tag : Json.lookup "type" members = some (.str label))
    (absent : Json.lookup label members = none) {rest : List Step} (more : rest ≠ []) :
    ofLocation (.obj members) (.key label :: rest) = ofLocation (.obj members) rest := by
  have nothing : child (.obj members) (.key label) = none := absent
  cases rest with
  | nil => contradiction
  | cons next others => simp [ofLocation, isLabel, Step.toJson, tag, Json.same, nothing]

end Path

theorem placed_under_index {items : List Json} {n : Nat} {x : Json}
    (found : items[n]? = some x) (i : Issue) :
    (i.under (.index n)).placed (.arr items) = (i.placed x).under (.index n) := by
  simp [Issue.placed, Issue.under, Path.ofLocation_index found]

theorem placed_under_free {members : List (String × Json)} {key : String} {x : Json}
    (free : Json.lookup "type" members ≠ some (.str key))
    (found : Json.lookup key members = some x) (i : Issue) :
    (i.under (.key key)).placed (.obj members) = (i.placed x).under (.key key) := by
  simp [Issue.placed, Issue.under, Path.ofLocation_key found free]

theorem placed_under_key {members : List (String × Json)} {key : String} {x : Json}
    (free : (Json.obj members).CollisionFree)
    (found : Json.lookup key members = some x) (i : Issue) :
    (i.under (.key key)).placed (.obj members) = (i.placed x).under (.key key) := by
  refine placed_under_free (fun tag => ?_) found i
  simp [free.label_absent tag] at found

theorem placed_under_label {members : List (String × Json)} {label : String}
    (free : (Json.obj members).CollisionFree) (tag : Json.lookup "type" members = some (.str label))
    {i : Issue} (inside : i.path ≠ []) :
    (i.under (.key label)).placed (.obj members) = i.placed (.obj members) := by
  simp [Issue.placed, Issue.under, Path.ofLocation_label tag (free.label_absent tag) inside]

/-! The issues of readings. -/

namespace Reading

/-- The issues of a reading; one that succeeds has none. -/
def issues {α : Type} : Except Issues α → List Issue
  | .ok _ => []
  | .error is => is.toList

theorem issues_eq_nil_iff {r : Reading} : issues r = [] ↔ ∃ v, r = .ok v := by
  cases r <;> simp [issues, Issues.toList]

theorem issues_under (s : Step) (r : Reading) :
    issues (r.under s) = (issues r).map (Issue.under s) := by
  cases r <;> rfl

theorem issues_map {α β : Type} (f : α → β) (r : Except Issues α) :
    issues (r.map f) = issues r := by
  cases r <;> rfl

theorem issues_collect (rs : List Reading) : issues (collect rs) = rs.flatMap issues := by
  induction rs with
  | nil => rfl
  | cons r rest ih =>
    rw [List.flatMap_cons, ← ih]
    cases r <;> cases later : collect rest <;>
      simp [collect, later, issues, Issues.append, Issues.toList]

theorem issues_readNames (d : Json) (rs : List Reading) : issues (readNames d rs) =
    rs.flatMap issues ++ if rs.any Except.isOk then [] else mismatched .nonEmptyArray d := by
  rw [← issues_collect]
  unfold readNames
  cases collected : collect rs with
  | error is =>
    by_cases any : rs.any Except.isOk = true
    · simp [any, issues]
    · simp [any, issues, Issues.append, Issues.toList, mismatched]
  | ok vs =>
    have all := collect_eq_ok_iff.mp collected
    cases all with
    | nil => rfl
    | cons here _ => simp [here, issues, Except.isOk, Except.toBool]

theorem issues_readRecord (r : Record) (members : List (String × Part)) :
    issues (readRecord r members) =
      (r.fields.flatMap fun f => issues (readField members f)) ++
        if r.closed then undeclared r members else [] := by
  have fields := issues_collect (r.fields.map (readField members))
  rw [List.flatMap_map] at fields
  rw [← fields]
  unfold readRecord
  cases collect (r.fields.map (readField members)) with
  | error is => simp [issues, Issues.append, Issues.toList]
  | ok vs =>
    cases (if r.closed = true then undeclared r members else []) <;> simp [issues, Issues.toList]

end Reading

/-! From labelled locations to paths. -/

section Placing

open Reading (issues issues_under issues_map issues_collect issues_readNames issues_readRecord)

/-- The issues of reading a document at a shape, with the paths they get. -/
def placedIssues (s : Shape) (d : Json) : List Issue :=
  (issues (readShape d s)).map (Issue.placed d)

/-- What placing has to do for the items from a position on. -/
theorem placed_items {item : Shape} {all : List Json}
    (each : ∀ x ∈ all, placedIssues item x = faults item x) (before rest : List Json)
    (split : all = before ++ rest) :
    ((readItemsFrom before.length item (itemParts rest)).flatMap issues).map
      (Issue.placed (.arr all)) =
      itemFaults item before.length rest := by
  induction rest generalizing before with
  | nil => simp [itemParts, readItemsFrom, itemFaults]
  | cons x rest ih =>
    have found : all[before.length]? = some x := by simp [split]
    -- Items are placed by their index in the whole array, so the induction carries what came
    -- before.
    have later := ih (before ++ [x]) (by simp [split])
    rw [List.length_append, List.length_singleton] at later
    have here := each x (by simp [split])
    simp only [itemParts, readItemsFrom, List.flatMap_cons, List.map_append, itemFaults, later,
      issues_under, List.map_map, ← here, placedIssues]
    congr 2
    funext i
    exact placed_under_index found i

/-- Of a field the reading and the list say the same, up to what they say of its value. -/
theorem field_cases (f : Field) (members : List (String × Json)) :
    (issues (readField (memberParts members) f) = fieldFaults f members ∧
      ∀ i ∈ fieldFaults f members, i = ⟨[.key f.name], .missing⟩) ∨
    ∃ x, Json.lookup f.name members = some x ∧
      issues (readField (memberParts members) f) =
        (issues (readShape x f.shape)).map (Issue.under (.key f.name)) ∧
      fieldFaults f members = (faults f.shape x).map (Issue.under (.key f.name)) := by
  cases found : Json.lookup f.name members with
  | none =>
    left
    rw [readField_none found, fieldFaults_missing found]
    cases f.need <;> simp [issues, Issues.toList]
  | some x =>
    rw [fieldFaults_found found]
    by_cases skipped : f.skips x
    · left
      rw [readField_skipped found skipped, if_pos skipped]
      exact ⟨rfl, fun i inside => absurd inside List.not_mem_nil⟩
    · exact .inr ⟨x, rfl, by rw [readField_given found skipped, issues_under], if_neg skipped⟩

theorem placed_field {f : Field} {members : List (String × Json)}
    (free : (Json.obj members).CollisionFree)
    (given : ∀ x, Json.lookup f.name members = some x → placedIssues f.shape x = faults f.shape x) :
    (issues (readField (memberParts members) f)).map (Issue.placed (.obj members)) =
      fieldFaults f members := by
  obtain ⟨same, missing⟩ | ⟨x, found, reads, listed⟩ := field_cases f members
  · rw [same]
    refine (List.map_congr_left fun i inside => ?_).trans (List.map_id _)
    rw [missing i inside]
    rfl
  · rw [reads, listed, ← given x found, placedIssues, List.map_map, List.map_map]
    congr 1
    funext i
    exact placed_under_key free found i

theorem placed_undeclared (r : Record) (members : List (String × Json)) :
    (undeclared r (memberParts members)).map (Issue.placed (.obj members)) =
      (members.filter fun m => m.1 ∉ r.fields.map (·.name)).map fun m =>
        ⟨[.key m.1], .mismatch .noField m.2.kind⟩ := by
  have names : ∀ key, (!r.fields.any (·.name = key)) = decide (key ∉ r.fields.map (·.name)) := by
    intro key
    rw [Bool.eq_iff_iff, Bool.not_eq_true', Bool.eq_false_iff, decide_eq_true_iff, ne_eq,
      List.any_eq_true, List.mem_map]
    simp only [decide_eq_true_eq]
  rw [undeclared, memberParts_eq, List.filter_map, List.map_map, List.map_map]
  simp only [Function.comp_def, names]
  rfl

/-- Below a record every issue is at least one step further in. -/
theorem path_ne_nil_of_record {r : Record} {members : List (String × Json)} {i : Issue}
    (member : i ∈ issues (readRecord r (memberParts members))) : i.path ≠ [] := by
  rw [issues_readRecord, List.mem_append, List.mem_flatMap] at member
  rcases member with ⟨f, _, here⟩ | extra
  · obtain ⟨same, missing⟩ | ⟨x, _, reads, _⟩ := field_cases f members
    · rw [missing i (same ▸ here)]
      exact List.cons_ne_nil _ _
    · rw [reads] at here
      obtain ⟨j, _, rfl⟩ := List.mem_map.mp here
      exact List.cons_ne_nil _ _
  · cases closed : r.closed with
    | false => simp [closed] at extra
    | true =>
      simp only [closed, if_true, undeclared] at extra
      obtain ⟨m, _, rfl⟩ := List.mem_map.mp extra
      simp

theorem placed_record {r : Record} {members : List (String × Json)}
    (free : (Json.obj members).CollisionFree)
    (each : ∀ f ∈ r.fields, ∀ x, Json.lookup f.name members = some x →
      placedIssues f.shape x = faults f.shape x) :
    placedIssues (.record r) (.obj members) = recordFaults r members := by
  rw [placedIssues, readShape_record, issues_readRecord, recordFaults, List.map_append,
    List.map_flatMap]
  congr 1
  · exact List.flatMap_congr fun f member => placed_field free (each f member)
  · cases r.closed
    · rfl
    · exact placed_undeclared r members

/-- The label of the variant is the only difference between a tagged object and a record. -/
theorem placed_tagged {variants : List Record} {members : List (String × Json)}
    (free : (Json.obj members).CollisionFree)
    (each : ∀ r ∈ variants, placedIssues (.record r) (.obj members) =
      faults (.record r) (.obj members)) :
    placedIssues (.tagged variants) (.obj members) = faults (.tagged variants) (.obj members) := by
  rw [placedIssues, readShape_tagged, faults]
  cases tag : Json.lookup "type" members with
  | none => rfl
  | some x =>
    cases x with
    | str label =>
      dsimp only
      cases found : variantOf label variants with
      | none => rfl
      | some r =>
        have record := each r (List.mem_of_find?_eq_some found)
        rw [faults, placedIssues, readShape_record] at record
        dsimp only
        -- Every issue of the record lies behind the label, where the walk notices and drops it.
        rw [issues_under, readShape_record, List.map_map, ← record]
        apply List.map_congr_left
        intro i member
        exact placed_under_label free tag (path_ne_nil_of_record member)
    | _ => rfl

/-! Readings that end at the document itself. -/

/-- Whether a shape has the parts of a document read. -/
def Shape.opens : Shape → Json → Bool
  | .names, d | .list _, d => d.kind == .array
  | .map _, d | .record _, d | .tagged _, d => d.kind == .object
  | .either _ _, _ => true
  | _, _ => false

/-- The document itself has no fault and is read, or has one fault, which is reported. -/
inductive EndsHere (s : Shape) (d : Json) : Prop
  | read {v : Value} (reads : readShape d s = .ok v) (sound : faults s d = [])
  | refused {c : Cause} (here : c.beyond = []) (reads : readShape d s = .fail c)
      (listed : faults s d = [⟨[], c⟩])

namespace EndsHere

variable {s : Shape} {d : Json}

theorem issues_eq (ends : EndsHere s d) : issues (readShape d s) = faults s d := by
  cases ends with
  | read reads sound =>
    rw [reads, sound]
    rfl
  | refused _ reads listed =>
    rw [reads, listed]
    rfl

theorem placed (ends : EndsHere s d) : placedIssues s d = faults s d := by
  rw [placedIssues, ends.issues_eq]
  cases ends with
  | read _ sound =>
    rw [sound]
    rfl
  | refused here _ listed =>
    rw [listed, List.map_singleton, Issue.placed, here]
    rfl

theorem of_mismatch {e : Expected} (reads : readShape d s = .mismatch e d)
    (listed : faults s d = mismatched e d) :
    EndsHere s d :=
  .refused rfl reads listed

theorem of_check {p : Prop} [Decidable p] {v : Value} {c : Cause} (here : c.beyond = [])
    (reads : readShape d s = if p then .ok v else .fail c)
    (listed : faults s d = if p then [] else [⟨[], c⟩]) :
    EndsHere s d := by
  by_cases holds : p
  · rw [if_pos holds] at reads listed
    exact .read reads listed
  · rw [if_neg holds] at reads listed
    exact .refused here reads listed

theorem of_unopened (ends : s.opens d = false) : EndsHere s d := by
  cases s with
  | json => exact .read read_json (by rw [faults])
  | text | operator =>
    cases d with
    | str => exact .read rfl (by rw [faults])
    | _ => exact of_mismatch rfl (by rw [faults.eq_def])
  | flag =>
    cases d with
    | bool => exact .read rfl (by rw [faults])
    | _ => exact of_mismatch rfl (by rw [faults.eq_def])
  | integer =>
    cases d with
    | int => exact .read rfl (by rw [faults])
    | _ => exact of_mismatch rfl (by rw [faults.eq_def])
  | natural =>
    cases d with
    | int => exact of_check rfl rfl (by rw [faults]; rfl)
    | _ => exact of_mismatch rfl (by rw [faults.eq_def])
  | choice | tag =>
    cases d with
    | str => exact of_check rfl rfl (by rw [faults]; rfl)
    | _ => exact of_mismatch rfl (by rw [faults.eq_def])
  | names | list =>
    cases d with
    | arr => cases ends
    | _ => exact of_mismatch rfl (by rw [faults.eq_def])
  | map | record | tagged =>
    cases d with
    | obj => cases ends
    | _ => exact of_mismatch rfl (by rw [faults.eq_def])
  | either => cases ends

/-- Of alternatives only whether one of them is read is reported. -/
theorem either {first second : Shape} (one : issues (readShape d first) = [] ↔ faults first d = [])
    (two : issues (readShape d second) = [] ↔ faults second d = []) :
    EndsHere (.either first second) d := by
  have reading := readShape_either d first second
  have listed : faults (.either first second) d =
      if faults first d = [] ∨ faults second d = [] then [] else
        unrecognised none := by
    simp [faults]
  simp only [← one, ← two] at listed
  cases first_read : readShape d first with
  | ok v =>
    rw [first_read] at reading listed
    exact .read reading (by simpa [issues] using listed)
  | error is =>
    cases second_read : readShape d second with
    | ok v =>
      rw [first_read, second_read] at reading
      rw [second_read] at listed
      exact .read reading (by simpa [issues] using listed)
    | error more =>
      rw [first_read, second_read] at reading listed
      exact .refused rfl reading (by simpa [issues, Issues.toList, unrecognised] using listed)

end EndsHere

theorem any_text (start : Nat) (items : List Json) :
    (readItemsFrom start .text (itemParts items)).any Except.isOk =
      items.any (·.kind == .string) := by
  induction items generalizing start with
  | nil => rfl
  | cons x rest ih =>
    rw [itemParts, readItemsFrom, List.any_cons, List.any_cons, ih]
    cases x <;> rfl

/-- Placing the issues of a reading gives the list of the declarations. -/
theorem placed_issues {s : Shape} {d : Json} (distinct : d.Distinct) (free : d.CollisionFree) :
    placedIssues s d = faults s d := by
  induction s, d using Shape.descend with
  | names d =>
    cases d with
    | arr items =>
      have each : ∀ x ∈ items, placedIssues .text x = faults .text x :=
        fun x _ => (EndsHere.of_unopened rfl).placed
      have items_placed := placed_items each [] items rfl
      rw [placedIssues, readShape_eq, faults]
      simp only [readWith, Json.items, issues_readNames, List.map_append, any_text]
      congr 1
      cases items.any (·.kind == .string) <;> rfl
    | _ => exact (EndsHere.of_unopened rfl).placed
  | list item d ih =>
    cases d with
    | arr items =>
      rw [faults, placedIssues, readShape_eq]
      simp only [readWith, issues_map, issues_collect, Json.items]
      have each : ∀ x ∈ items, placedIssues item x = faults item x := by
        intro x inside
        exact ih x inside (Json.everywhere_items distinct inside)
          (Json.everywhere_items free inside)
      exact placed_items each [] items rfl
    | _ => exact (EndsHere.of_unopened rfl).placed
  | map value d ih =>
    cases d with
    | obj members =>
      rw [faults, placedIssues, readShape_eq]
      simp only [readWith, issues_map, issues_collect, Json.members, memberParts_eq,
        List.flatMap_map, List.map_flatMap]
      refine List.flatMap_congr fun m inside => ?_
      have here :=
        ih m inside (Json.everywhere_members distinct inside) (Json.everywhere_members free inside)
      rw [issues_under, List.map_map, ← here, placedIssues, List.map_map]
      congr 1
      funext i
      exact placed_under_key free (Json.lookup_of_mem distinct.nodup inside) i
    | _ => exact (EndsHere.of_unopened rfl).placed
  | record r d ih =>
    cases d with
    | obj members =>
      rw [faults]
      apply placed_record free
      intro f member x found
      have inside := Json.mem_of_lookup found
      exact ih f member x found (Json.everywhere_members distinct inside)
        (Json.everywhere_members free inside)
    | _ => exact (EndsHere.of_unopened rfl).placed
  | tagged variants d ih =>
    cases d with
    | obj members => exact placed_tagged free fun r member => ih r member distinct free
    | _ => exact (EndsHere.of_unopened rfl).placed
  | either first second d first_ih second_ih =>
    refine (EndsHere.either ?_ ?_).placed
    · rw [← first_ih distinct free, placedIssues, List.map_eq_nil_iff]
    · rw [← second_ih distinct free, placedIssues, List.map_eq_nil_iff]
  | _ => exact (EndsHere.of_unopened rfl).placed

end Placing

/-- Decoding fails exactly when the declarations list an issue; then it reports this list, first the
first. -/
theorem decode_reports (t : WireType) (d : Json) (distinct : d.Distinct) (free : d.CollisionFree) :
    match faults t.shape d with
    | [] => ∃ v, decode t.shape d = .ok v
    | first :: more => decode t.shape d = .error (.invalid ⟨first, more⟩) := by
  rw [← placed_issues distinct free, placedIssues]
  unfold decode
  cases readShape d t.shape with
  | ok v => exact ⟨v, rfl⟩
  | error is => rfl

/-- An expression with faults at three depths: one part has an unknown variant, another has none. -/
def brokenExpression : Json :=
  .obj [("type", .str "and"), ("expressions", .arr [.obj [("type", .str "nope")],
    .obj [("type", .str "unary_op"), ("operator", .int 5)],
    .obj [("type", .str "not"), ("expression", .obj [])]])]

theorem decode_reports_expression :
    brokenExpression.Distinct ∧ brokenExpression.CollisionFree ∧
      decode Alias.expression.shape brokenExpression = .error (.invalid
        ⟨⟨[.key "expressions", .index 0], .unrecognised (some (.unknownTag (.str "nope")))⟩,
          [⟨[.key "expressions", .index 1, .key "column"], .missing⟩,
            ⟨[.key "expressions", .index 1, .key "operator"], .mismatch .string .integer⟩,
            ⟨[.key "expressions", .index 2, .key "expression", .key "type"], .untagged⟩]⟩) := by
  have distinct : brokenExpression.Distinct := by decide
  have free : brokenExpression.CollisionFree := by decide
  have listed : faults Alias.expression.shape brokenExpression =
      [⟨[.key "expressions", .index 0], .unrecognised (some (.unknownTag (.str "nope")))⟩,
        ⟨[.key "expressions", .index 1, .key "column"], .missing⟩,
        ⟨[.key "expressions", .index 1, .key "operator"], .mismatch .string .integer⟩,
        ⟨[.key "expressions", .index 2, .key "expression", .key "type"], .untagged⟩] := by
    cbv
  have reported := decode_reports (.alias .expression) brokenExpression distinct free
  rw [WireType.shape, listed] at reported
  exact ⟨distinct, free, reported⟩

end AgentWire
