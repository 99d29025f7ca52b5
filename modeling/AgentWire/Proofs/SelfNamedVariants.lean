import AgentWire.Proofs.Discriminants

/-! Variants with a field that has the name of their label. Whether a step of a location is the
label or the field is guessed from the step behind it. The guess is wrong for fields that are
missing beside a value with something inside, and for issues inside the field that begin with a step
that leads on from the object as well. -/
namespace AgentWire

open Reading (issues issues_under issues_map issues_collect issues_readRecord)

/-! Fields that are named as their variants. -/

/-- A variant declares a field with the name of its label. -/
structure SelfNamed (r : Record) (f : Field) (label : String) : Prop where
  named : r.label? = some label
  declared : f ∈ r.fields
  same : f.name = label

def selfNamedShapes : List Shape :=
  [.text, .names, Alias.columnSelector.shape, .record .comparisonColumn]

theorem SelfNamed.open_ {r : Record} {f : Field} {label : String} (own : SelfNamed r f label) :
    r.closed = false := by
  have none : r.closed = true → r.label? = none := by cases r <;> decide
  cases open_ : r.closed with
  | false => rfl
  | true =>
    have named := own.named
    rw [none open_] at named
    cases named

theorem SelfNamed.field {r : Record} {f : Field} {label : String} (own : SelfNamed r f label) :
    f.need = .required ∧ f.shape ∈ selfNamedShapes ∧ label ≠ "path" := by
  have all : r.fields.all (fun f => decide (r.label? = some f.name →
      f.need = .required ∧ f.shape ∈ selfNamedShapes ∧ f.name ≠ "path")) = true := by
    cases r <;> decide
  rw [← own.same]
  exact of_decide_eq_true (List.all_eq_true.mp all f own.declared) (own.same ▸ own.named)

theorem mem_comparisonColumn {f : Field} (declared : f ∈ Record.comparisonColumn.fields) :
    f = req "column_type" .text ∨ f = req "name" Alias.columnSelector.shape ∨
      f = opt "path" (.list .text) := by
  have listed : f ∈ [req "column_type" .text, req "name" Alias.columnSelector.shape,
      opt "path" (.list .text)] :=
    declared
  simpa using listed

theorem plain_selfNamed {s : Shape} (listed : s ∈ selfNamedShapes) : s.Plain := by
  have selector : Alias.columnSelector.shape.Plain :=
    Shape.plain_either (Shape.plain_list Shape.plain_text) Shape.plain_text
  simp only [selfNamedShapes, List.mem_cons, List.not_mem_nil, or_false] at listed
  rcases listed with rfl | rfl | rfl | rfl
  · exact Shape.plain_text
  · exact Shape.plain_names
  · exact selector
  · refine Shape.plain_record rfl fun f declared => ?_
    rcases mem_comparisonColumn declared with rfl | rfl | rfl
    · exact Shape.plain_text
    · exact selector
    · exact Shape.plain_list Shape.plain_text

/-- An issue that lies at a value, one step inside, or at an item under the key `path`. -/
inductive Shallow (d : Json) : Issue → Prop
  | here {c : Cause} (all : c.beyond = []) : Shallow d ⟨[], c⟩
  | step {c : Cause} (s : Step) (container : Path.isContainer d = true) (all : c.beyond = []) :
      Shallow d ⟨[s], c⟩
  | item {c : Cause} {members : List (String × Json)} {items : List Json} (n : Nat)
      (object : d = .obj members) (array : Json.lookup "path" members = some (.arr items))
      (all : c.beyond = []) :
      Shallow d ⟨[.key "path", .index n], c⟩

theorem faults_text {d : Json} {i : Issue} (member : i ∈ faults .text d) :
    i.path = [] ∧ i.cause.beyond = [] := by
  rw [faults.eq_def] at member
  cases d with
  | str s => cases member
  | _ =>
    rw [List.mem_singleton.mp member]
    exact ⟨rfl, rfl⟩

theorem itemFaults_text {start : Nat} {items : List Json} {i : Issue}
    (member : i ∈ itemFaults .text start items) :
    ∃ n c, i = ⟨[.index ((n : Nat) : Int)], c⟩ ∧ c.beyond = [] := by
  induction items generalizing start with
  | nil =>
    rw [itemFaults] at member
    cases member
  | cons x rest ih =>
    rw [itemFaults, List.mem_append] at member
    rcases member with first | later
    · obtain ⟨⟨path, c⟩, inside, rfl⟩ := List.mem_map.mp first
      obtain ⟨rfl, all⟩ := faults_text inside
      exact ⟨start, c, rfl, all⟩
    · exact ih later

theorem shallow_of_here {d : Json} {i : Issue} (here : i.path = [] ∧ i.cause.beyond = []) :
    Shallow d i := by
  obtain ⟨path, c⟩ := i
  obtain ⟨rfl, all⟩ := here
  exact .here all

theorem faults_list_text {d : Json} {i : Issue} (member : i ∈ faults (.list .text) d) :
    i.path = [] ∧ i.cause.beyond = [] ∨
      ∃ items n c, d = .arr items ∧ i = ⟨[.index ((n : Nat) : Int)], c⟩ ∧ c.beyond = [] := by
  cases d with
  | arr items =>
    rw [faults] at member
    obtain ⟨n, c, same, all⟩ := itemFaults_text member
    exact .inr ⟨items, n, c, rfl, same, all⟩
  | _ =>
    rw [faults.eq_def] at member
    rw [List.mem_singleton.mp member]
    exact .inl ⟨rfl, rfl⟩

theorem faults_selector {d : Json} {i : Issue} (member : i ∈ faults Alias.columnSelector.shape d) :
    i.path = [] ∧ i.cause.beyond = [] := by
  rw [show Alias.columnSelector.shape = .either (.list .text) .text from rfl, faults] at member
  split at member
  · cases member
  · rw [List.mem_singleton.mp member]
    exact ⟨rfl, rfl⟩

theorem mem_fieldFaults {f : Field} {members : List (String × Json)} {i : Issue}
    (member : i ∈ fieldFaults f members) :
    i = ⟨[.key f.name], .missing⟩ ∨
      ∃ x j, Json.lookup f.name members = some x ∧ j ∈ faults f.shape x ∧
        i = j.under (.key f.name) := by
  obtain ⟨-, missing⟩ | ⟨x, found, -, listed⟩ := field_cases f members
  · exact .inl (missing i member)
  · rw [listed] at member
    obtain ⟨j, inside, rfl⟩ := List.mem_map.mp member
    exact .inr ⟨x, j, found, inside, rfl⟩

theorem shallow_comparisonColumn {d : Json} {i : Issue}
    (member : i ∈ faults (.record .comparisonColumn) d) :
    Shallow d i := by
  cases d with
  | obj members =>
    have one : ∀ {key : String} {j : Issue}, j.path = [] ∧ j.cause.beyond = [] →
        Shallow (.obj members) (j.under (.key key)) := by
      rintro key ⟨path, c⟩ ⟨rfl, all⟩
      exact .step _ rfl all
    rw [faults, recordFaults, show Record.comparisonColumn.closed = false from rfl,
      if_neg Bool.false_ne_true, List.append_nil, List.mem_flatMap] at member
    obtain ⟨f, declared, inside⟩ := member
    rcases mem_fieldFaults inside with rfl | ⟨x, j, found, below, rfl⟩
    · exact .step _ rfl rfl
    rcases mem_comparisonColumn declared with rfl | rfl | rfl
    · exact one (faults_text below)
    · exact one (faults_selector below)
    · rcases faults_list_text below with here | ⟨items, n, c, rfl, rfl, all⟩
      · exact one here
      · exact .item n rfl found all
  | _ =>
    rw [faults.eq_def] at member
    rw [List.mem_singleton.mp member]
    exact .here rfl

theorem shallow_selfNamed {s : Shape} (listed : s ∈ selfNamedShapes) {d : Json} {i : Issue}
    (member : i ∈ faults s d) :
    Shallow d i := by
  simp only [selfNamedShapes, List.mem_cons, List.not_mem_nil, or_false] at listed
  rcases listed with rfl | rfl | rfl | rfl
  · exact shallow_of_here (faults_text member)
  · cases d with
    | arr items =>
      rw [faults, List.mem_append] at member
      rcases member with inside | empty
      · obtain ⟨n, c, rfl, all⟩ := itemFaults_text inside
        exact .step _ rfl all
      · split at empty
        · cases empty
        · rw [List.mem_singleton.mp empty]
          exact .here rfl
    | _ =>
      rw [faults.eq_def] at member
      rw [List.mem_singleton.mp member]
      exact .here rfl
  · exact shallow_of_here (faults_selector member)
  · exact shallow_comparisonColumn member

/-! An object whose label is one of its keys. -/

/-- An issue that lies at a step inside which leads on from an object as well. -/
def leadsOn (members : List (String × Json)) (i : Issue) : Bool :=
  match i.path with
  | [] => false
  | s :: _ => (Path.child (.obj members) s).isSome

/-- What is reported of a field of an object with a value under its label. A missing field is taken
to be missing in that value if anything can be inside, and an issue in that value loses the step to
it if it leads on from the object. -/
def guessed (members : List (String × Json)) (label : String) (value : Json) (f : Field) :
    List Issue :=
  if f.name = label then (faults f.shape value).map fun i =>
    if leadsOn members i then i else i.under (.key label)
  else match Json.lookup f.name members with
    | none =>
      if f.need = .required then
        [⟨if Path.isContainer value then [.key label, .key f.name] else [.key f.name], .missing⟩]
      else []
    | some x => if f.skips x then [] else (reported f.shape x).map (Issue.under (.key f.name))

/-- An index goes on from the key of an array, whatever text the object has under `type`. -/
theorem Path.ofLocation_item {members : List (String × Json)} {key : String} {items : List Json}
    (array : Json.lookup key members = some (.arr items)) (n : Int) :
    ofLocation (.obj members) [.key key, .index n] = [.key key, .index n] := by
  simp [ofLocation, isLabel, child, array, isContainer]

section Guesses

variable {members : List (String × Json)} {label : String} {value : Json}
  (tag : Json.lookup "type" members = some (.str label))
  (given : Json.lookup label members = some value)
include tag given

namespace Path

/-- How the step with the name of the label is understood. -/
theorem isLabel_own (next : Step) : isLabel (.obj members) (.key label) next =
    ((child (.obj members) next).isSome || !isContainer value) := by
  have there : child (.obj members) (.key label) = some value := given
  simp [isLabel, tag, Step.toJson, Json.same, there]

theorem ofLocation_dropped {next : Step} (more : List Step)
    (dropped : (child (.obj members) next).isSome = true ∨ isContainer value = false) :
    ofLocation (.obj members) (.key label :: next :: more) =
      ofLocation (.obj members) (next :: more) := by
  have isLabel : isLabel (.obj members) (.key label) next = true := by
    rw [isLabel_own tag given]
    rcases dropped with leads | bare
    · rw [leads, Bool.true_or]
    · rw [bare, Bool.not_false, Bool.or_true]
  rw [ofLocation, if_pos isLabel]

theorem ofLocation_kept {next : Step} (more : List Step)
    (ends : (child (.obj members) next).isSome = false) (container : isContainer value = true) :
    ofLocation (.obj members) (.key label :: next :: more) =
      .key label :: ofLocation value (next :: more) := by
  have there : child (.obj members) (.key label) = some value := given
  have isField : isLabel (.obj members) (.key label) next = false := by
    rw [isLabel_own tag given, ends, container]
    rfl
  rw [ofLocation, if_neg (by rw [isField]; exact Bool.false_ne_true), there]

end Path

theorem placed_missing {key : String} (missing : Json.lookup key members = none) :
    (Issue.under (.key label) ⟨[.key key], .missing⟩).placed (.obj members) =
      ⟨if Path.isContainer value then [.key label, .key key] else [.key key], .missing⟩ := by
  have nowhere : (Path.child (.obj members) (.key key)).isSome = false := by
    show (Json.lookup key members).isSome = false
    rw [missing]
    rfl
  rw [Issue.placed, Issue.under]
  cases container : Path.isContainer value with
  | true =>
    rw [Path.ofLocation_kept tag given [] nowhere container]
    rfl
  | false =>
    rw [Path.ofLocation_dropped tag given [] (.inr container)]
    rfl

/-- Behind a key of the object the label is dropped. -/
theorem placed_other {key : String} {x : Json} (found : Json.lookup key members = some x)
    (other : key ≠ label) (i : Issue) :
    ((i.under (.key key)).under (.key label)).placed (.obj members) =
      (i.placed x).under (.key key) := by
  have leads : (Path.child (.obj members) (.key key)).isSome = true := by
    show (Json.lookup key members).isSome = true
    rw [found]
    rfl
  have free : Json.lookup "type" members ≠ some (.str key) := by
    rw [tag]
    intro same
    cases same
    exact other rfl
  simp [Issue.placed, Issue.under, Path.ofLocation_dropped tag given i.path (.inl leads),
    Path.ofLocation_key found free]

theorem placed_own {i : Issue} (shallow : Shallow value i) (other : label ≠ "path") :
    ((i.under (.key label)).under (.key label)).placed (.obj members) =
      if leadsOn members i then i else i.under (.key label) := by
  have leads : (Path.child (.obj members) (.key label)).isSome = true := by
    show (Json.lookup label members).isSome = true
    rw [given]
    rfl
  have free : Json.lookup "type" members ≠ some (.str "path") := by
    rw [tag]
    intro same
    cases same
    exact other rfl
  rw [Issue.placed]
  simp only [Issue.under]
  -- The first step is taken for the label because the second leads on from the object; what the
  -- second one is taken for depends on the issue.
  rw [Path.ofLocation_dropped tag given _ (.inl leads)]
  cases shallow with
  | here all =>
    rw [all]
    rfl
  | @step c s container all =>
    rw [all]
    by_cases onward : leadsOn members ⟨[s], c⟩ = true
    · rw [if_pos onward, Path.ofLocation_dropped tag given [] (.inl onward)]
      rfl
    · rw [if_neg onward, Path.ofLocation_kept tag given [] (Bool.eq_false_iff.mpr onward) container]
      rfl
  | @item c inner items n object array all =>
    subst object
    rw [all]
    by_cases onward : leadsOn members ⟨[.key "path", .index n], c⟩ = true
    · obtain ⟨y, there⟩ := Option.isSome_iff_exists.mp onward
      rw [if_pos onward, Path.ofLocation_dropped tag given _ (.inl onward),
        Path.ofLocation_key there free]
      rfl
    · rw [if_neg onward, Path.ofLocation_kept tag given _ (Bool.eq_false_iff.mpr onward) rfl,
        Path.ofLocation_item array n]
      rfl

theorem guessed_field {r : Record} (named : r.label? = some label) {f : Field}
    (declared : f ∈ r.fields) :
    ((issues (readField (memberParts members) f)).map (Issue.under (.key label))).map
      (Issue.placed (.obj members)) =
      guessed members label value f := by
  unfold guessed
  by_cases own : f.name = label
  · have selfNamed : SelfNamed r f label := ⟨named, declared, own⟩
    obtain ⟨required, listed, other⟩ := selfNamed.field
    have kept : ¬ f.skips value := by
      rintro ⟨optional, -⟩
      rw [required] at optional
      cases optional
    rw [if_pos own, readField_given (own ▸ given) kept, issues_under, plain_selfNamed listed value,
      List.map_map, List.map_map, own]
    apply List.map_congr_left
    intro i member
    exact placed_own tag given (shallow_selfNamed listed member) other
  · rw [if_neg own]
    cases found : Json.lookup f.name members with
    | none =>
      rw [readField_none found]
      cases f.need with
      | required => exact congrArg (fun i => [i]) (placed_missing tag given found)
      | _ => rfl
    | some x =>
      dsimp only
      by_cases skipped : f.skips x
      · rw [readField_skipped found skipped, if_pos skipped]
        rfl
      · rw [readField_given found skipped, if_neg skipped, issues_under, reported_eq, placedIssues,
          List.map_map, List.map_map, List.map_map]
        apply List.map_congr_left
        intro i _
        exact placed_other tag given found own i

theorem reported_guessed {variants : List Record} {r : Record}
    (found : variantOf label variants = some r) (open_ : r.closed = false) :
    reported (.tagged variants) (.obj members) =
      r.fields.flatMap (guessed members label value) := by
  rw [reported_eq, placedIssues, readShape_tagged, tag]
  dsimp only
  rw [found]
  dsimp only
  rw [issues_under, readShape_record, issues_readRecord, open_, if_neg Bool.false_ne_true,
    List.append_nil, List.map_flatMap, List.map_flatMap]
  exact List.flatMap_congr fun f declared =>
    guessed_field tag given (variantOf_eq_some found).2 declared

end Guesses

/-! When the guesses are right. -/

theorem under_injective (s : Step) : Function.Injective (Issue.under s) :=
  below_injective [s]

theorem ne_under (i : Issue) (s : Step) : i ≠ i.under s := by
  intro same
  have lengths := congrArg (fun j : Issue => j.path.length) same
  simp [Issue.under] at lengths

/-- Lists that are put together from parts of the same lengths are the same if all parts are. -/
theorem flatMap_eq_flatMap_iff {α β : Type} {f g : α → List β} {l : List α}
    (lengths : ∀ a ∈ l, (f a).length = (g a).length) :
    l.flatMap f = l.flatMap g ↔ ∀ a ∈ l, f a = g a := by
  induction l with
  | nil => simp
  | cons a rest ih =>
    rw [List.forall_mem_cons] at lengths ⊢
    rw [List.flatMap_cons, List.flatMap_cons, ← ih lengths.2]
    constructor
    · intro same
      exact List.append_inj same lengths.1
    · rintro ⟨first, later⟩
      rw [first, later]

/-- The report of a field says the right places. -/
def RightlyGuessed (members : List (String × Json)) (label : String) (value : Json)
    (f : Field) : Prop :=
  if f.name = label then ∀ i ∈ faults f.shape value, leadsOn members i = false
  else match Json.lookup f.name members with
    | none => f.need = .required → Path.isContainer value = false
    | some x => ¬ f.skips x → reported f.shape x = faults f.shape x

section Right

variable {members : List (String × Json)} {label : String} {value : Json} {r : Record} {f : Field}
  (named : r.label? = some label) (declared : f ∈ r.fields)
  (given : Json.lookup label members = some value)
include named declared given

theorem fieldFaults_own (own : f.name = label) :
    fieldFaults f members = (faults f.shape value).map (Issue.under (.key label)) := by
  have required := (SelfNamed.mk named declared own).field.1
  rw [fieldFaults_found (own ▸ given), if_neg, own]
  rintro ⟨optional, -⟩
  rw [required] at optional
  cases optional

theorem guessed_length :
    (guessed members label value f).length = (fieldFaults f members).length := by
  unfold guessed
  by_cases own : f.name = label
  · rw [if_pos own, fieldFaults_own named declared given own, List.length_map, List.length_map]
  · rw [if_neg own]
    cases found : Json.lookup f.name members with
    | none =>
      rw [fieldFaults_missing found]
      dsimp only
      split <;> rfl
    | some x =>
      rw [fieldFaults_found found]
      dsimp only
      split
      · rfl
      · rw [List.length_map, List.length_map, reported_length]

theorem guessed_eq_iff : guessed members label value f = fieldFaults f members ↔
    RightlyGuessed members label value f := by
  unfold guessed RightlyGuessed
  by_cases own : f.name = label
  · rw [if_pos own, if_pos own, fieldFaults_own named declared given own, List.map_inj_left]
    refine forall₂_congr fun i _ => ?_
    cases leadsOn members i with
    | true => exact iff_of_false (ne_under i _) (by simp)
    | false => simp
  · rw [if_neg own, if_neg own]
    cases found : Json.lookup f.name members with
    | none =>
      rw [fieldFaults_missing found]
      dsimp only
      by_cases required : f.need = .required
      · rw [if_pos required, if_pos required]
        cases Path.isContainer value <;> simp [required]
      · simp [required]
    | some x =>
      rw [fieldFaults_found found]
      dsimp only
      by_cases skipped : f.skips x
      · simp [skipped]
      · rw [if_neg skipped, if_neg skipped, (List.map_injective_iff.mpr (under_injective _)).eq_iff]
        simp [skipped]

end Right

/-! Objects inside of a document. -/

/-- No step of a path is a text that the object it leads on from has under `type`. -/
def Clear : Path → Json → Prop
  | [], _ => True
  | s :: rest, here =>
    (∀ key, s = .key key → Json.lookup "type" here.members ≠ some (.str key)) ∧
      ∀ x, Path.child here s = some x → Clear rest x

/-- All that is reported of a part stands, below a path, in a row with what is reported of the
whole. -/
def Within (s : Shape) (d : Json) (p : Path) (t : Shape) (y : Json) : Prop :=
  (placedIssues t y).map (Issue.below p) <:+: placedIssues s d

theorem Within.step {s t u : Shape} {d x y : Json} {p : Path} {r : Step} (inside : Within t x p u y)
    (here : (placedIssues t x).map (Issue.under r) <:+: placedIssues s d) :
    Within s d (r :: p) u y := by
  have below : (placedIssues u y).map (Issue.below (r :: p)) =
      ((placedIssues u y).map (Issue.below p)).map (Issue.under r) := by
    rw [List.map_map]
    rfl
  rw [Within, below]
  exact (inside.map _).trans here

theorem infix_flatMap {α β : Type} (f : α → List β) {l : List α} {a : α} (member : a ∈ l) :
    f a <:+: l.flatMap f := by
  obtain ⟨before, after, rfl⟩ := List.append_of_mem member
  exact ⟨before.flatMap f, after.flatMap f, by simp⟩

/-- Placing in the whole comes to placing in the part, one step further in, if it does so for every
issue. -/
theorem map_placed {d x : Json} {located : Issue → Issue} {r : Step}
    (each : ∀ i, (located i).placed d = (i.placed x).under r) (is : List Issue) :
    (is.map located).map (Issue.placed d) = (is.map (Issue.placed x)).map (Issue.under r) := by
  rw [List.map_map, List.map_map]
  exact List.map_congr_left fun i _ => each i

theorem mem_readItemsFrom {item : Shape} {items : List Json} {n : Nat} {x : Json}
    (found : items[n]? = some x) (start : Nat) :
    (readShape x item).under (.index ((start + n : Nat) : Int)) ∈
      readItemsFrom start item (itemParts items) := by
  induction items generalizing start n with
  | nil => cases found
  | cons z rest ih =>
    rw [itemParts_cons, readItemsFrom_cons]
    cases n with
    | zero =>
      cases found
      exact List.mem_cons_self
    | succ n =>
      rw [show start + (n + 1) = start + 1 + n by omega]
      exact List.mem_cons_of_mem _ (ih found (start + 1))

theorem infix_item {item : Shape} {items : List Json} {n : Nat} {x : Json}
    (found : items[n]? = some x) :
    (placedIssues item x).map (Issue.under (.index n)) <:+:
      placedIssues (.list item) (.arr items) := by
  have part := infix_flatMap issues (@mem_readItemsFrom item _ _ _ found 0)
  rw [Nat.zero_add, issues_under] at part
  have placed := part.map (Issue.placed (.arr items))
  rw [map_placed (placed_under_index found)] at placed
  have whole : issues (readShape (.arr items) (.list item)) =
      (readItemsFrom 0 item (itemParts items)).flatMap issues := by
    rw [readShape_eq]
    simp only [readWith, issues_map, issues_collect, Json.items]
  rw [placedIssues, placedIssues, whole]
  exact placed

theorem infix_entry {value : Shape} {members : List (String × Json)} {key : String} {x : Json}
    (free : Json.lookup "type" members ≠ some (.str key))
    (found : Json.lookup key members = some x) :
    (placedIssues value x).map (Issue.under (.key key)) <:+:
      placedIssues (.map value) (.obj members) := by
  have part := infix_flatMap (fun m => issues ((readShape m.2 value).under (.key m.1)))
    (Json.mem_of_lookup found)
  rw [issues_under] at part
  have placed := part.map (Issue.placed (.obj members))
  rw [map_placed (placed_under_free free found)] at placed
  have whole : issues (readShape (.obj members) (.map value)) =
      members.flatMap fun m => issues ((readShape m.2 value).under (.key m.1)) := by
    rw [readShape_eq]
    simp only [readWith, issues_map, issues_collect, Json.members, memberParts_eq, List.flatMap_map]
  rw [placedIssues, placedIssues, whole]
  exact placed

section Fields

variable {r : Record} {f : Field} {members : List (String × Json)} {x : Json}
  (declared : f ∈ r.fields) (found : Json.lookup f.name members = some x) (given : ¬ f.skips x)
include declared found given

theorem infix_issues : (issues (readShape x f.shape)).map (Issue.under (.key f.name)) <:+:
    issues (readShape (.obj members) (.record r)) := by
  have part := infix_flatMap (fun f => issues (readField (memberParts members) f)) declared
  rw [readField_given found given, issues_under] at part
  rw [readShape_record, issues_readRecord]
  exact part.trans (List.prefix_append _ _).isInfix

variable (free : Json.lookup "type" members ≠ some (.str f.name))
include free

theorem infix_field :
    (placedIssues f.shape x).map (Issue.under (.key f.name)) <:+:
      placedIssues (.record r) (.obj members) := by
  have placed := (infix_issues declared found given).map (Issue.placed (.obj members))
  rwa [map_placed (placed_under_free free found)] at placed

/-- Behind the label of the variant the fields are the same. -/
theorem infix_variant {variants : List Record} {label : String}
    (tag : Json.lookup "type" members = some (.str label))
    (named : variantOf label variants = some r) :
    (placedIssues f.shape x).map (Issue.under (.key f.name)) <:+:
      placedIssues (.tagged variants) (.obj members) := by
  have placed := ((infix_issues declared found given).map (Issue.under (.key label))).map
    (Issue.placed (.obj members))
  have dropped : ∀ i : Issue, ((i.under (.key f.name)).under (.key label)).placed (.obj members) =
      (i.placed x).under (.key f.name) := by
    intro i
    cases absent : Json.lookup label members with
    | none =>
      have label_dropped :=
        Path.ofLocation_label tag absent (List.cons_ne_nil (Step.key f.name) i.path)
      simp [Issue.placed, Issue.under, label_dropped, Path.ofLocation_key found free]
    | some value =>
      have other : f.name ≠ label := by
        rintro rfl
        exact free tag
      exact placed_other tag absent found other i
  have twice : ((issues (readShape x f.shape)).map (Issue.under (.key f.name))).map
      (Issue.under (.key label)) =
      (issues (readShape x f.shape)).map fun i => (i.under (.key f.name)).under (.key label) := by
    rw [List.map_map]
    rfl
  rw [twice, map_placed dropped] at placed
  rw [placedIssues, placedIssues, readShape_tagged, tag]
  dsimp only
  rwa [named, issues_under]

end Fields

/-- What is reported of an object at a tagged union is reported wherever the union is asked for, at
the end of a clear path. -/
theorem within_of_asks {s : Shape} {d y : Json} {p : Path} {variants : List Record}
    (asked : Asks s d p (.tagged variants) y) (clear : Clear p d) :
    Within s d p (.tagged variants) y := by
  generalize same : Shape.tagged variants = t at asked
  -- A label is dropped because of the field behind it, so for a record the induction carries its
  -- unions along.
  suffices both : Within s d p t y ∧ ∀ r members label unions, s = .record r → d = .obj members →
      Json.lookup "type" members = some (.str label) → variantOf label unions = some r →
      Within (.tagged unions) d p t y from both.1
  induction asked with
  | here s d =>
    refine ⟨?_, fun r members label unions record => ?_⟩
    · have whole : (placedIssues s d).map (Issue.below []) = placedIssues s d := List.map_id _
      exact ⟨[], [], (List.append_nil _).trans whole⟩
    · subst same
      cases record
  | item found _ ih =>
    refine ⟨(ih (clear.2 _ (by simpa [Path.child] using found)) same).1.step (infix_item found), ?_⟩
    intro r members label unions record
    cases record
  | entry found _ ih =>
    refine ⟨(ih (clear.2 _ found) same).1.step (infix_entry (clear.1 _ rfl) found), ?_⟩
    intro r members label unions record
    cases record
  | field declared found given _ ih =>
    have inside := (ih (clear.2 _ found) same).1
    have free := clear.1 _ rfl
    refine ⟨inside.step (infix_field declared found given free), ?_⟩
    intro r members label unions record object tag named
    cases record
    cases object
    exact inside.step (infix_variant declared found given free tag named)
  | variant tag named _ ih =>
    refine ⟨(ih clear same).2 _ _ _ _ rfl rfl tag named, ?_⟩
    intro r members label unions record
    cases record

theorem faults_labelled {variants : List Record} {members : List (String × Json)} {label : String}
    {r : Record} (tag : Json.lookup "type" members = some (.str label))
    (found : variantOf label variants = some r) (open_ : r.closed = false) :
    faults (.tagged variants) (.obj members) = r.fields.flatMap fun f => fieldFaults f members := by
  simp [faults, recordFaults, tag, found, open_]

/-- What is reported of an object of a variant with a field that has the name of its label, if the
field is given. The issues are those of the document one by one, and those of the object stand
together below its path. Field by field they are placed by guesses, and all of them are where they
should be exactly if every guess is right. -/
theorem reported_selfNamed (t : WireType) {d : Json} {p : Path} {variants : List Record}
    {r : Record} {f : Field} {members : List (String × Json)} {label : String} {value : Json}
    (asked : Asks t.shape d p (.tagged variants) (.obj members)) (clear : Clear p d)
    (tag : Json.lookup "type" members = some (.str label))
    (found : variantOf label variants = some r) (declared : f ∈ r.fields) (same : f.name = label)
    (given : Json.lookup label members = some value) :
    (reported t.shape d).map (·.cause) = (faults t.shape d).map (·.cause) ∧
      (reported (.tagged variants) (.obj members)).map (Issue.below p) <:+: reported t.shape d ∧
      reported (.tagged variants) (.obj members) = r.fields.flatMap (guessed members label value) ∧
      (reported (.tagged variants) (.obj members) = faults (.tagged variants) (.obj members) ↔
        ∀ g ∈ r.fields, RightlyGuessed members label value g) := by
  have named := (variantOf_eq_some found).2
  have open_ := (SelfNamed.mk named declared same).open_
  have listed := reported_guessed tag given found open_
  refine ⟨causes_reported t.shape d, ?_, listed, ?_⟩
  · rw [reported_eq, reported_eq]
    exact within_of_asks asked clear
  · rw [listed, faults_labelled tag found open_,
      flatMap_eq_flatMap_iff fun g inside => guessed_length named inside given]
    exact forall₂_congr fun g inside => guessed_eq_iff named inside given

/-- A column without a name is compared with, and the comparison value has a name that is no field
of it. -/
def comparedColumn : List (String × Json) :=
  [("type", .str "column"), ("column", .obj [("column_type", .str "number")]),
    ("name", .str "Title")]

def unnamedComparison : Json :=
  .obj [("type", .str "binary_op"), ("operator", .str "equal"), ("value", .obj comparedColumn),
    ("column", .obj [("name", .str "ArtistId"), ("column_type", .str "number")])]

theorem reported_selfNamed_compared :
    Asks Alias.expression.shape unnamedComparison [.key "value"] Alias.comparisonValue.shape
      (.obj comparedColumn) ∧
      Clear [.key "value"] unnamedComparison ∧
      [⟨[.key "value", .key "name"], .missing⟩] <:+:
        reported Alias.expression.shape unnamedComparison ∧
      reported Alias.comparisonValue.shape (.obj comparedColumn) ≠
        faults Alias.comparisonValue.shape (.obj comparedColumn) := by
  have asked : Asks Alias.expression.shape unnamedComparison [.key "value"]
      Alias.comparisonValue.shape (.obj comparedColumn) :=
    @Asks.variant _ .applyBinaryComparison _ _ "binary_op" _ _ rfl rfl <|
      .field (f := req "value" Alias.comparisonValue.shape) (by decide) rfl
        (req_not_skips _ _ _) (.here _ _)
  have clear : Clear [.key "value"] unnamedComparison := by
    refine ⟨?_, fun _ _ => trivial⟩
    rintro key same labelled
    cases same
    have other : some (Json.str "binary_op") = some (.str "value") := labelled
    simp at other
  obtain ⟨-, inside, -, right⟩ := reported_selfNamed (.alias .expression) asked clear
    (f := req "column" (.record .comparisonColumn)) rfl rfl (by decide) rfl rfl
  have listed : faults (.record .comparisonColumn) (.obj [("column_type", .str "number")]) =
      [⟨[.key "name"], .missing⟩] := by
    cbv
  refine ⟨asked, clear, inside, fun same => ?_⟩
  have rightly := right.mp same (req "column" (.record .comparisonColumn)) (by decide)
  have wrong := rightly ⟨[.key "name"], .missing⟩ (listed ▸ List.mem_singleton_self _)
  cases wrong

/-- A column whose name is an array, without a type: the missing type is reported inside of the
name. -/
theorem misplaced_column_type :
    let members : List (String × Json) := [("type", .str "column"), ("column", .arr [.str "Title"])]
    Json.lookup "column_type" members = none ∧
      reported Alias.field.shape (.obj members) =
        [⟨[.key "column"], .mismatch .string .array⟩,
          ⟨[.key "column", .key "column_type"], .missing⟩] ∧
      faults Alias.field.shape (.obj members) =
        [⟨[.key "column"], .mismatch .string .array⟩, ⟨[.key "column_type"], .missing⟩] := by
  refine ⟨rfl, rfl, ?_⟩
  cbv

end AgentWire
