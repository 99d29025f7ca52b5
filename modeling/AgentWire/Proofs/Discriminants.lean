import AgentWire.Proofs.IssueCauses

/-! Issues at a place of a document. What is reported at or below a place is what the value there
has by itself, so the law of labels can be stated at every place where a union is asked for: without
a label, or with an unknown one, a tagged union has that one issue, and otherwise those of the
variant that the label names. -/
namespace AgentWire

deriving instance DecidableEq for Step

def Issue.below (p : Path) (i : Issue) : Issue :=
  ⟨p ++ i.path, i.cause⟩

def reported (s : Shape) (d : Json) : List Issue :=
  match decode s d with
  | .error (.invalid issues) => issues.toList
  | _ => []

def reportedAt (s : Shape) (d : Json) (p : Path) : List Issue :=
  (reported s d).filter fun i => p <+: i.path

/-- A shape is asked of a part of a document: of the whole, or of a field, an item or an entry of
what is asked for. A label leads on to its variant; what is tried at an untagged union is not asked
for. -/
inductive Asks : Shape → Json → Path → Shape → Json → Prop
  | here (s : Shape) (d : Json) : Asks s d [] s d
  | item {item t : Shape} {items : List Json} {n : Nat} {x y : Json} {p : Path}
      (found : items[n]? = some x) (inside : Asks item x p t y) :
      Asks (.list item) (.arr items) (.index n :: p) t y
  | entry {value t : Shape} {members : List (String × Json)} {key : String} {x y : Json} {p : Path}
      (found : Json.lookup key members = some x) (inside : Asks value x p t y) :
      Asks (.map value) (.obj members) (.key key :: p) t y
  | field {r : Record} {f : Field} {t : Shape} {members : List (String × Json)} {x y : Json}
      {p : Path} (declared : f ∈ r.fields) (found : Json.lookup f.name members = some x)
      (given : ¬ f.skips x) (inside : Asks f.shape x p t y) :
      Asks (.record r) (.obj members) (.key f.name :: p) t y
  | variant {variants : List Record} {r : Record} {t : Shape} {members : List (String × Json)}
      {label : String} {y : Json} {p : Path} (tag : Json.lookup "type" members = some (.str label))
      (named : variantOf label variants = some r) (inside : Asks (.record r) (.obj members) p t y) :
      Asks (.tagged variants) (.obj members) p t y

theorem reported_eq (s : Shape) (d : Json) : reported s d = placedIssues s d := by
  rw [reported, placedIssues]
  unfold decode
  cases readShape d s <;> rfl

theorem reported_eq_faults {s : Shape} {d : Json} (distinct : d.Distinct) (free : d.CollisionFree) :
    reported s d = faults s d := by
  rw [reported_eq, placed_issues distinct free]

/-- What is reported are the issues of the document, one by one; only their paths can be others. -/
theorem causes_reported (s : Shape) (d : Json) :
    (reported s d).map (·.cause) = (faults s d).map (·.cause) := by
  rw [← causes_issues, reported_eq, placedIssues, List.map_map]
  rfl

theorem reported_length (s : Shape) (d : Json) : (reported s d).length = (faults s d).length := by
  have lengths := congrArg List.length (causes_reported s d)
  rwa [List.length_map, List.length_map] at lengths

namespace Asks

variable {s t : Shape} {d y : Json} {p : Path}

/-- What holds everywhere in a document holds everywhere in its parts. -/
theorem everywhere {test : Json → Bool} (asked : Asks s d p t y)
    (holds : d.everywhere test = true) :
    y.everywhere test = true := by
  induction asked with
  | here => exact holds
  | item found _ ih => exact ih (Json.everywhere_items holds (List.mem_of_getElem? found))
  | entry found _ ih => exact ih (Json.everywhere_members holds (Json.mem_of_lookup found))
  | field _ found _ _ ih => exact ih (Json.everywhere_members holds (Json.mem_of_lookup found))
  | variant _ _ _ ih => exact ih holds

end Asks

/-! Issues under one step are told apart from those under another. -/

theorem filter_under (s r : Step) (p : Path) (is : List Issue) :
    (is.map (Issue.under s)).filter (fun i => r :: p <+: i.path) =
      if s = r then (is.filter fun i => p <+: i.path).map (Issue.under s) else [] := by
  rw [List.filter_map]
  split
  · rename_i same
    subst same
    congr 1
    apply List.filter_congr
    intro i _
    simp [Issue.under]
  · rename_i other
    rw [List.map_eq_nil_iff, List.filter_eq_nil_iff]
    intro i _
    simp [Issue.under, Ne.symm other]

/-- Of a list with distinct names only one entry counts if all others give nothing. -/
theorem flatMap_named {α β : Type} (name : α → String) {f : α → List β} {l : List α} {a : α}
    (distinct : (l.map name).Nodup) (member : a ∈ l)
    (others : ∀ b ∈ l, name b ≠ name a → f b = []) :
    l.flatMap f = f a := by
  induction l with
  | nil => cases member
  | cons b rest ih =>
    rw [List.map_cons, List.nodup_cons] at distinct
    rw [List.flatMap_cons]
    rcases List.mem_cons.mp member with rfl | later
    · have nothing : rest.flatMap f = [] := by
        rw [List.flatMap_eq_nil_iff]
        intro b inside
        apply others b (List.mem_cons_of_mem _ inside)
        intro same
        exact distinct.1 (same ▸ List.mem_map_of_mem inside)
      rw [nothing, List.append_nil]
    · have different : name b ≠ name a := fun same => distinct.1 (same ▸ List.mem_map_of_mem later)
      rw [others b List.mem_cons_self different, List.nil_append]
      exact ih distinct.2 later fun c inside => others c (List.mem_cons_of_mem _ inside)

section Places

variable {p : Path}

theorem itemFaults_at (item : Shape) {items : List Json} (start : Nat) {n : Nat} {x : Json}
    (found : items[n]? = some x) :
    (itemFaults item start items).filter (fun i =>
      .index ((start + n : Nat) : Int) :: p <+: i.path) =
      ((faults item x).filter fun i => p <+: i.path).map
        (Issue.under (.index ((start + n : Nat) : Int))) := by
  induction items generalizing start n with
  | nil => cases found
  | cons z rest ih =>
    rw [itemFaults, List.filter_append, filter_under]
    cases n with
    | zero =>
      cases found
      -- The items behind it have greater indices.
      have later : ∀ (rest : List Json) (k : Nat), start < k →
          (itemFaults item k rest).filter (fun i => .index ((start : Nat) : Int) :: p <+: i.path) =
            [] := by
        intro rest
        induction rest with
        | nil => intros; rw [itemFaults]; rfl
        | cons y more ih =>
          intro k beyond
          have different : Step.index (k : Int) ≠ .index (start : Int) := by
            intro same
            injection same with same
            omega
          rw [itemFaults, List.filter_append, filter_under, if_neg different, ih (k + 1) (by omega)]
          rfl
      simp [later rest (start + 1) (by omega)]
    | succ n =>
      have different : Step.index (start : Int) ≠ .index ((start + (n + 1) : Nat) : Int) := by
        intro same
        injection same with same
        omega
      rw [if_neg different, List.nil_append, show start + (n + 1) = start + 1 + n by omega]
      exact ih _ found

/-- The issues of a field lie at the field. -/
theorem fieldFaults_elsewhere {f : Field} {members : List (String × Json)} {key : String}
    (other : f.name ≠ key) :
    (fieldFaults f members).filter (fun i => .key key :: p <+: i.path) = [] := by
  have different : Step.key f.name ≠ .key key := by
    intro same
    injection same
    contradiction
  cases found : Json.lookup f.name members with
  | none =>
    rw [fieldFaults_missing found]
    split <;> simp [Ne.symm different]
  | some x =>
    rw [fieldFaults_found found]
    split
    · rfl
    · rw [filter_under, if_neg different]

theorem recordFaults_at {r : Record} {f : Field} {members : List (String × Json)} {x : Json}
    (declared : f ∈ r.fields) (found : Json.lookup f.name members = some x) (given : ¬ f.skips x) :
    (recordFaults r members).filter (fun i => .key f.name :: p <+: i.path) =
      ((faults f.shape x).filter fun i => p <+: i.path).map (Issue.under (.key f.name)) := by
  have extra : (if r.closed then (members.filter fun m => m.1 ∉ r.fields.map (·.name)).map fun m =>
      (⟨[.key m.1], .mismatch .noField m.2.kind⟩ : Issue) else []).filter
        (fun i => .key f.name :: p <+: i.path) = [] := by
    rw [List.filter_eq_nil_iff]
    intro i member
    split at member
    · obtain ⟨m, kept, rfl⟩ := List.mem_map.mp member
      have undeclared := of_decide_eq_true (List.mem_filter.mp kept).2
      have different : f.name ≠ m.1 := fun same => undeclared (same ▸ List.mem_map_of_mem declared)
      simp [different]
    · cases member
  rw [recordFaults, List.filter_append, extra, List.append_nil, List.filter_flatMap,
    flatMap_named _ r.fields_nodup declared fun g _ other => fieldFaults_elsewhere other,
    fieldFaults_found found, if_neg given, filter_under, if_pos rfl]

end Places

/-- The issues at a place where a shape is asked for are the issues of what stands there. -/
theorem faults_at {s t : Shape} {d y : Json} {p : Path} (asked : Asks s d p t y)
    (distinct : d.Distinct) :
    (faults s d).filter (fun i => p <+: i.path) = (faults t y).map (Issue.below p) := by
  have below_cons : ∀ (q : Path) (r : Step) (is : List Issue),
      (is.map (Issue.below q)).map (Issue.under r) = is.map (Issue.below (r :: q)) := by
    intro q r is
    rw [List.map_map]
    rfl
  induction asked with
  | here s d =>
    rw [List.filter_eq_self.mpr fun i _ => by simp]
    exact (List.map_id _).symm
  | @item item t items n x y p found _ ih =>
    have here := @itemFaults_at p item _ 0 _ _ found
    rw [Nat.zero_add] at here
    rw [faults, here, ih (Json.everywhere_items distinct (List.mem_of_getElem? found)), below_cons]
  | @entry value t members key x y p found _ ih =>
    have member := Json.mem_of_lookup found
    have others : ∀ m ∈ members, m.1 ≠ key →
        ((faults value m.2).map (Issue.under (.key m.1))).filter (fun i =>
          .key key :: p <+: i.path) = [] := by
      intro m _ other
      rw [filter_under, if_neg]
      intro same
      injection same
      contradiction
    rw [faults, List.filter_flatMap, flatMap_named (·.1) distinct.nodup member others, filter_under,
      if_pos rfl, ih (Json.everywhere_members distinct member), below_cons]
  | field declared found given _ ih =>
    rw [faults, recordFaults_at declared found given,
      ih (Json.everywhere_members distinct (Json.mem_of_lookup found)), below_cons]
  | variant tag named _ ih =>
    rw [← ih distinct]
    simp only [faults, tag, named]

theorem reportedAt_asked {s t : Shape} {d y : Json} {p : Path} (asked : Asks s d p t y)
    (distinct : d.Distinct) (free : d.CollisionFree) :
    reportedAt s d p = (reported t y).map (Issue.below p) := by
  rw [reportedAt, reported_eq_faults distinct free, faults_at asked distinct,
    reported_eq_faults (asked.everywhere distinct) (asked.everywhere free)]

/-! Labels. -/

/-- The variant that the value under `type` names. Only a text names one. -/
def variantNamed (tag : Json) (variants : List Record) : Option Record :=
  match tag with
  | .str label => variantOf label variants
  | _ => none

/-- What a tagged union reports of an object: its `type` is missing, or the object is of no known
variant, or else whatever the variant that the label names reports. -/
def dispatched (variants : List Record) (members : List (String × Json)) : List Issue :=
  match Json.lookup "type" members with
  | none => [⟨[.key "type"], .untagged⟩]
  | some tag => match variantNamed tag variants with
    | none => [⟨[], .unrecognised (some (.unknownTag tag))⟩]
    | some r => reported (.record r) (.obj members)

/-- The variants that stand alone for a tagged union: arguments and their values come in one form
only, and are read as that form. -/
def loneVariants : List Record := [.namedArgument, .scalarArgumentValue]

/-- What a variant reports of its label as a field: a wrong one is an issue at `type`, a missing one
is none. -/
def labelIssues (label : String) (members : List (String × Json)) : List Issue :=
  match Json.lookup "type" members with
  | none => []
  | some (.str w) =>
    if w = label then [] else [⟨[.key "type"], .unrecognised (some (.notAmong [label]))⟩]
  | some other => [⟨[.key "type"], .mismatch .string other.kind⟩]

theorem reported_tagged {variants : List Record} {members : List (String × Json)}
    (distinct : (Json.obj members).Distinct) (free : (Json.obj members).CollisionFree) :
    reported (.tagged variants) (.obj members) = dispatched variants members := by
  rw [reported_eq_faults distinct free, faults, dispatched]
  cases Json.lookup "type" members with
  | none => rfl
  | some tag =>
    cases tag with
    | str label =>
      simp only [variantNamed]
      cases variantOf label variants with
      | none => rfl
      | some r =>
        simp only
        rw [reported_eq_faults distinct free, faults]
    | _ => rfl

/-- What a declared field of an object is reported for. -/
def fieldIssues (members : List (String × Json)) (f : Field) : List Issue :=
  match Json.lookup f.name members with
  | none => if f.need = .required then [⟨[.key f.name], .missing⟩] else []
  | some x => if f.skips x then [] else (reported f.shape x).map (Issue.under (.key f.name))

/-- What a lone variant reports of an object: its label counts as a field, and the other fields
count whatever it is. -/
def unguided (r : Record) (label : String) (members : List (String × Json)) : List Issue :=
  labelIssues label members ++ (r.fields.filter (·.name ≠ "type")).flatMap (fieldIssues members)

theorem fieldIssues_eq {f : Field} {members : List (String × Json)}
    (distinct : (Json.obj members).Distinct) (free : (Json.obj members).CollisionFree) :
    fieldIssues members f = fieldFaults f members := by
  unfold fieldIssues
  cases found : Json.lookup f.name members with
  | none => rw [fieldFaults_missing found]
  | some x =>
    have inside := Json.mem_of_lookup found
    have reports : reported f.shape x = faults f.shape x :=
      reported_eq_faults (Json.everywhere_members distinct inside)
        (Json.everywhere_members free inside)
    simp only [fieldFaults_found found, reports]

theorem labelIssues_eq (label : String) (members : List (String × Json)) :
    labelIssues label members = fieldFaults (variant label) members := by
  unfold labelIssues
  cases found : Json.lookup "type" members with
  | none =>
    rw [fieldFaults_missing found]
    rfl
  | some x =>
    rw [fieldFaults_found found, if_neg (variant_not_skips label x)]
    cases x with
    | str w =>
      simp only [variant, faults]
      split <;> rfl
    | _ => simp [variant, faults, mismatched, Issue.under]

theorem reported_lone {r : Record} {label : String} {members : List (String × Json)}
    (lone : r ∈ loneVariants) (named : r.label? = some label)
    (distinct : (Json.obj members).Distinct) (free : (Json.obj members).CollisionFree) :
    reported (.record r) (.obj members) = unguided r label members := by
  have first : r.fields = variant label :: r.fields.filter (·.name ≠ "type") := by
    simp only [loneVariants, List.mem_cons, List.not_mem_nil, or_false] at lone
    rcases lone with rfl | rfl <;> cases named <;> decide
  have open_ : r.closed = false := by
    simp only [loneVariants, List.mem_cons, List.not_mem_nil, or_false] at lone
    rcases lone with rfl | rfl <;> rfl
  rw [reported_eq_faults distinct free, faults, recordFaults, open_, unguided, labelIssues_eq]
  simp only [Bool.false_eq_true, if_false, List.append_nil]
  rw [first, List.flatMap_cons, ← first]
  congr 1
  exact List.flatMap_congr fun f _ => (fieldIssues_eq distinct free).symm

theorem path_of_fieldIssues {f : Field} {members : List (String × Json)} {i : Issue}
    (member : i ∈ fieldIssues members f) : ∃ q, i.path = .key f.name :: q := by
  unfold fieldIssues at member
  cases found : Json.lookup f.name members with
  | none =>
    simp only [found] at member
    split at member
    · exact ⟨[], by rw [List.mem_singleton.mp member]⟩
    · cases member
  | some x =>
    simp only [found] at member
    split at member
    · cases member
    · obtain ⟨j, _, rfl⟩ := List.mem_map.mp member
      exact ⟨j.path, rfl⟩

/-- No issue of a lone variant is about the object as a whole or says that its label is missing. -/
theorem not_mem_unguided {r : Record} {label : String} {members : List (String × Json)} {i : Issue}
    (member : i ∈ unguided r label members) : i.path ≠ [] ∧ i ≠ ⟨[.key "type"], .untagged⟩ := by
  rcases List.mem_append.mp member with own | field
  · unfold labelIssues at own
    split at own
    · cases own
    · split at own
      · cases own
      · rw [List.mem_singleton.mp own]
        simp
    · rw [List.mem_singleton.mp own]
      simp
  · obtain ⟨f, kept, inside⟩ := List.mem_flatMap.mp field
    have other : f.name ≠ "type" := of_decide_eq_true (List.mem_filter.mp kept).2
    obtain ⟨q, path⟩ := path_of_fieldIssues inside
    constructor
    · simp [path]
    · rintro rfl
      simp only [List.cons.injEq, Step.key.injEq] at path
      exact other path.1.symm

theorem below_injective (p : Path) : Function.Injective (Issue.below p) := by
  rintro ⟨path, cause⟩ ⟨other, reason⟩ same
  simp only [Issue.below, Issue.mk.injEq] at same
  rw [List.append_cancel_left same.1, same.2]

/-- A lone variant keeps the law of tagged unions only with objects that carry its label. -/
theorem unguided_eq_dispatched_iff {r : Record} {label : String} {members : List (String × Json)}
    (lone : r ∈ loneVariants) (named : r.label? = some label)
    (distinct : (Json.obj members).Distinct) (free : (Json.obj members).CollisionFree) :
    unguided r label members = dispatched [r] members ↔
      Json.lookup "type" members = some (.str label) := by
  constructor
  · intro same
    cases tag : Json.lookup "type" members with
    | none =>
      simp only [dispatched, tag] at same
      exact absurd rfl (not_mem_unguided (same ▸ List.mem_singleton_self _)).2
    | some x =>
      cases variant : variantNamed x [r] with
      | none =>
        simp only [dispatched, tag, variant] at same
        exact absurd rfl (not_mem_unguided (same ▸ List.mem_singleton_self _)).1
      | some q =>
        cases x with
        | str w =>
          obtain ⟨only, carried⟩ := variantOf_eq_some variant
          rw [List.mem_singleton.mp only, named] at carried
          rw [Option.some.inj carried]
        | _ => cases variant
  · intro tag
    have carried : variantNamed (.str label) [r] = some r := by
      simp [variantNamed, variantOf, named]
    simp only [dispatched, tag, carried]
    exact (reported_lone lone named distinct free).symm

/-- Wherever a tagged union is asked of an object, what is reported there and below is what its
label decides. The two unions with a lone variant are the exception: a missing label is no issue, a
wrong one is an issue at `type`, and the fields are looked at in either case. -/
theorem reportedAt_union (t : WireType) {d : Json} (distinct : d.Distinct) (free : d.CollisionFree)
    (p : Path) (members : List (String × Json)) :
    (∀ variants, Asks t.shape d p (.tagged variants) (.obj members) →
      reportedAt t.shape d p = (dispatched variants members).map (Issue.below p)) ∧
    ∀ r ∈ loneVariants, ∀ label, r.label? = some label →
      Asks t.shape d p (.record r) (.obj members) →
      reportedAt t.shape d p = (unguided r label members).map (Issue.below p) ∧
      (reportedAt t.shape d p = (dispatched [r] members).map (Issue.below p) ↔
        Json.lookup "type" members = some (.str label)) := by
  constructor
  · intro variants asked
    rw [reportedAt_asked asked distinct free,
      reported_tagged (asked.everywhere distinct) (asked.everywhere free)]
  · intro r lone label named asked
    have inside : (Json.obj members).Distinct := asked.everywhere distinct
    have clear : (Json.obj members).CollisionFree := asked.everywhere free
    have here := reportedAt_asked asked distinct free
    rw [reported_lone lone named inside clear] at here
    refine ⟨here, ?_⟩
    rw [here, (List.map_injective_iff.mpr (below_injective p)).eq_iff]
    exact unguided_eq_dispatched_iff lone named inside clear

/-- A call of a function with two arguments: the value of the first one has no label, and the second
one a wrong one. -/
def calledFunction : List (String × Json) :=
  [("type", .str "function"), ("name", .arr [.str "search"]), ("arguments", .arr
    [.obj [("type", .str "named"), ("name", .str "term"), ("value", .obj [("value", .int 1)])],
     .obj [("type", .str "positional"), ("name", .str "limit"), ("value", .null)]])]

theorem reportedAt_union_called :
    (Json.obj calledFunction).Distinct ∧ (Json.obj calledFunction).CollisionFree ∧
      Asks Alias.target.shape (.obj calledFunction) [] Alias.target.shape (.obj calledFunction) ∧
      reportedAt Alias.target.shape (.obj calledFunction) [] =
        reported (.record .functionTarget) (.obj calledFunction) ∧
      Asks Alias.target.shape (.obj calledFunction) [.key "arguments", .index 0, .key "value"]
        (.record .scalarArgumentValue) (.obj [("value", .int 1)]) ∧
      reportedAt Alias.target.shape (.obj calledFunction) [.key "arguments",
        .index 0, .key "value"] =
        [⟨[.key "arguments", .index 0, .key "value", .key "value_type"], .missing⟩] := by
  have distinct : (Json.obj calledFunction).Distinct := by decide
  have free : (Json.obj calledFunction).CollisionFree := by decide
  have whole : Asks Alias.target.shape (.obj calledFunction) [] Alias.target.shape
      (.obj calledFunction) := .here _ _
  have value : Asks Alias.target.shape (.obj calledFunction) [.key "arguments",
      .index 0, .key "value"]
      (.record .scalarArgumentValue) (.obj [("value", .int 1)]) :=
    @Asks.variant _ .functionTarget _ _ "function" _ _ rfl rfl <|
      .field (f := req "arguments" (.list (.record .namedArgument))) (by decide) rfl
        (req_not_skips _ _ _) <|
      .item (n := 0) rfl <|
      .field (f := req "value" (.record .scalarArgumentValue)) (by decide) rfl
        (req_not_skips _ _ _) (.here _ _)
  have at_whole := (reportedAt_union (.alias .target) distinct free [] calledFunction).1 _ whole
  have at_value :=
    ((reportedAt_union (.alias .target) distinct free [.key "arguments", .index 0, .key "value"]
      [("value", .int 1)]).2 _ (by decide) "scalar" rfl value).1
  refine ⟨distinct, free, whole, at_whole.trans ?_, value, at_value.trans ?_⟩
  · exact List.map_id _
  · rfl

/-- An argument's value without a label has no issue, so the law of tagged unions fails for it. -/
theorem unlabelled_value_reported :
    let members : List (String × Json) := [("value", .int 1), ("value_type", .str "number")]
    (Json.obj members).Distinct ∧ (Json.obj members).CollisionFree ∧
      Json.lookup "type" members = none ∧
      dispatched [.scalarArgumentValue] members = [⟨[.key "type"], .untagged⟩] ∧
      reportedAt (WireType.record .scalarArgumentValue).shape (.obj members) [] = [] := by
  refine ⟨by decide, by decide, rfl, rfl, rfl⟩

end AgentWire
