import AgentWire.Proofs.ColumnValues
import AgentWire.Proofs.Doubles
import AgentWire.Proofs.Sameness

/-! Documents that differ only in the order of members. They are equal by value, the same steps lead
to the same places in both, and both have the same issues, only in another order. -/
namespace AgentWire

open List (Forall₂)

theorem forall₂_of_each {α β : Type} {R : α → β → Prop} {l : List α} {u : List β}
    (length : l.length = u.length)
    (each : ∀ (i : Nat) x y, l[i]? = some x → u[i]? = some y → R x y) : Forall₂ R l u :=
  List.forall₂_iff_get.mpr ⟨length, fun i here there =>
    each i _ _ (List.getElem?_eq_getElem here) (List.getElem?_eq_getElem there)⟩

theorem forall₂_getElem? {α β : Type} {R : α → β → Prop} {l : List α} {u : List β}
    (all : Forall₂ R l u) (i : Nat) :
    Option.Rel R l[i]? u[i]? := by
  induction all generalizing i with
  | nil => exact .none
  | cons here _ ih =>
    cases i with
    | zero => exact .some here
    | succ i => exact ih i

theorem forall₂_inside {α β : Type} {R S : α → β → Prop} {l : List α} {u : List β}
    (all : Forall₂ R l u) (each : ∀ x ∈ l, ∀ y ∈ u, R x y → S x y) : Forall₂ S l u := by
  induction all with
  | nil => exact .nil
  | cons here _ ih =>
    refine .cons (each _ List.mem_cons_self _ List.mem_cons_self here) (ih ?_)
    exact fun x inside y other =>
      each x (List.mem_cons_of_mem _ inside) y (List.mem_cons_of_mem _ other)

theorem rel_inside {α β : Type} {R S : α → β → Prop} {x : Option α} {y : Option β}
    (related : Option.Rel R x y) (each : ∀ a b, x = some a → y = some b → R a b → S a b) :
    Option.Rel S x y := by
  cases related with
  | some here => exact .some (each _ _ rfl rfl here)
  | none => exact .none

theorem exists_of_rel_some {α β : Type} {R : α → β → Prop} {x : Option α} {b : β}
    (related : Option.Rel R x (some b)) :
    ∃ a, x = some a ∧ R a b := by
  cases related with
  | some here => exact ⟨_, rfl, here⟩

theorem exists_of_some_rel {α β : Type} {R : α → β → Prop} {a : α} {y : Option β}
    (related : Option.Rel R (some a) y) :
    ∃ b, y = some b ∧ R a b := by
  cases related with
  | some here => exact ⟨_, rfl, here⟩

/-- No double is undefined; what is no number is no JSON value. -/
def Json.Defined (d : Json) : Prop :=
  d.everywhere (fun here => match here with
    | .num x => !x.isNaN
    | _ => true) = true

instance (d : Json) : Decidable d.Defined := inferInstanceAs (Decidable (_ = true))

theorem Double.beq_self {x : Float} (number : x.isNaN = false) : (x == x) = true := by
  show x.toModel.unpack.beq x.toModel.unpack = true
  have special : x.toModel.unpack.isNaN = false := number
  cases unpacked : x.toModel.unpack with
  | infinity s => cases s <;> rfl
  | notANumber =>
    rw [unpacked] at special
    cases special
  | zero s => cases s <;> rfl
  | finite s m e positive =>
    cases s <;> simp [Float.Model.UnpackedFloat.beq, Float.Model.UnpackedFloat.compare]

namespace Json.Reordered

theorem lookups {members others : List (String × Json)}
    (same : Reordered (.obj members) (.obj others)) (key : String) :
    Option.Rel Reordered (lookup key members) (lookup key others) :=
  lookup_related same.keys.mem_iff fun _ _ => same.member

theorem items {items others : List Json} (same : Reordered (.arr items) (.arr others)) :
    Forall₂ Reordered items others := by
  cases same with
  | refl => exact List.forall₂_same.mpr fun x _ => .refl x
  | arr length each => exact forall₂_of_each length each

theorem kind {d other : Json} (same : d.Reordered other) : d.kind = other.kind := by
  cases same <;> rfl

theorem symm {d other : Json} (same : d.Reordered other) : other.Reordered d := by
  induction same with
  | refl d => exact .refl d
  | arr length _ ih => exact .arr length.symm fun i x y here there => ih i y x there here
  | obj keys _ ih => exact .obj keys.symm fun key x y here there => ih key y x there here

/-- Documents that differ in the order of members are equal by value. -/
theorem equal {d other : Json} (same : d.Reordered other) (distinct : d.Distinct)
    (others : other.Distinct) (defined : d.Defined) : d.same other = true := by
  induction d using Json.by_parts generalizing other with
  | whole d items_ih members_ih =>
    cases d with
    | arr xs =>
      have kind := same.kind
      cases other with
      | arr ys =>
        refine same_arr_iff.mpr (forall₂_inside same.items ?_)
        intro x inside y other related
        exact items_ih x inside related (everywhere_items distinct inside)
          (everywhere_items others other) (everywhere_items defined inside)
      | _ => cases kind
    | obj members =>
      have kind := same.kind
      cases other with
      | obj more =>
        refine (same_obj_iff distinct.nodup others.nodup).mpr fun key =>
          rel_inside (same.lookups key) ?_
        intro x y here there related
        have member := mem_of_lookup here
        exact members_ih _ member related (everywhere_members distinct member)
          (everywhere_members others (mem_of_lookup there)) (everywhere_members defined member)
      | _ => cases kind
    | num x =>
      cases same
      have number : x.isNaN = false := by simpa [Defined, everywhere] using defined
      simp [Json.same, quantity?, Quantity.same, Double.beq_self number]
    | _ =>
      cases same
      simp [Json.same, quantity?, Quantity.same]

theorem same_step {d other : Json} (same : d.Reordered other) (s : Step) :
    d.same s.toJson = other.same s.toJson := by
  cases same with
  | refl => rfl
  | arr _ _ => cases s <;> rfl
  | obj _ _ => cases s <;> rfl

end Json.Reordered

/-! The same location is the same place. -/

namespace Path

theorem child_reordered {d other : Json} (same : d.Reordered other) (s : Step) :
    Option.Rel Json.Reordered (child d s) (child other s) := by
  have kind := same.kind
  cases d with
  | obj members =>
    cases other with
    | obj others =>
      cases s with
      | key k => exact same.lookups k
      | _ => exact .none
    | _ => cases kind
  | arr items =>
    cases other with
    | arr others =>
      cases s with
      | index i =>
        simp only [child]
        split
        · exact forall₂_getElem? same.items i.toNat
        · exact .none
      | _ => exact .none
    | _ => cases kind
  | _ =>
    cases same
    cases s <;> exact .none

theorem isContainer_reordered {d other : Json} (same : d.Reordered other) :
    isContainer d = isContainer other := by
  cases same <;> rfl

theorem isLabel_reordered {d other : Json} (same : d.Reordered other) (s next : Step) :
    isLabel d s next = isLabel other s next := by
  have kind := same.kind
  cases d with
  | obj members =>
    cases other with
    | obj others =>
      have tag : ((Json.lookup "type" members).getD .null).same s.toJson =
          ((Json.lookup "type" others).getD .null).same s.toJson := by
        have related := same.lookups "type"
        generalize Json.lookup "type" members = x at related ⊢
        generalize Json.lookup "type" others = y at related ⊢
        cases related with
        | some here => exact here.same_step s
        | none => rfl
      have onward : (child (.obj members) next).isSome = (child (.obj others) next).isSome := by
        have related := child_reordered same next
        generalize child (.obj members) next = x at related ⊢
        generalize child (.obj others) next = y at related ⊢
        cases related <;> rfl
      have related := child_reordered same s
      rw [isLabel, isLabel, tag, onward]
      generalize child (.obj members) s = x at related ⊢
      generalize child (.obj others) s = y at related ⊢
      cases related with
      | some here => simp only [isContainer_reordered here]
      | none => rfl
    | _ => cases kind
  | _ =>
    cases other with
    | obj others => cases kind
    | _ => rfl

theorem ofLocation_cons (here : Json) (s next : Step) (rest : List Step) :
    ofLocation here (s :: next :: rest) =
      if isLabel here s next then ofLocation here (next :: rest)
      else match child here s with
        | some value => s :: ofLocation value (next :: rest)
        | none => ofLocation here (next :: rest) := rfl

theorem ofLocation_reordered {d other : Json} (same : d.Reordered other) (location : List Step) :
    ofLocation d location = ofLocation other location := by
  induction location generalizing d other with
  | nil => rfl
  | cons s rest ih =>
    cases rest with
    | nil => rfl
    | cons next more =>
      have related := child_reordered same s
      rw [ofLocation_cons, ofLocation_cons, isLabel_reordered same, ih same]
      generalize child d s = x at related ⊢
      generalize child other s = y at related ⊢
      cases related with
      | some here => simp only [ih here]
      | none => rfl

end Path

/-! What both have wrong. -/

inductive IssueClass where
  | missingField
  | typeMismatch
  | unrecognisedVariant
  deriving DecidableEq, Repr

def Cause.issueClass : Cause → IssueClass
  | .missing | .untagged => .missingField
  | .mismatch _ _ => .typeMismatch
  | .unrecognised _ => .unrecognisedVariant

def Issue.classified (i : Issue) : IssueClass × Path :=
  (i.cause.issueClass, i.path)

/-- What the class and the path of an issue are made of before it is placed. -/
def Issue.outline (i : Issue) : List Step × Path × IssueClass :=
  (i.path, i.cause.beyond, i.cause.issueClass)

namespace Reading

def outlines {α : Type} (r : Except Issues α) : List (List Step × Path × IssueClass) :=
  (issues r).map Issue.outline

theorem outlines_under (s : Step) (r : Reading) :
    outlines (r.under s) = (outlines r).map fun o => (s :: o.1, o.2) := by
  rw [outlines, issues_under, outlines, List.map_map, List.map_map]
  rfl

theorem outlines_map {α β : Type} (f : α → β) (r : Except Issues α) :
    outlines (r.map f) = outlines r := by
  rw [outlines, issues_map, outlines]

theorem outlines_collect (rs : List Reading) : outlines (collect rs) = rs.flatMap outlines := by
  rw [outlines, issues_collect, List.map_flatMap]
  rfl

end Reading

open Reading (outlines outlines_under outlines_map outlines_collect)

/-- Lists made of the members of two tables are the same up to order if those of the members under
each key are. -/
theorem flatMap_perm_of_keys {α : Type} {members others : List (String × Json)}
    {f g : String × Json → List α} (distinct : (members.map (·.1)).Nodup)
    (others_distinct : (others.map (·.1)).Nodup)
    (keys : (members.map (·.1)).Perm (others.map (·.1)))
    (each : ∀ key x y, Json.lookup key members = some x → Json.lookup key others = some y →
      (f (key, x)).Perm (g (key, y))) : (members.flatMap f).Perm (others.flatMap g) := by
  -- Both are lists over the keys, with what is found under each.
  have here : members.flatMap f =
      (members.map (·.1)).flatMap fun key =>
        ((Json.lookup key members).map fun x => f (key, x)).getD [] := by
    rw [List.flatMap_map]
    exact List.flatMap_congr fun m inside => by simp [Json.lookup_of_mem distinct inside]
  have there : others.flatMap g =
      (others.map (·.1)).flatMap fun key =>
        ((Json.lookup key others).map fun y => g (key, y)).getD [] := by
    rw [List.flatMap_map]
    exact List.flatMap_congr fun m inside => by simp [Json.lookup_of_mem others_distinct inside]
  rw [here, there]
  refine keys.flatMap fun key inside => ?_
  obtain ⟨x, found⟩ := Json.exists_lookup inside
  obtain ⟨y, other⟩ := Json.exists_lookup (keys.mem_iff.mp inside)
  rw [found, other]
  exact each key x y found other

theorem outlines_items {item : Shape} {items others : List Json}
    (each : Forall₂ (fun x y => (outlines (readShape x item)).Perm (outlines (readShape y item)))
      items others)
    (start : Nat) : ((readItemsFrom start item (itemParts items)).flatMap outlines).Perm
      ((readItemsFrom start item (itemParts others)).flatMap outlines) := by
  induction each generalizing start with
  | nil => exact .refl _
  | cons here _ ih =>
    simp only [itemParts_cons, readItemsFrom_cons, List.flatMap_cons, outlines_under]
    exact (here.map _).append (ih (start + 1))

section Objects

variable {members others : List (String × Json)} (same : (Json.obj members).Reordered (.obj others))

include same

theorem outlines_field {f : Field}
    (each : ∀ x y, Json.lookup f.name members = some x → Json.lookup f.name others = some y →
      (outlines (readShape x f.shape)).Perm (outlines (readShape y f.shape))) :
    (outlines (readField (memberParts members) f)).Perm
      (outlines (readField (memberParts others) f)) := by
  have related := same.lookups f.name
  cases here : Json.lookup f.name members with
  | none =>
    cases there : Json.lookup f.name others with
    | none => rw [readField_none here, readField_none there]
    | some y => rw [here, there] at related; contradiction
  | some x =>
    cases there : Json.lookup f.name others with
    | none => rw [here, there] at related; contradiction
    | some y =>
      have kind := (same.member here there).kind
      by_cases skipped : f.skips x
      · have other : f.skips y := ⟨skipped.1, kind ▸ skipped.2⟩
        rw [readField_skipped here skipped, readField_skipped there other]
      · have other : ¬ f.skips y := fun skips => skipped ⟨skips.1, kind ▸ skips.2⟩
        rw [readField_given here skipped, readField_given there other, outlines_under,
          outlines_under]
        exact (each x y here there).map _

theorem outlines_undeclared (r : Record) :
    ((undeclared r (memberParts members)).map Issue.outline).Perm
      ((undeclared r (memberParts others)).map Issue.outline) := by
  have by_keys : ∀ members : List (String × Json),
      (undeclared r (memberParts members)).map Issue.outline =
        ((members.map (·.1)).filter fun k => !r.fields.any (·.name = k)).map fun k =>
          ([.key k], [], .typeMismatch) := by
    intro members
    rw [undeclared, memberParts_eq, List.filter_map, List.map_map, List.map_map, List.filter_map,
      List.map_map]
    rfl
  rw [by_keys, by_keys]
  exact (same.keys.filter _).map _

theorem outlines_record {r : Record}
    (each : ∀ f ∈ r.fields, ∀ x y, Json.lookup f.name members = some x →
      Json.lookup f.name others = some y →
      (outlines (readShape x f.shape)).Perm (outlines (readShape y f.shape))) :
    (outlines (readShape (.obj members) (.record r))).Perm
      (outlines (readShape (.obj others) (.record r))) := by
  rw [readShape_record, readShape_record, outlines, outlines, Reading.issues_readRecord,
    Reading.issues_readRecord, List.map_append, List.map_append, List.map_flatMap, List.map_flatMap]
  refine List.Perm.append (List.Perm.flatMap_left _ fun f declared => ?_) ?_
  · exact outlines_field same (each f declared)
  · cases r.closed
    · exact .refl _
    · exact outlines_undeclared same r

/-- The label is the same, and with it the variant. -/
theorem outlines_tagged {variants : List Record}
    (each : ∀ r ∈ variants, (outlines (readShape (.obj members) (.record r))).Perm
      (outlines (readShape (.obj others) (.record r)))) :
    (outlines (readShape (.obj members) (.tagged variants))).Perm
      (outlines (readShape (.obj others) (.tagged variants))) := by
  have related := same.lookups "type"
  rw [readShape_tagged, readShape_tagged]
  generalize Json.lookup "type" members = x at related ⊢
  generalize Json.lookup "type" others = y at related ⊢
  cases related with
  | none => exact .refl _
  | @some label _ tag =>
    cases tag with
    | refl =>
      cases label with
      | str label =>
        dsimp only
        cases found : variantOf label variants with
        | none => exact .refl _
        | some r =>
          dsimp only
          rw [outlines_under, outlines_under]
          exact (each r (List.mem_of_find?_eq_some found)).map _
      | _ => exact .refl _
    | _ => exact .refl _

end Objects

/-- A union that fails has one issue, whatever the issues of its shapes. -/
theorem outlines_either {first second : Shape} {d : Json} :
    outlines (readShape d (.either first second)) =
      if outlines (readShape d first) = [] ∨ outlines (readShape d second) = [] then []
      else [([], [], .unrecognisedVariant)] := by
  have fails : ∀ is : Issues, outlines (.error is : Reading) ≠ [] := fun is => List.cons_ne_nil _ _
  rw [readShape_either]
  cases readShape d first with
  | ok v => exact (if_pos (.inl rfl)).symm
  | error is =>
    cases readShape d second with
    | ok v => exact (if_pos (.inr rfl)).symm
    | error more => exact (if_neg (by simp [fails])).symm

theorem outlines_list {item : Shape} {items : List Json} :
    outlines (readShape (.arr items) (.list item)) =
      (readItemsFrom 0 item (itemParts items)).flatMap outlines := by
  rw [← outlines_collect]
  exact outlines_map Value.list _

theorem outlines_names {items : List Json} : outlines (readShape (.arr items) .names) =
    (readItemsFrom 0 .text (itemParts items)).flatMap outlines ++
      if items.any (·.kind == .string) then [] else [([], [], .typeMismatch)] := by
  show (Reading.issues (readNames (.arr items) _)).map Issue.outline = _
  rw [Reading.issues_readNames, List.map_append, List.map_flatMap, any_text]
  split <;> rfl

theorem outlines_entries {value : Shape} {members : List (String × Json)} :
    outlines (readShape (.obj members) (.map value)) =
      members.flatMap fun m =>
        (outlines (readShape m.2 value)).map fun o => (.key m.1 :: o.1, o.2) := by
  rw [readShape_eq]
  simp only [readWith, Json.members, outlines_map, outlines_collect, memberParts_eq, List.map_map,
    List.flatMap_map]
  exact List.flatMap_congr fun m _ => outlines_under _ _

theorem perm_nil_iff {α : Type} {l u : List α} (same : l.Perm u) : l = [] ↔ u = [] := by
  rw [← List.perm_nil, ← List.perm_nil]
  exact ⟨same.symm.trans, same.trans⟩

/-- Documents that differ in the order of members have the same issues up to their order. -/
theorem outlines_reordered {s : Shape} {d other : Json} (same : d.Reordered other)
    (distinct : d.Distinct) (others : other.Distinct) :
    (outlines (readShape d s)).Perm (outlines (readShape other s)) := by
  induction s, d using Shape.descend generalizing other with
  | json d =>
    rw [read_json, read_json]
    exact .refl _
  | names d =>
    cases same with
    | @arr items more length each =>
      have parts := forall₂_of_each length each
      have kinds : more.map Json.kind = items.map Json.kind :=
        map_eq_of_forall₂ parts fun _ _ _ related => related.kind.symm
      have texts : more.any (·.kind == .string) = items.any (·.kind == .string) := by
        have tests := congrArg (List.any · (· == .string)) kinds
        rwa [List.any_map, List.any_map] at tests
      rw [outlines_names, outlines_names, texts]
      refine (outlines_items (parts.imp fun x y related => ?_) 0).append (.refl _)
      cases related <;> exact .refl _
    | _ => exact .refl _
  | list item d ih =>
    cases same with
    | arr length each =>
      rw [outlines_list, outlines_list]
      refine outlines_items (forall₂_inside (forall₂_of_each length each) ?_) 0
      intro x inside y there related
      exact ih x inside related (Json.everywhere_items distinct inside)
        (Json.everywhere_items others there)
    | _ => exact .refl _
  | map value d ih =>
    cases same with
    | obj keys each =>
      rw [outlines_entries, outlines_entries]
      refine flatMap_perm_of_keys distinct.nodup others.nodup keys fun key x y here there => ?_
      have member := Json.mem_of_lookup here
      refine (ih _ member (each key x y here there) ?_ ?_).map _
      · exact Json.everywhere_members distinct member
      · exact Json.everywhere_members others (Json.mem_of_lookup there)
    | _ => exact .refl _
  | record r d ih =>
    cases same with
    | obj keys each =>
      refine outlines_record (.obj keys each) fun f declared x y here there => ?_
      refine ih f declared x here (each _ x y here there) ?_ ?_
      · exact Json.everywhere_members distinct (Json.mem_of_lookup here)
      · exact Json.everywhere_members others (Json.mem_of_lookup there)
    | _ => exact .refl _
  | tagged variants d ih =>
    cases same with
    | obj keys each =>
      have same := Json.Reordered.obj keys each
      exact outlines_tagged same fun r variant => ih r variant same distinct others
    | _ => exact .refl _
  | either first second d first_ih second_ih =>
    have one := perm_nil_iff (first_ih same distinct others)
    have two := perm_nil_iff (second_ih same distinct others)
    rw [outlines_either, outlines_either]
    simp only [one, two]
    exact .refl _
  | _ => cases same <;> exact .refl _

/-- Reordered documents report issues of the same classes at the same paths. -/
theorem classified_reordered {s : Shape} {d other : Json} (same : d.Reordered other)
    (distinct : d.Distinct) (others : other.Distinct) :
    ((Reading.issues (readShape d s)).map fun i => (i.placed d).classified).Perm
      ((Reading.issues (readShape other s)).map fun i => (i.placed other).classified) := by
  have placed : ∀ (d : Json) (r : Reading),
      (Reading.issues r).map (fun i => (i.placed d).classified) =
        (outlines r).map fun o => (o.2.2, Path.ofLocation d o.1 ++ o.2.1) := by
    intro d r
    rw [outlines, List.map_map]
    rfl
  rw [placed, placed]
  simp only [Path.ofLocation_reordered same]
  exact (outlines_reordered same distinct others).map _

end AgentWire
