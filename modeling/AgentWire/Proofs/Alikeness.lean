import AgentWire.Proofs.Rearranging

/-! Members that are passed over. Records that are not closed read their declared fields alone, so
documents may differ in other members there, and everywhere in the order of members. Such documents
are both accepted, with equal values, or both refused; if only the order differs, with issues of the
same classes at the same paths. -/
namespace AgentWire

open List (Forall₂)

/-- Documents that differ, at a shape, in the order of members and in what is passed over: in the
members that a record does not declare, if it is not closed. Where nothing is read as a record, only
the order of members differs. -/
inductive Alike : Shape → Json → Json → Prop where
  | reordered {s : Shape} {d other : Json} (same : d.Reordered other) : Alike s d other
  /-- An object is refused here whatever its members are. -/
  | unread {s : Shape} {members others : List (String × Json)} (leaf : s.isLeaf = true) :
      Alike s (.obj members) (.obj others)
  | list {item : Shape} {items others : List Json} (length : items.length = others.length)
      (each : ∀ (i : Nat) x y, items[i]? = some x → others[i]? = some y → Alike item x y) :
      Alike (.list item) (.arr items) (.arr others)
  | map {value : Shape} {members others : List (String × Json)}
      (keys : (members.map (·.1)).Perm (others.map (·.1)))
      (each : ∀ key x y, Json.lookup key members = some x → Json.lookup key others = some y →
        Alike value x y) :
      Alike (.map value) (.obj members) (.obj others)
  | record {r : Record} {members others : List (String × Json)}
      (declared : ∀ f ∈ r.fields, (f.name ∈ members.map (·.1) ↔ f.name ∈ others.map (·.1)))
      (each : ∀ f ∈ r.fields, ∀ x y, Json.lookup f.name members = some x →
        Json.lookup f.name others = some y →
        Alike f.shape x y)
      (closed : r.closed = true → (members.map (·.1)).Perm (others.map (·.1))) :
      Alike (.record r) (.obj members) (.obj others)
  | tagged {variants : List Record} {members others : List (String × Json)}
      (declared : "type" ∈ members.map (·.1) ↔ "type" ∈ others.map (·.1))
      (tags : ∀ x y, Json.lookup "type" members = some x →
        Json.lookup "type" others = some y → x.Reordered y)
      (variant : ∀ r ∈ variants, ∀ label, r.label? = some label →
        Json.lookup "type" members = some (.str label) →
        Alike (.record r) (.obj members) (.obj others)) :
      Alike (.tagged variants) (.obj members) (.obj others)
  | either {first second : Shape} {d other : Json} (one : Alike first d other)
      (two : Alike second d other) :
      Alike (.either first second) d other

namespace Alike

theorem kind {s : Shape} {d other : Json} (alike : Alike s d other) : d.kind = other.kind := by
  induction alike with
  | reordered same => exact same.kind
  | either _ _ one_ih _ => exact one_ih
  | unread | list | map | record | tagged => rfl

theorem label {members others : List (String × Json)} {label : String}
    (declared : "type" ∈ members.map (·.1) ↔ "type" ∈ others.map (·.1))
    (tags : ∀ x y, Json.lookup "type" members = some x →
      Json.lookup "type" others = some y → x.Reordered y)
    (tag : Json.lookup "type" members = some (.str label)) :
    Json.lookup "type" others = some (.str label) := by
  obtain ⟨y, there⟩ :=
    Json.exists_lookup (declared.mp (List.mem_map_of_mem (Json.mem_of_lookup tag)))
  cases tags _ y tag there
  exact there

theorem symm {s : Shape} {d other : Json} (alike : Alike s d other) : Alike s other d := by
  induction alike with
  | reordered same => exact .reordered same.symm
  | unread leaf => exact .unread leaf
  | list length _ ih => exact .list length.symm fun i x y here there => ih i y x there here
  | map keys _ ih => exact .map keys.symm fun key x y here there => ih key y x there here
  | record declared _ closed ih =>
    refine .record (fun f member => (declared f member).symm) ?_ fun sealed => (closed sealed).symm
    exact fun f member x y here there => ih f member y x there here
  | tagged declared tags _ ih =>
    refine .tagged declared.symm (fun x y here there => (tags y x there here).symm) ?_
    intro r member label named tag
    exact ih r member label named
      (Alike.label declared.symm (fun x y here there => (tags y x there here).symm) tag)
  | either _ _ one_ih two_ih => exact .either one_ih two_ih

/-- A member that is not declared makes no difference to a record that is not closed. -/
theorem added {r : Record} {members : List (String × Json)} {m : String × Json}
    (loose : r.closed = false) (undeclared : m.1 ∉ r.fields.map (·.name)) :
    Alike (.record r) (.obj members) (.obj (m :: members)) := by
  have other : ∀ f ∈ r.fields, m.1 ≠ f.name := by
    intro f member same
    exact undeclared (List.mem_map.mpr ⟨f, member, same.symm⟩)
  refine .record (fun f member => ?_) (fun f member x y here there => ?_) fun closed => ?_
  · rw [List.map_cons, List.mem_cons, or_iff_right (other f member).symm]
  · rw [Json.lookup_cons, if_neg (other f member), here] at there
    cases there
    exact .reordered (.refl x)
  · rw [loose] at closed
    contradiction

/-! What two alike documents have in common, shape by shape. -/

theorem exists_items {s : Shape} {items : List Json} {other : Json}
    (alike : Alike s (.arr items) other) :
    ∃ others, other = .arr others := by
  have kind := alike.kind
  cases other with
  | arr others => exact ⟨others, rfl⟩
  | _ => cases kind

theorem exists_members {s : Shape} {members : List (String × Json)} {other : Json}
    (alike : Alike s (.obj members) other) : ∃ others, other = .obj others := by
  have kind := alike.kind
  cases other with
  | obj others => exact ⟨others, rfl⟩
  | _ => cases kind

theorem items {item : Shape} {items others : List Json}
    (alike : Alike (.list item) (.arr items) (.arr others)) :
    Forall₂ (Alike item) items others := by
  cases alike with
  | reordered same => exact same.items.imp fun _ _ => .reordered
  | list length each => exact forall₂_of_each length each

section Objects

variable {members others : List (String × Json)}

theorem entries {value : Shape} (alike : Alike (.map value) (.obj members) (.obj others))
    (key : String) :
    Option.Rel (Alike value) (Json.lookup key members) (Json.lookup key others) := by
  cases alike with
  | reordered same => exact rel_inside (same.lookups key) fun _ _ _ _ => .reordered
  | unread leaf => cases leaf
  | map keys each => exact Json.lookup_related keys.mem_iff (each key)

theorem fields {r : Record} (alike : Alike (.record r) (.obj members) (.obj others)) {f : Field}
    (member : f ∈ r.fields) :
    Option.Rel (Alike f.shape) (Json.lookup f.name members) (Json.lookup f.name others) := by
  cases alike with
  | reordered same => exact rel_inside (same.lookups f.name) fun _ _ _ _ => .reordered
  | unread leaf => cases leaf
  | record declared each _ => exact Json.lookup_related (declared f member) (each f member)

theorem keys {r : Record} (alike : Alike (.record r) (.obj members) (.obj others))
    (closed : r.closed = true) :
    (members.map (·.1)).Perm (others.map (·.1)) := by
  cases alike with
  | reordered same => exact same.keys
  | unread leaf => cases leaf
  | record _ _ keys => exact keys closed

theorem variant {variants : List Record} {r : Record} {label : String}
    (alike : Alike (.tagged variants) (.obj members) (.obj others)) (member : r ∈ variants)
    (named : r.label? = some label) (tag : Json.lookup "type" members = some (.str label)) :
    Alike (.record r) (.obj members) (.obj others) ∧
      Json.lookup "type" others = some (.str label) := by
  cases alike with
  | reordered same =>
    exact ⟨.reordered same, Alike.label same.keys.mem_iff (fun _ _ => same.member) tag⟩
  | unread leaf => cases leaf
  | tagged declared tags each =>
    exact ⟨each r member label named tag, Alike.label declared tags tag⟩

end Objects

theorem first {one two : Shape} {d other : Json} (alike : Alike (.either one two) d other) :
    Alike one d other := by
  cases alike with
  | reordered same => exact .reordered same
  | unread leaf => cases leaf
  | either here _ => exact here

theorem second {one two : Shape} {d other : Json} (alike : Alike (.either one two) d other) :
    Alike two d other := by
  cases alike with
  | reordered same => exact .reordered same
  | unread leaf => cases leaf
  | either _ here => exact here

theorem kept {d other : Json} (alike : Alike .json d other) : d.Reordered other := by
  cases alike with
  | reordered same => exact same
  | unread leaf => cases leaf

theorem leaf {s : Shape} {d other : Json} (alike : Alike s d other) (leaf : s.isLeaf = true)
    (scalar : d.kind ≠ .object) : d.Reordered other := by
  cases alike with
  | reordered same => exact same
  | unread _ => exact absurd rfl scalar
  | _ => cases leaf

end Alike

/-! Alike documents are accepted together. -/

theorem belongs_of_alike {s : Shape} {d other : Json} (belongs : Belongs s d)
    (others : other.Distinct) (alike : Alike s d other) : Belongs s other := by
  induction belongs generalizing other with
  | json d => exact .json other
  | names some texts =>
    obtain ⟨more, rfl⟩ := alike.exists_items
    have parts := (alike.leaf rfl (by simp [Json.kind])).items
    refine .names ?_ fun y inside => ?_
    · rintro rfl
      cases parts
      exact some rfl
    · obtain ⟨x, there, related⟩ := forall₂_partner parts.flip inside
      have text := texts x there
      cases text
      cases related
      exact .text _
  | list each ih =>
    obtain ⟨more, rfl⟩ := alike.exists_items
    refine .list fun y inside => ?_
    obtain ⟨x, there, related⟩ := forall₂_partner alike.items.flip inside
    exact ih x there (Json.everywhere_items others inside) related
  | map each ih =>
    obtain ⟨more, rfl⟩ := alike.exists_members
    refine .map fun m inside => ?_
    have found := Json.lookup_of_mem others.nodup inside
    obtain ⟨x, there, related⟩ := exists_of_rel_some (found ▸ alike.entries m.1)
    exact ih _ (Json.mem_of_lookup there) (Json.everywhere_members others inside) related
  | record required given declared ih =>
    obtain ⟨more, rfl⟩ := alike.exists_members
    refine .record (fun f member need => ?_) (fun f member y found kept => ?_)
      fun closed m inside => ?_
    · obtain ⟨x, there⟩ := Json.exists_lookup (required f member need)
      obtain ⟨y, found, _⟩ := exists_of_some_rel (there ▸ alike.fields member)
      exact List.mem_map_of_mem (Json.mem_of_lookup found)
    · obtain ⟨x, there, related⟩ := exists_of_rel_some (found ▸ alike.fields member)
      have real : ¬ f.skips x := fun skips => kept ⟨skips.1, related.kind ▸ skips.2⟩
      exact ih f member x there real
        (Json.everywhere_members others (Json.mem_of_lookup found)) related
    · have named := (alike.keys closed).mem_iff.mpr (List.mem_map_of_mem inside)
      obtain ⟨n, member, same⟩ := List.mem_map.mp named
      exact same ▸ declared closed n member
  | tagged variant named tag fits ih =>
    obtain ⟨more, rfl⟩ := alike.exists_members
    obtain ⟨record, there⟩ := alike.variant variant named tag
    exact .tagged variant named there (ih others record)
  | first fits ih => exact .first (ih others alike.first)
  | second fits ih => exact .second (ih others alike.second)
  | natural lower upper =>
    cases alike.leaf rfl (by simp [Json.kind])
    exact .natural lower upper
  | choice known =>
    cases alike.leaf rfl (by simp [Json.kind])
    exact .choice known
  | _ =>
    cases alike.leaf rfl (by simp [Json.kind])
    constructor

theorem belongs_iff_of_alike {s : Shape} {d other : Json} (distinct : d.Distinct)
    (others : other.Distinct) (alike : Alike s d other) : Belongs s d ↔ Belongs s other :=
  ⟨fun belongs => belongs_of_alike belongs others alike,
    fun belongs => belongs_of_alike belongs distinct alike.symm⟩

/-! And their values are equal. -/

/-- Fields that are given alike have equal values if these are equal wherever they are read. -/
theorem same_of_fields {R : Json → Json → Prop} {members others : List (String × Json)} {f : Field}
    {v w : Value} (here : FieldReads members f v) (there : FieldReads others f w)
    (related : Option.Rel R (Json.lookup f.name members) (Json.lookup f.name others))
    (kinds : ∀ x y, R x y → x.kind = y.kind)
    (each : ∀ x y, Json.lookup f.name members = some x →
      Json.lookup f.name others = some y → R x y →
      readShape x f.shape = .ok v → readShape y f.shape = .ok w → v.same w = true) :
    v.same w = true := by
  generalize found : Json.lookup f.name members = x at related
  generalize other : Json.lookup f.name others = y at related
  cases related with
  | none =>
    have implied : f.shape.impliedValue.same f.shape.impliedValue = true := by
      cases f.shape <;> simp [Shape.impliedValue, Value.same]
    have one := readField_eq_ok_iff.mpr here
    have two := readField_eq_ok_iff.mpr there
    rw [readField_none found] at one
    rw [readField_none other] at two
    cases one.symm.trans two
    cases here with
    | omitted _ _ => rfl
    | implied _ _ => exact implied
    | skipped given _ => cases found.symm.trans given
    | given given _ _ => cases found.symm.trans given
  | @some x y related =>
    by_cases skipped : f.skips x
    · have skips : f.skips y := ⟨skipped.1, kinds x y related ▸ skipped.2⟩
      cases (readField_skipped found skipped).symm.trans (readField_eq_ok_iff.mpr here)
      cases (readField_skipped other skips).symm.trans (readField_eq_ok_iff.mpr there)
      rfl
    · have kept : ¬ f.skips y := fun skips => skipped ⟨skips.1, kinds x y related ▸ skips.2⟩
      exact each x y found other related (here.read found skipped) (there.read other kept)

theorem same_of_alike {s : Shape} {d other : Json} {v w : Value} (separated : s.separated = true)
    (distinct : d.Distinct) (others : other.Distinct) (defined : d.Defined)
    (alike : Alike s d other) (reads : readShape d s = .ok v)
    (other_reads : readShape other s = .ok w) : v.same w = true := by
  induction s, d using Shape.descend generalizing other v w with
  | json d =>
    cases read_json.symm.trans reads
    cases read_json.symm.trans other_reads
    exact alike.kept.equal distinct others defined
  | list item d ih =>
    obtain ⟨items, vs, rfl, rfl, all⟩ := read_list_iff.mp reads
    obtain ⟨more, ws, rfl, rfl, all_others⟩ := read_list_iff.mp other_reads
    refine (same_items_iff all all_others).mpr (forall₂_inside alike.items ?_)
    intro x inside y there related v w here found
    exact ih x inside separated (Json.everywhere_items distinct inside)
      (Json.everywhere_items others there) (Json.everywhere_items defined inside) related here found
  | map value d ih =>
    obtain ⟨members, entries, rfl, rfl, all⟩ := read_map_iff.mp reads
    obtain ⟨more, more_entries, rfl, rfl, all_others⟩ := read_map_iff.mp other_reads
    refine (same_entries_iff all all_others distinct.nodup others.nodup).mpr fun key => ?_
    refine rel_inside (alike.entries key) fun x y found other related v w here there => ?_
    have inside := Json.mem_of_lookup found
    exact ih _ inside separated (Json.everywhere_members distinct inside)
      (Json.everywhere_members others (Json.mem_of_lookup other))
      (Json.everywhere_members defined inside) related here there
  | record r d ih =>
    obtain ⟨members, entries, rfl, rfl, all, _⟩ := read_record_iff.mp reads
    obtain ⟨more, more_entries, rfl, rfl, all_others, _⟩ := read_record_iff.mp other_reads
    refine (same_fields_iff all all_others).mpr fun f member v w here there => ?_
    refine same_of_fields here there (alike.fields member) (fun _ _ related => related.kind) ?_
    intro x y found other related inner other_inner
    have inside := Json.mem_of_lookup found
    exact ih f member x found (Record.fields_separated member)
      (Json.everywhere_members distinct inside)
      (Json.everywhere_members others (Json.mem_of_lookup other))
      (Json.everywhere_members defined inside) related inner other_inner
  | tagged variants d ih =>
    obtain ⟨label, r, tag, found, inner⟩ := read_tagged_iff.mp reads
    obtain ⟨member, named⟩ := variantOf_eq_some found
    obtain ⟨members, _, rfl, _⟩ := read_record_iff.mp inner
    obtain ⟨more, rfl⟩ := alike.exists_members
    obtain ⟨record, there⟩ := alike.variant member named tag
    obtain ⟨_, q, other_tag, other_found, other_inner⟩ := read_tagged_iff.mp other_reads
    cases there.symm.trans other_tag
    cases found.symm.trans other_found
    exact ih r member rfl distinct others defined record inner other_inner
  | either first second d first_ih second_ih =>
    simp only [Shape.separated, Bool.and_eq_true] at separated
    have together := belongs_iff_of_alike distinct others alike.first
    rw [← read_iff_belongs separated.1.1, ← read_iff_belongs separated.1.1] at together
    rcases read_either_iff.mp reads with here | ⟨none, here⟩
    · rcases read_either_iff.mp other_reads with there | ⟨no_other, _⟩
      · exact first_ih separated.1.1 distinct others defined alike.first here there
      · obtain ⟨w, there⟩ := together.mp ⟨v, here⟩
        exact absurd there (no_other w)
    · rcases read_either_iff.mp other_reads with there | ⟨_, there⟩
      · obtain ⟨v, first⟩ := together.mpr ⟨w, there⟩
        exact absurd first (none v)
      · exact second_ih separated.1.2 distinct others defined alike.second here there
  | _ =>
    rw [same_leaf_iff rfl reads other_reads]
    refine (alike.leaf rfl ?_).equal distinct others defined
    cases belongs_of_read reads
    all_goals simp [Json.kind]

/-- Documents that are alike at a type are both accepted, with equal values, or both refused. If
only the order of members differs, both refusals have issues of the same classes at the same
paths. -/
theorem decode_alike (t : WireType) (d other : Json) (distinct : d.Distinct)
    (others : other.Distinct) (alike : Alike t.shape d other) :
    (∃ v w, decode t.shape d = .ok v ∧ decode t.shape other = .ok w ∧
      (d.Defined → v.same w = true)) ∨
    ∃ is more, decode t.shape d = .error (.invalid is) ∧
      decode t.shape other = .error (.invalid more) ∧
      (d.Reordered other →
        (is.toList.map Issue.classified).Perm (more.toList.map Issue.classified)) := by
  have together := belongs_iff_of_alike distinct others alike
  rw [← read_iff_belongs t.separated, ← read_iff_belongs t.separated] at together
  simp only [decode_eq_ok_iff]
  cases here : readShape d t.shape with
  | ok v =>
    obtain ⟨w, there⟩ := together.mp ⟨v, here⟩
    exact .inl ⟨v, w, rfl, there,
      fun defined => same_of_alike t.separated distinct others defined alike here there⟩
  | error is =>
    cases there : readShape other t.shape with
    | ok w =>
      obtain ⟨v, reads⟩ := together.mpr ⟨w, there⟩
      cases here.symm.trans reads
    | error more =>
      refine .inr ⟨is.map (Issue.placed d), more.map (Issue.placed other), ?_, ?_, fun same => ?_⟩
      · rw [decode, here]
      · rw [decode, there]
      · have classes := classified_reordered (s := t.shape) same distinct others
        rw [here, there] at classes
        show ((is.toList.map (Issue.placed d)).map Issue.classified).Perm
          ((more.toList.map (Issue.placed other)).map Issue.classified)
        rwa [List.map_map, List.map_map]

/-- A relationship with a remark in its target, and the same one in another order with a remark of
its own. -/
def remarkedTarget : Json :=
  .obj [("target", .obj [("note", .null), ("type", .str "table"), ("name", .arr [.str "Artist"])]),
    ("relationship_type", .str "object"), ("column_mapping", .obj [("ArtistId", .str "Id")])]

def remarkedRelationship : Json :=
  .obj [("column_mapping", .obj [("ArtistId", .str "Id")]), ("note", .int 1),
    ("relationship_type", .str "object"),
    ("target", .obj [("type", .str "table"), ("name", .arr [.str "Artist"])])]

theorem decode_alike_remarked :
    remarkedTarget.Distinct ∧ remarkedRelationship.Distinct ∧
      Alike (.record .relationship) remarkedTarget remarkedRelationship ∧
      ∃ v w, decode (.record .relationship) remarkedTarget = .ok v ∧
        decode (.record .relationship) remarkedRelationship = .ok w ∧ v.same w = true := by
  have distinct : remarkedTarget.Distinct := by decide
  have others : remarkedRelationship.Distinct := by decide
  have table : Alike (.record .tableTarget)
      (.obj [("note", .null), ("type", .str "table"), ("name", .arr [.str "Artist"])])
      (.obj [("type", .str "table"), ("name", .arr [.str "Artist"])]) :=
    (Alike.added rfl (by decide)).symm
  have target : Alike Alias.target.shape
      (.obj [("note", .null), ("type", .str "table"), ("name", .arr [.str "Artist"])])
      (.obj [("type", .str "table"), ("name", .arr [.str "Artist"])]) := by
    refine .tagged (by decide) (fun x y here there => ?_) fun r member label named tag => ?_
    · cases here
      cases there
      exact .refl _
    · cases tag
      have found := variantOf_of_mem (by decide) member named
      cases found
      exact table
  have alike : Alike (.record .relationship) remarkedTarget remarkedRelationship := by
    refine .record (by decide) (fun f member x y here there => ?_) (by decide)
    rcases List.mem_cons.mp member with rfl | later
    · cases here
      cases there
      exact .reordered (.refl _)
    · rcases List.mem_pair.mp later with rfl | rfl
      · cases here
        cases there
        exact .reordered (.refl _)
      · cases here
        cases there
        exact target
  refine ⟨distinct, others, alike, ?_⟩
  have outcome := decode_alike (.record .relationship) _ _ distinct others alike
  rcases outcome with ⟨v, w, here, there, same⟩ | ⟨_, _, fails, _⟩
  · exact ⟨v, w, here, there, same (by decide)⟩
  · cases fails

end AgentWire
