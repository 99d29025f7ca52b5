import AgentWire.Json.Value

/-! Documents and their parts. An object is a list of members here, so that its keys differ is a
property of its own; documents that come from a text or a dictionary have it. -/
namespace AgentWire

/-! What a computation that may fail succeeds with. -/

theorem map_eq_ok_iff {ε α β : Type} {f : α → β} {x : Except ε α} {b : β} :
    x.map f = .ok b ↔ ∃ a, x = .ok a ∧ b = f a := by
  cases x <;> simp [Except.map, eq_comm]

theorem bind_eq_ok_iff {ε α β : Type} {x : Except ε α} {f : α → Except ε β} {b : β} :
    x >>= f = .ok b ↔ ∃ a, x = .ok a ∧ f a = .ok b := by
  cases x with
  | error e => exact iff_of_false (fun same => by cases same) (fun ⟨_, same, _⟩ => by cases same)
  | ok a => exact ⟨fun same => ⟨a, rfl, same⟩, fun ⟨_, rfl, same⟩ => same⟩

namespace Json

def items : Json → List Json
  | .arr items => items
  | _ => []

def members : Json → List (String × Json)
  | .obj members => members
  | _ => []

theorem sizeOf_item {x d : Json} (inside : x ∈ d.items) : sizeOf x < sizeOf d := by
  cases d with
  | arr items =>
    have smaller := List.sizeOf_lt_of_mem (show x ∈ items from inside)
    rw [arr.sizeOf_spec]
    omega
  | _ => cases inside

theorem sizeOf_member {m : String × Json} {d : Json} (inside : m ∈ d.members) :
    sizeOf m.2 < sizeOf d := by
  cases d with
  | obj members =>
    have smaller := List.sizeOf_lt_of_mem (show m ∈ members from inside)
    have pair : sizeOf m = 1 + sizeOf m.1 + sizeOf m.2 := rfl
    rw [obj.sizeOf_spec]
    omega
  | _ => cases inside

/-- What passes from the parts of every document to the whole holds of every document. -/
@[elab_as_elim]
theorem by_parts {motive : Json → Prop}
    (whole : ∀ d, (∀ x ∈ d.items, motive x) → (∀ m ∈ d.members, motive m.2) → motive d) (d : Json) :
    motive d :=
  whole d (fun x _ => by_parts whole x) (fun m _ => by_parts whole m.2)
termination_by sizeOf d
decreasing_by
  · exact sizeOf_item ‹_›
  · exact sizeOf_member ‹_›

theorem lookup_cons (key : String) (m : String × Json) (rest : List (String × Json)) :
    lookup key (m :: rest) = if m.1 = key then some m.2 else lookup key rest := rfl

theorem mem_of_lookup {key : String} {x : Json} {members : List (String × Json)}
    (found : lookup key members = some x) : (key, x) ∈ members := by
  induction members with
  | nil => cases found
  | cons m rest ih =>
    rw [lookup_cons] at found
    split at found
    · rename_i here
      cases found
      subst here
      exact List.mem_cons_self
    · exact List.mem_cons_of_mem _ (ih found)

theorem lookup_eq_none_iff {key : String} {members : List (String × Json)} :
    lookup key members = none ↔ key ∉ members.map (·.1) := by
  induction members with
  | nil => exact iff_of_true rfl List.not_mem_nil
  | cons m rest ih =>
    rw [lookup_cons]
    by_cases here : m.1 = key
    · simp [here]
    · simp [here, ih, Ne.symm here]

theorem exists_lookup {key : String} {members : List (String × Json)}
    (named : key ∈ members.map (·.1)) :
    ∃ x, lookup key members = some x :=
  Option.ne_none_iff_exists'.mp fun missing => lookup_eq_none_iff.mp missing named

theorem lookup_of_mem {m : String × Json} {members : List (String × Json)}
    (distinct : (members.map (·.1)).Nodup) (member : m ∈ members) :
    lookup m.1 members = some m.2 := by
  induction members with
  | nil => simp at member
  | cons n rest ih =>
    rw [List.map_cons, List.nodup_cons] at distinct
    rw [lookup_cons]
    rcases List.mem_cons.mp member with rfl | later
    · exact if_pos rfl
    · have other : n.1 ≠ m.1 := by
        intro same
        exact distinct.1 (List.mem_map.mpr ⟨m, later, same.symm⟩)
      rw [if_neg other]
      exact ih distinct.2 later

theorem lookup_map (key : String) (f : Json → Json) (members : List (String × Json)) :
    lookup key (members.map fun m => (m.1, f m.2)) = (lookup key members).map f := by
  induction members with
  | nil => rfl
  | cons m rest ih =>
    rw [List.map_cons, lookup_cons, lookup_cons, ih]
    split <;> rfl

theorem sizeOf_lookup {key : String} {x : Json} {members : List (String × Json)}
    (found : lookup key members = some x) : sizeOf x < sizeOf members := by
  have inside := List.sizeOf_lt_of_mem (mem_of_lookup found)
  have pair : sizeOf (key, x) = 1 + sizeOf key + sizeOf x := rfl
  omega

/-! Tests that hold of a document and of everything inside it. -/

mutual
/-- Whether a test holds of a document and of everything inside it. -/
def everywhere (test : Json → Bool) : Json → Bool
  | .arr items => test (.arr items) && everywhereItems test items
  | .obj members => test (.obj members) && everywhereMembers test members
  | .null => test .null
  | .bool b => test (.bool b)
  | .int i => test (.int i)
  | .num x => test (.num x)
  | .str s => test (.str s)

def everywhereItems (test : Json → Bool) : List Json → Bool
  | [] => true
  | x :: rest => everywhere test x && everywhereItems test rest

def everywhereMembers (test : Json → Bool) : List (String × Json) → Bool
  | [] => true
  | (_, x) :: rest => everywhere test x && everywhereMembers test rest
end

section Everywhere

variable {test : Json → Bool}

theorem everywhereItems_iff {items : List Json} :
    everywhereItems test items = true ↔ ∀ x ∈ items, everywhere test x = true := by
  induction items with
  | nil => exact iff_of_true rfl nofun
  | cons x rest ih =>
    show (everywhere test x && everywhereItems test rest) = true ↔ _
    rw [Bool.and_eq_true, ih, List.forall_mem_cons]

theorem everywhereMembers_iff {members : List (String × Json)} :
    everywhereMembers test members = true ↔ ∀ m ∈ members, everywhere test m.2 = true := by
  induction members with
  | nil => exact iff_of_true rfl nofun
  | cons m rest ih =>
    show (everywhere test m.2 && everywhereMembers test rest) = true ↔ _
    rw [Bool.and_eq_true, ih, List.forall_mem_cons]

theorem everywhere_arr {items : List Json} : everywhere test (.arr items) = true ↔
    test (.arr items) = true ∧ ∀ x ∈ items, everywhere test x = true := by
  show (test (.arr items) && everywhereItems test items) = true ↔ _
  rw [Bool.and_eq_true, everywhereItems_iff]

theorem everywhere_obj {members : List (String × Json)} : everywhere test (.obj members) = true ↔
    test (.obj members) = true ∧ ∀ m ∈ members, everywhere test m.2 = true := by
  show (test (.obj members) && everywhereMembers test members) = true ↔ _
  rw [Bool.and_eq_true, everywhereMembers_iff]

theorem everywhere_items {d x : Json} (holds : everywhere test d = true) (inside : x ∈ d.items) :
    everywhere test x = true := by
  cases d with
  | arr items => exact (everywhere_arr.mp holds).2 x inside
  | _ => cases inside

theorem everywhere_members {d : Json} {m : String × Json} (holds : everywhere test d = true)
    (inside : m ∈ d.members) : everywhere test m.2 = true := by
  cases d with
  | obj members => exact (everywhere_obj.mp holds).2 m inside
  | _ => cases inside

end Everywhere

/-- No object has a key twice. -/
def Distinct (d : Json) : Prop :=
  d.everywhere (fun here => decide (here.members.map (·.1)).Nodup) = true

instance (d : Json) : Decidable d.Distinct := inferInstanceAs (Decidable (_ = true))

/-- No object has, under the key `type`, a text that is also one of its keys. -/
def CollisionFree (d : Json) : Prop :=
  d.everywhere (fun here => match lookup "type" here.members with
    | some (.str label) => (lookup label here.members).isNone
    | _ => true) = true

instance (d : Json) : Decidable d.CollisionFree := inferInstanceAs (Decidable (_ = true))

theorem Distinct.nodup {members : List (String × Json)} (distinct : (obj members).Distinct) :
    (members.map (·.1)).Nodup :=
  of_decide_eq_true (everywhere_obj.mp distinct).1

theorem CollisionFree.label_absent {members : List (String × Json)} {label : String}
    (free : (obj members).CollisionFree) (tag : lookup "type" members = some (.str label)) :
    lookup label members = none := by
  have here := (everywhere_obj.mp free).1
  simpa [Json.members, tag] using here

/-- No double is infinite or undefined. -/
def Finite (d : Json) : Prop :=
  d.everywhere (fun here => match here with
    | .num x => x.isFinite
    | _ => true) = true

instance (d : Json) : Decidable d.Finite := inferInstanceAs (Decidable (_ = true))

end Json

end AgentWire
