import AgentWire.Registry
import Mathlib.Data.List.Nodup
import Mathlib.Data.String.Basic

/-! Tables from names to values. A name is found with what was put under it last, and the names of a
registry ascend whatever is registered. -/
namespace AgentWire

namespace NameTable

variable {α : Type}

theorem get?_put (name other : String) (a : α) (entries : List (String × α)) :
    get? other (put name a entries) = if name = other then some a else get? other entries := by
  induction entries with
  | nil => rfl
  | cons e rest ih =>
    obtain ⟨n, b⟩ := e
    rw [put]
    split
    · rename_i same
      subst same
      simp only [get?]
      split <;> rfl
    split
    · rfl
    · rename_i different _
      simp only [get?, ih]
      by_cases here : n = other
      · rw [if_pos here, if_neg fun same => different (same.trans here.symm)]
        exact (if_pos here).symm
      · rw [if_neg here, if_neg here]

theorem find?_insert (t : NameTable α) (name other : String) (a : α) :
    (t.insert name a).find? other = if name = other then some a else t.find? other :=
  get?_put name other a t.entries

theorem mem_of_find? {t : NameTable α} {name : String} {a : α} (found : t.find? name = some a) :
    (name, a) ∈ t.entries := by
  obtain ⟨entries⟩ := t
  change get? name entries = some a at found
  induction entries with
  | nil => cases found
  | cons e rest ih =>
    obtain ⟨n, b⟩ := e
    rw [get?] at found
    split at found
    · rename_i same
      cases found
      rw [same]
      exact List.mem_cons_self
    · exact List.mem_cons_of_mem _ (ih found)

def Ascending (t : NameTable α) : Prop :=
  (t.entries.map (·.1)).Pairwise (· < ·)

theorem empty_ascending : (empty : NameTable α).Ascending :=
  List.Pairwise.nil

theorem mem_put {name : String} {a : α} {entries : List (String × α)} {e : String × α}
    (inside : e ∈ put name a entries) : e = (name, a) ∨ e ∈ entries := by
  induction entries with
  | nil => exact .inl (List.mem_singleton.mp inside)
  | cons f rest ih =>
    obtain ⟨n, b⟩ := f
    rw [put] at inside
    split at inside
    · rcases List.mem_cons.mp inside with here | later
      · exact .inl here
      · exact .inr (List.mem_cons_of_mem _ later)
    split at inside
    · exact List.mem_cons.mp inside
    · rcases List.mem_cons.mp inside with here | later
      · exact .inr (here ▸ List.mem_cons_self)
      · rcases ih later with here | there
        · exact .inl here
        · exact .inr (List.mem_cons_of_mem _ there)

theorem insert_ascending {t : NameTable α} (ascending : t.Ascending) (name : String) (a : α) :
    (t.insert name a).Ascending := by
  obtain ⟨entries⟩ := t
  change (entries.map (·.1)).Pairwise (· < ·) at ascending
  show ((put name a entries).map (·.1)).Pairwise (· < ·)
  induction entries with
  | nil => exact List.pairwise_singleton _ _
  | cons e rest ih =>
    obtain ⟨n, b⟩ := e
    rw [List.map_cons, List.pairwise_cons] at ascending
    obtain ⟨above, rest_ascending⟩ := ascending
    rw [put]
    split
    · rename_i same
      subst same
      exact List.pairwise_cons.mpr ⟨above, rest_ascending⟩
    split
    · rename_i below
      refine List.pairwise_cons.mpr ⟨?_, List.pairwise_cons.mpr ⟨above, rest_ascending⟩⟩
      intro other inside
      rcases List.mem_cons.mp inside with rfl | later
      · exact below
      · exact below.trans (above other later)
    · rename_i different not_below
      refine List.pairwise_cons.mpr ⟨?_, ih rest_ascending⟩
      intro other inside
      obtain ⟨e, listed, rfl⟩ := List.mem_map.mp inside
      rcases mem_put listed with rfl | there
      · exact lt_of_le_of_ne (not_lt.mp not_below) (Ne.symm different)
      · exact above e.1 (List.mem_map_of_mem there)

theorem Ascending.nodup {t : NameTable α} (ascending : t.Ascending) : (t.entries.map (·.1)).Nodup :=
  ascending.imp fun below => below.ne

theorem find?_iff_mem {t : NameTable α} (ascending : t.Ascending) {name : String} {a : α} :
    t.find? name = some a ↔ (name, a) ∈ t.entries := by
  refine ⟨mem_of_find?, ?_⟩
  intro inside
  obtain ⟨entries⟩ := t
  have distinct := ascending.nodup
  change (name, a) ∈ entries at inside
  change (entries.map (·.1)).Nodup at distinct
  show get? name entries = some a
  induction entries with
  | nil => cases inside
  | cons e rest ih =>
    obtain ⟨n, b⟩ := e
    rw [List.map_cons, List.nodup_cons] at distinct
    rw [get?]
    rcases List.mem_cons.mp inside with here | later
    · cases here
      exact if_pos rfl
    · have other : n ≠ name := by
        rintro rfl
        exact distinct.1 (List.mem_map.mpr ⟨(n, a), later, rfl⟩)
      rw [if_neg other]
      exact ih (List.Pairwise.of_cons ascending) later distinct.2

theorem foldl_ascending {entries : List (String × α)} {t : NameTable α} (ascending : t.Ascending) :
    (entries.foldl (fun t e => t.insert e.1 e.2) t).Ascending := by
  induction entries generalizing t with
  | nil => exact ascending
  | cons e rest ih => exact ih (insert_ascending ascending e.1 e.2)

/-- A name is found with what all entries of the name hold. -/
theorem find?_foldl {entries : List (String × α)} {t : NameTable α} {name : String} {a : α}
    (same : ∀ e ∈ entries, e.1 = name → e.2 = a)
    (there : t.find? name = some a ∨ (name, a) ∈ entries) :
    (entries.foldl (fun t e => t.insert e.1 e.2) t).find? name = some a := by
  induction entries generalizing t with
  | nil => simpa using there
  | cons e rest ih =>
    rw [List.forall_mem_cons] at same
    apply ih same.2
    rw [find?_insert]
    by_cases here : e.1 = name
    · exact .inl (by rw [if_pos here, same.1 here])
    · rw [if_neg here]
      rcases there with before | inside
      · exact .inl before
      · rcases List.mem_cons.mp inside with now | later
        · exact absurd (congrArg Prod.fst now).symm here
        · exact .inr later

theorem find?_foldl_none {entries : List (String × α)} {t : NameTable α} {name : String}
    (other : ∀ e ∈ entries, e.1 ≠ name) (missing : t.find? name = none) :
    (entries.foldl (fun t e => t.insert e.1 e.2) t).find? name = none := by
  induction entries generalizing t with
  | nil => exact missing
  | cons e rest ih =>
    rw [List.forall_mem_cons] at other
    apply ih other.2
    rw [find?_insert, if_neg other.1]
    exact missing

end NameTable

theorem Registry.registerAll_eq (reg : Registry) (steps : List (String × WireType)) :
    (reg.registerAll steps).1 = steps.foldl (fun reg e => reg.insert e.1 e.2) reg := by
  induction steps generalizing reg with
  | nil => rfl
  | cons step rest ih => exact ih (reg.insert step.1 step.2)

theorem Registry.ascending (steps : List (String × WireType)) :
    (Registry.registerAll .empty steps).1.Ascending := by
  rw [registerAll_eq]
  exact NameTable.foldl_ascending NameTable.empty_ascending

theorem Registry.find?_registerAll {reg : Registry} {steps : List (String × WireType)}
    {name : String} {t : WireType} (same : ∀ e ∈ steps, e.1 = name → e.2 = t)
    (there : reg.find? name = some t ∨ (name, t) ∈ steps) :
    (reg.registerAll steps).1.find? name = some t := by
  rw [registerAll_eq]
  exact NameTable.find?_foldl same there

theorem Registry.find?_standard {name : String} {t : WireType}
    (listed : (name, t) ∈ standardTypes) :
    standard.find? name = some t := by
  have distinct : (standardTypes.map (·.1)).Nodup := by decide +kernel
  refine find?_registerAll ?_ (.inr listed)
  intro e there same
  exact congrArg Prod.snd (List.inj_on_of_nodup_map distinct there listed same)

/-- A name is bound exactly if it was before or is among those registered. -/
theorem Registry.bound_registerAll_iff {reg : Registry} {steps : List (String × WireType)}
    {name : String} :
    (∃ t, (reg.registerAll steps).1.find? name = some t) ↔
      (∃ t, reg.find? name = some t) ∨ name ∈ steps.map (·.1) := by
  induction steps generalizing reg with
  | nil => exact (or_iff_left List.not_mem_nil).symm
  | cons step rest ih =>
    have bound_iff : (∃ t, (reg.insert step.1 step.2).find? name = some t) ↔
        name = step.1 ∨ ∃ t, reg.find? name = some t := by
      rw [NameTable.find?_insert]
      by_cases here : step.1 = name
      · simp [here]
      · simp [here, Ne.symm here]
    refine ih.trans ?_
    rw [register, bound_iff, List.map_cons, List.mem_cons]
    tauto

theorem Registry.mem_registerAll {reg : Registry} {steps : List (String × WireType)}
    {e : String × WireType} (inside : e ∈ (reg.registerAll steps).1.entries) :
    e ∈ reg.entries ∨ e ∈ steps := by
  induction steps generalizing reg with
  | nil => exact .inl inside
  | cons step rest ih =>
    rcases ih inside with before | later
    · rcases NameTable.mem_put before with rfl | old
      · exact .inr List.mem_cons_self
      · exact .inl old
    · exact .inr (List.mem_cons_of_mem _ later)

end AgentWire
