import AgentWire.Proofs.NameTables

/-! Registries after any history of registrations. Every name stands for what it was registered as
last, whatever else was registered, and a warning goes with exactly the steps that take a name away
from another type. -/
namespace AgentWire

namespace Registry

variable {reg : Registry} {before : List (String × WireType)}

def lastOf (name : String) (history : List (String × WireType)) : Option WireType :=
  (history.reverse.find? fun step => step.1 = name).map (·.2)

theorem lastOf_append (name : String) (before : List (String × WireType))
    (step : String × WireType) :
    lastOf name (before ++ [step]) = if step.1 = name then some step.2 else lastOf name before := by
  rw [lastOf, List.reverse_append, List.reverse_singleton, List.singleton_append, List.find?_cons]
  by_cases here : step.1 = name
  · simp [here]
  · simp [here, lastOf]

theorem lastOf_isSome_iff {name : String} {history : List (String × WireType)} :
    (∃ t, lastOf name history = some t) ↔ name ∈ history.map (·.1) := by
  rw [← Option.isSome_iff_exists, lastOf, Option.isSome_map, List.find?_isSome, List.mem_map]
  simp only [List.mem_reverse, decide_eq_true_eq]

/-- A step takes its name away from another type. -/
def Rebinds (before : List (String × WireType)) (step : String × WireType) : Prop :=
  ∃ t, lastOf step.1 before = some t ∧ t ≠ step.2

/-- The warning that a step calls for, if it calls for one. -/
def Warns (before : List (String × WireType)) (step : String × WireType)
    (log : List String) : Prop :=
  (Rebinds before step → log = ["Replacing registered type '" ++ step.1 ++ "'"]) ∧
    (¬ Rebinds before step → log = [])

/-! One step. -/

/-- A registry answers for a history: every name is found with what it was registered as last. -/
def Follows (reg : Registry) (history : List (String × WireType)) : Prop :=
  reg.Ascending ∧ ∀ name, reg.find? name = lastOf name history

theorem empty_follows : Follows .empty [] :=
  ⟨NameTable.empty_ascending, fun _ => rfl⟩

theorem Follows.register (follows : Follows reg before) (step : String × WireType) :
    Follows (reg.register step.1 step.2) (before ++ [step]) := by
  refine ⟨NameTable.insert_ascending follows.1 step.1 step.2, ?_⟩
  intro name
  rw [Registry.register, NameTable.find?_insert, lastOf_append, follows.2 name]

theorem Follows.warns (follows : Follows reg before) (step : String × WireType) :
    Warns before step (reg.warnings step.1 step.2) := by
  have replaced : reg.replaces step.1 step.2 = true ↔ Rebinds before step := by
    rw [replaces, follows.2, Rebinds]
    cases lastOf step.1 before <;> simp
  constructor
  · intro rebinds
    rw [warnings, if_pos (replaced.mpr rebinds)]
  · intro keeps
    rw [warnings, if_neg fun rebinds => keeps (replaced.mp rebinds)]

/-! Any number of steps. -/

/-- The warnings of the steps of a history, one list for each step. -/
inductive Logs : List (String × WireType) → List (String × WireType) → List (List String) → Prop
  | done (before : List (String × WireType)) : Logs before [] []
  | step {before rest : List (String × WireType)} {step : String × WireType} {log : List String}
      {later : List (List String)} (now : Warns before step log)
      (more : Logs (before ++ [step]) rest later) :
      Logs before (step :: rest) (log :: later)

theorem Follows.registerAll (follows : Follows reg before) (steps : List (String × WireType)) :
    Follows (reg.registerAll steps).1 (before ++ steps) ∧
      ∃ logs, Logs before steps logs ∧ (reg.registerAll steps).2 = logs.flatten := by
  -- The induction is on the steps that are left; the history before them grows.
  induction steps generalizing reg before with
  | nil =>
    rw [List.append_nil]
    exact ⟨follows, [], .done before, rfl⟩
  | cons step rest ih =>
    obtain ⟨ends, logs, logged, same⟩ := ih (follows.register step)
    rw [List.append_assoc, List.singleton_append] at ends
    refine ⟨ends, reg.warnings step.1 step.2 :: logs, .step (follows.warns step) logged, ?_⟩
    rw [List.flatten_cons, ← same]
    rfl

/-- What a registry says of itself after a history. -/
structure Records (reg : Registry) (history : List (String × WireType)) : Prop where
  ascending : reg.names.Pairwise (· < ·)
  named : ∀ name, name ∈ reg.names ↔ name ∈ history.map (·.1)
  found : ∀ name, reg.find? name = lastOf name history
  got : ∀ name t, reg.get name = .ok t ↔ lastOf name history = some t
  unknown : ∀ name u, reg.get name = .error u ↔ name ∉ history.map (·.1) ∧ u = ⟨name, reg.names⟩
  paired : reg.entries.map (fun e => (e.1, Except.ok e.2)) =
    reg.names.map fun name => (name, reg.get name)
  counted : reg.size = reg.names.length
  contained : ∀ name, reg.contains name = true ↔ name ∈ reg.names

theorem Follows.records (follows : Follows reg before) : Records reg before := by
  obtain ⟨ascending, found⟩ := follows
  have named : ∀ name, name ∈ reg.names ↔ name ∈ before.map (·.1) := by
    intro name
    rw [← lastOf_isSome_iff, ← found, NameTable.names, List.mem_map]
    constructor
    · rintro ⟨⟨_, t⟩, listed, rfl⟩
      exact ⟨t, (NameTable.find?_iff_mem ascending).mpr listed⟩
    · rintro ⟨t, there⟩
      exact ⟨(name, t), NameTable.mem_of_find? there, rfl⟩
  have unbound : ∀ name, reg.find? name = none ↔ name ∉ before.map (·.1) := by
    intro name
    rw [← lastOf_isSome_iff, ← found]
    cases reg.find? name <;> simp
  refine ⟨ascending, named, found, ?_, ?_, ?_, ?_, ?_⟩
  · intro name t
    rw [get, found]
    cases lastOf name before <;> simp
  · intro name u
    rw [← unbound, get]
    cases reg.find? name <;> simp [eq_comm]
  · rw [NameTable.names, List.map_map]
    apply List.map_congr_left
    intro e listed
    have bound :=
      (NameTable.find?_iff_mem ascending).mpr (show (e.1, e.2) ∈ reg.entries from listed)
    simp only [Function.comp_apply, get, bound]
  · rw [size, NameTable.names, List.length_map]
  · intro name
    rw [named, contains, found, Option.isSome_iff_exists, lastOf_isSome_iff]

/-- From the empty registry and from the standard one, any history is recorded: names stand for what
they were registered as last, and the warnings come step by step where a name goes to another
type. -/
theorem history_recorded (steps : List (String × WireType)) :
    (Records (registerAll .empty steps).1 steps ∧
      ∃ logs, Logs [] steps logs ∧ (registerAll .empty steps).2 = logs.flatten) ∧
    Records (standard.registerAll steps).1 (standardTypes ++ steps) ∧
      ∃ logs, Logs standardTypes steps logs ∧ (standard.registerAll steps).2 = logs.flatten := by
  have fromEmpty := empty_follows.registerAll steps
  have fromStandard := (empty_follows.registerAll standardTypes).1.registerAll steps
  exact ⟨⟨fromEmpty.1.records, fromEmpty.2⟩, fromStandard.1.records, fromStandard.2⟩

end Registry

end AgentWire
