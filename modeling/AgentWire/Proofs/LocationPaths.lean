import AgentWire.Proofs.Rearranging

/-! Locations and paths. The path of a location keeps its last step, and the steps before it lead
through the document; what a location loses are steps that lead nowhere and labels of variants. -/
namespace AgentWire.Path

/-- Where a path leads: from an object to a member, from an array to an item. -/
def follow (here : Json) : Path → Option Json
  | [] => some here
  | s :: rest => (child here s).bind fun there => follow there rest

theorem follow_append (here : Json) (p q : Path) :
    follow here (p ++ q) = (follow here p).bind fun there => follow there q := by
  induction p generalizing here with
  | nil => rfl
  | cons s rest ih => simp [follow, ih, Option.bind_assoc]

theorem follow_of_append {here : Json} {p q : Path} (leads : (follow here (p ++ q)).isSome) :
    (follow here p).isSome := by
  rw [follow_append] at leads
  exact Option.isSome_of_isSome_bind leads

theorem ofLocation_step (here : Json) (s next : Step) (rest : List Step) :
    ofLocation here (s :: next :: rest) = ofLocation here (next :: rest) ∨
      ∃ there, child here s = some there ∧
        ofLocation here (s :: next :: rest) = s :: ofLocation there (next :: rest) := by
  rw [ofLocation_cons]
  split
  · -- the label of a variant
    exact .inl rfl
  · cases found : child here s with
    | none => exact .inl rfl
    | some there => exact .inr ⟨there, rfl, rfl⟩

theorem ofLocation_sublist (here : Json) (location : List Step) :
    (ofLocation here location).Sublist location := by
  induction location generalizing here with
  | nil => exact .refl _
  | cons s rest ih =>
    cases rest with
    | nil => exact .refl _
    | cons next more =>
      rcases ofLocation_step here s next more with dropped | ⟨there, -, kept⟩
      · rw [dropped]
        exact (ih here).cons s
      · rw [kept]
        exact (ih there).cons_cons s

theorem ofLocation_getLast (here : Json) (location : List Step) :
    (ofLocation here location).getLast? = location.getLast? := by
  induction location generalizing here with
  | nil => rfl
  | cons s rest ih =>
    cases rest with
    | nil => rfl
    | cons next more =>
      rw [List.getLast?_cons_cons]
      rcases ofLocation_step here s next more with dropped | ⟨there, -, kept⟩
      · rw [dropped, ih]
      · rw [kept, List.getLast?_cons, ih, List.getLast?_cons]
        rfl

theorem ofLocation_eq_nil_iff (here : Json) (location : List Step) :
    ofLocation here location = [] ↔ location = [] := by
  rw [← List.getLast?_eq_none_iff, ofLocation_getLast, List.getLast?_eq_none_iff]

/-- All steps of a path but the last one lead on. -/
theorem follow_dropLast (here : Json) (location : List Step) :
    (follow here (ofLocation here location).dropLast).isSome := by
  induction location generalizing here with
  | nil => rfl
  | cons s rest ih =>
    cases rest with
    | nil => rfl
    | cons next more =>
      rcases ofLocation_step here s next more with dropped | ⟨there, leads, kept⟩
      · rw [dropped]
        exact ih here
      · have some : ofLocation there (next :: more) ≠ [] := by simp [ofLocation_eq_nil_iff]
        rw [kept, List.dropLast_cons_of_ne_nil some, follow, leads, Option.bind_some]
        exact ih there

/-- Every step but the last leads on, and none of them is the text that the object it leads on from
has under `type`. -/
def Direct (here : Json) (location : List Step) : Prop :=
  ∀ front s back, location = front ++ s :: back → back ≠ [] → ∃ there,
    follow here front = some there ∧ (child there s).isSome ∧
      Json.lookup "type" there.members ≠ some s.toJson

theorem Direct.step {here : Json} {s next : Step} {rest : List Step}
    (direct : Direct here (s :: next :: rest)) :
    ∃ there, child here s = some there ∧ Json.lookup "type" here.members ≠ some s.toJson ∧
      Direct there (next :: rest) := by
  -- with nothing before the first step, the place it leads on from is the document itself
  obtain ⟨_, start, leads, free⟩ := direct [] s (next :: rest) rfl (by simp)
  cases start
  obtain ⟨there, found⟩ := Option.isSome_iff_exists.mp leads
  refine ⟨there, found, free, fun front t back written more => ?_⟩
  obtain ⟨last, way, onward⟩ := direct (s :: front) t back (by rw [written]; rfl) more
  rw [follow, found, Option.bind_some] at way
  exact ⟨last, way, onward⟩

/-- Keys lead into objects and indices into arrays, and nothing else leads anywhere. -/
theorem child_eq_some {here there : Json} {s : Step} (leads : child here s = some there) :
    (∃ members k, here = .obj members ∧ s = .key k ∧ Json.lookup k members = some there) ∨
      ∃ items n, here = .arr items ∧ s = .index (n : Nat) ∧ items[n]? = some there := by
  cases here with
  | obj members =>
    cases s with
    | key k => exact .inl ⟨members, k, rfl, rfl, leads⟩
    | _ => cases leads
  | arr items =>
    cases s with
    | index i =>
      simp only [child] at leads
      split at leads
      · rename_i positive
        exact .inr ⟨items, i.toNat, rfl, by rw [Int.toNat_of_nonneg positive], leads⟩
      · cases leads
    | _ => cases leads
  | _ => cases s <;> cases leads

theorem ofLocation_child {here there : Json} {s : Step} (leads : child here s = some there)
    (free : Json.lookup "type" here.members ≠ some s.toJson) (rest : List Step) :
    ofLocation here (s :: rest) = s :: ofLocation there rest := by
  rcases child_eq_some leads with ⟨members, k, rfl, rfl, found⟩ | ⟨items, n, rfl, rfl, found⟩
  · exact ofLocation_key found free rest
  · exact ofLocation_index found rest

theorem ofLocation_direct {here : Json} {location : List Step} (direct : Direct here location) :
    ofLocation here location = location := by
  induction location generalizing here with
  | nil => rfl
  | cons s rest ih =>
    cases rest with
    | nil => rfl
    | cons next more =>
      obtain ⟨there, leads, free, onward⟩ := direct.step
      rw [ofLocation_child leads free, ih onward]

/-- The path of any location in any document: a part of the location that ends as it does, whose
other steps all lead on; and the location itself if that is direct. -/
theorem ofLocation_leads (here : Json) (location : List Step) :
    (ofLocation here location).Sublist location ∧
      (ofLocation here location).getLast? = location.getLast? ∧
      (ofLocation here location = [] ↔ location = []) ∧
      (∀ front, front <+: ofLocation here location → front ≠ ofLocation here location →
        (follow here front).isSome) ∧
      (Direct here location → ofLocation here location = location) := by
  refine ⟨ofLocation_sublist here location, ofLocation_getLast here location,
    ofLocation_eq_nil_iff here location, ?_, ofLocation_direct⟩
  -- a proper prefix lacks the last step, so it is part of what leads on
  rintro front ⟨back, whole⟩ proper
  have some : back ≠ [] := by
    rintro rfl
    exact proper (by rw [← whole, List.append_nil])
  have leads := follow_dropLast here location
  rw [← whole, List.dropLast_append_of_ne_nil some] at leads
  exact follow_of_append leads

example : ofLocation (.obj [("where", .obj [("type", .str "binary_op"), ("operator", .int 5)])])
    [.key "where", .key "binary_op", .key "operator"] = [.key "where", .key "operator"] := by
  rfl

end AgentWire.Path
