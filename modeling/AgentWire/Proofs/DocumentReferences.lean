import AgentWire.OpenApi.Document
import AgentWire.Proofs.ComponentReferences

/-! What the paths of a document refer to. They name the same components whatever is registered, so
a document has all of them exactly if its registry holds these names or reaches definitions that
bear them. -/
namespace AgentWire

open Json

def Endpoint.components (e : Endpoint) : List String :=
  (e.request?.map Record.name).toList ++ [e.response.name, Record.errorResponse.name]

namespace Paths

variable {target : String}

theorem refers_content {component : String} :
    Refers (content component) target ↔ target = Schema.componentRef component := by
  simp [content, refers_obj_iff, refers_refTo]

theorem refers_response {description component : String} :
    Refers (response description component) target ↔ target = Schema.componentRef component := by
  simp [response, refers_obj_iff, refers_content]

theorem refers_operation {e : Endpoint} :
    Refers (operation e) target ↔ ∃ name ∈ e.components, target = Schema.componentRef name := by
  unfold operation Endpoint.components
  cases e.request? with
  | none => simp [refers_obj_iff, refers_response]
  | some r => simp [refers_obj_iff, refers_response, refers_content, or_comm]

theorem not_refers_health : ¬ Refers health target := by
  simp [health, refers_obj_iff]

theorem refers_all :
    Refers all target ↔ ∃ e ∈ Endpoint.all, ∃ name ∈ e.components, target =
      Schema.componentRef name := by
  have plain : ∀ m ∈ Endpoint.all.map (fun e => (e.path, operation e)) ++ [("/health", health)],
      m.1 ≠ "$ref" ∧ m.1 ≠ "discriminator" := by
    intro m inside
    rcases List.mem_append.mp inside with listed | last
    · obtain ⟨e, _, rfl⟩ := List.mem_map.mp listed
      cases e <;> decide
    · cases List.mem_singleton.mp last
      decide
  constructor
  · intro refers
    obtain ⟨m, inside, deeper⟩ := refers_member plain refers
    rcases List.mem_append.mp inside with listed | last
    · obtain ⟨e, there, rfl⟩ := List.mem_map.mp listed
      exact ⟨e, there, refers_operation.mp deeper⟩
    · cases List.mem_singleton.mp last
      exact absurd deeper not_refers_health
  · rintro ⟨e, there, named⟩
    exact .member (List.mem_append_left _ (List.mem_map_of_mem there)) (refers_operation.mpr named)

end Paths

namespace Document

def Resolves (document : Json) : Prop :=
  ∃ paths components schemas, lookup "paths" document.members = some paths ∧
    lookup "components" document.members = some components ∧
    lookup "schemas" components.members = some schemas ∧
    ∀ target, Refers paths target →
      ∃ name ∈ schemas.members.map (·.1), target = Schema.componentRef name

theorem resolves_used_iff {reg used : Registry} (ascending : used.Ascending)
    {title version : String}
    (chosen : (if reg.entries.isEmpty then Registry.standard else reg) = used) :
    Resolves (ofRegistry reg title version).1 ↔
      ∀ e ∈ Endpoint.all, ∀ name ∈ e.components, used.Names name := by
  rw [ofRegistry, chosen]
  constructor
  · rintro ⟨_, _, _, ⟨⟩, ⟨⟩, ⟨⟩, resolved⟩ e there name named
    obtain ⟨other, inside, same⟩ := resolved _ (Paths.refers_all.mpr ⟨e, there, name, named, rfl⟩)
    rw [Schema.componentRef_inj.mp same]
    exact (Components.component_iff ascending).mp inside
  · intro all
    refine ⟨_, _, _, rfl, rfl, rfl, ?_⟩
    intro target refers
    obtain ⟨e, there, name, named, rfl⟩ := Paths.refers_all.mp refers
    exact ⟨name, (Components.component_iff ascending).mpr (all e there name named), rfl⟩

theorem standard_names :
    ∀ e ∈ Endpoint.all, ∀ name ∈ e.components, Registry.standard.Names name := by
  have listed : ∀ e ∈ Endpoint.all, ∀ name ∈ e.components,
      name ∈ Registry.standardTypes.map (·.1) := by
    decide +kernel
  intro e there name named
  exact .inl (Registry.bound_registerAll_iff.mpr (.inr (listed e there name named)))

theorem entries_ne_nil {steps : List (String × WireType)} (some : steps ≠ []) :
    (Registry.registerAll .empty steps).1.entries ≠ [] := by
  obtain ⟨step, inside⟩ := List.exists_mem_of_ne_nil steps some
  obtain ⟨t, bound⟩ := Registry.bound_registerAll_iff.mpr (.inr (List.mem_map_of_mem inside))
  exact List.ne_nil_of_mem (NameTable.mem_of_find? bound)

/-- The paths of a document resolve if no type is registered, since all wire types then are, and
otherwise exactly if every component of an endpoint is named. -/
theorem resolves_iff (steps : List (String × WireType)) (title version : String) :
    Resolves (ofRegistry (Registry.registerAll .empty steps).1 title version).1 ↔
      steps = [] ∨ ∀ e ∈ Endpoint.all, ∀ name ∈ e.components,
        (Registry.registerAll .empty steps).1.Names name := by
  have ascending := Registry.ascending steps
  by_cases none : steps = []
  · subst none
    have chosen : (if (NameTable.empty : Registry).entries.isEmpty then
        Registry.standard else .empty) =
        Registry.standard := if_pos rfl
    exact iff_of_true ((resolves_used_iff (Registry.ascending Registry.standardTypes) chosen).mpr
      standard_names) (.inl rfl)
  · rw [or_iff_right none]
    exact resolves_used_iff ascending (if_neg (mt List.isEmpty_iff.mp (entries_ne_nil none)))

/-- One request without the replies to it. -/
def requestAlone : List (String × WireType) :=
  [("RawRequest", .record .rawRequest)]

theorem requestAlone_unresolved :
    ¬ Resolves (ofRegistry (Registry.registerAll .empty requestAlone).1 defaultTitle
      defaultVersion).1 := by
  have chosen : (if (Registry.registerAll .empty requestAlone).1.entries.isEmpty then
      Registry.standard
      else (Registry.registerAll .empty requestAlone).1) =
      (Registry.registerAll .empty requestAlone).1 := rfl
  rw [resolves_used_iff (Registry.ascending requestAlone) chosen]
  intro all
  rcases all .raw (by decide) "ErrorResponse" (by decide) with bound | ⟨δ, reaches, named⟩
  · have listed :=
      (Registry.bound_registerAll_iff.mp bound).resolve_left fun ⟨_, found⟩ => by cases found
    exact absurd listed (by decide)
  · have others : ∀ δ ∈ Components.reached (Registry.registerAll .empty requestAlone).1,
        δ.name ≠ "ErrorResponse" := by decide +kernel
    exact others δ (Components.mem_reached_iff.mpr reaches) named

end Document

end AgentWire
