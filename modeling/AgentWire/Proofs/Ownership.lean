import AgentWire.Proofs.Requests

/-! Who closes which connection. A client that was given a connection uses it for everything and
leaves it open; one that makes its own holds the only open one, whatever is called, fails or is
closed in between. -/
namespace AgentWire

/-- What is done with a client. Entering its context changes nothing, leaving it closes. -/
inductive Action where
  | call (e : Endpoint) (request : Option Value) (agent : Agent)
  | health (agent : Agent)
  | close
  | enter
  | leave

def Action.closes : Action → Bool
  | .close | .leave => true
  | .call .. | .health _ | .enter => false

def Action.connects : Action → Bool
  | .call .. | .health _ => true
  | .close | .enter | .leave => false

namespace AgentClient

/-- The client after an action, and the requests that went out. -/
def step (c : AgentClient) : Action → AgentClient × List Request
  | .call e request agent =>
    let o := c.call e (bodyOf e request) agent
    (o.client, o.sent)
  | .health agent =>
    let o := c.health agent
    (o.client, o.sent)
  | .close | .leave => (c.close, [])
  | .enter => (c, [])

/-- The client after some actions, and all requests that went out. -/
def run (c : AgentClient) : List Action → AgentClient × List Request
  | [] => (c, [])
  | a :: rest =>
    let (next, sent) := c.step a
    let (last, later) := next.run rest
    (last, sent ++ later)

end AgentClient

namespace Connections

def Opened (cs : Connections) (i : Nat) : Prop :=
  cs.isOpen[i]? = some true

/-- Nothing was given, and the open connection is the one that is held. -/
structure Tidy (cs : Connections) : Prop where
  own : cs.given = false
  opened_iff : ∀ i, cs.Opened i ↔ cs.held = some i

theorem empty_tidy : empty.Tidy := by
  refine ⟨rfl, ?_⟩
  intro i
  simp [Opened, empty]

theorem acquire_held (cs : Connections) : cs.acquire.2.held = some cs.acquire.1 := by
  unfold acquire
  split
  · rename_i held
    exact held
  · rfl

theorem acquire_fresh {cs : Connections} (free : cs.held = none) :
    cs.acquire = (cs.isOpen.length,
      { cs with isOpen := cs.isOpen ++ [true], held := some cs.isOpen.length }) := by
  simp only [acquire, free]

theorem acquire_tidy {cs : Connections} (tidy : cs.Tidy) : cs.acquire.2.Tidy := by
  cases holds : cs.held with
  | some i =>
    have kept : cs.acquire.2 = cs := by simp only [acquire, holds]
    rw [kept]
    exact tidy
  | none =>
    have closed : ∀ i, ¬ cs.Opened i := by
      intro i opened
      have held := (tidy.opened_iff i).mp opened
      rw [holds] at held
      cases held
    rw [acquire_fresh holds]
    refine ⟨tidy.own, ?_⟩
    intro i
    rw [Opened, Option.some.injEq]
    rcases Nat.lt_trichotomy i cs.isOpen.length with before | rfl | beyond
    · rw [List.getElem?_append_left before]
      exact iff_of_false (closed i) (Nat.ne_of_gt before)
    · simp
    · rw [List.getElem?_eq_none (by simp; omega)]
      exact iff_of_false (by simp) (Nat.ne_of_lt beyond)

theorem release_held {cs : Connections} (tidy : cs.Tidy) : cs.release.held = none := by
  unfold release
  split
  · simp [owns, tidy.own]
  · assumption

theorem release_tidy {cs : Connections} (tidy : cs.Tidy) : cs.release.Tidy := by
  cases holds : cs.held with
  | none =>
    have kept : cs.release = cs := by simp only [release, holds]
    rw [kept]
    exact tidy
  | some i =>
    have closed : cs.release = { cs with isOpen := cs.isOpen.set i false, held := none } := by
      simp [release, holds, owns, tidy.own]
    rw [closed]
    refine ⟨tidy.own, ?_⟩
    intro j
    have opened := tidy.opened_iff j
    rw [Opened, holds] at opened
    by_cases same : i = j
    · subst same
      simp [Opened, List.getElem?_set]
    · simp [Opened, same, opened]

/-- What was given is never closed, and what is closed is not held. -/
theorem release_release (cs : Connections) : cs.release.release = cs.release := by
  cases holds : cs.held with
  | none => simp only [release, holds]
  | some i =>
    cases owned : cs.owns i <;> simp [release, holds, owned]

end Connections

namespace AgentClient

section Steps

variable (c : AgentClient)

@[simp]
theorem send_connections (m : Method) (path : String) (body : Option Json) (agent : Agent) :
    (c.send m path body agent).client.connections = c.connections.acquire.2 := by
  unfold send
  dsimp only
  split
  · rfl
  split
  · split <;> rfl
  · rfl

/-- A request goes out over the connection that was acquired for it. -/
theorem send_connection {m : Method} {path : String} {body : Option Json} {agent : Agent}
    {q : Request} (sent : q ∈ (c.send m path body agent).sent) :
    q.connection = c.connections.acquire.1 := by
  have same : ∀ r, ({ c with connections := c.connections.acquire.2 }).request m path body
    c.connections.acquire.1 =
      .ok r → r.connection = c.connections.acquire.1 := by
    intro r made
    obtain ⟨url, headers, rfl⟩ := request_made made
    rfl
  unfold send at sent
  dsimp only at sent
  split at sent
  · cases sent
  · rename_i r made
    have only : q = r := by
      split at sent
      · split at sent <;> exact List.mem_singleton.mp sent
      · exact List.mem_singleton.mp sent
    rw [only]
    exact same r made

@[simp]
theorem call_connections (e : Endpoint) (body : Option Json) (agent : Agent) :
    (c.call e body agent).client.connections = c.connections.acquire.2 := by
  unfold call
  dsimp only
  split
  · simp
  · split <;> simp

@[simp]
theorem health_connections (agent : Agent) :
    (c.health agent).client.connections = c.connections.acquire.2 :=
  send_connections c .get "/health" none agent

theorem close_close : c.close.close = c.close := by
  simp only [close, Connections.release_release]

theorem step_connections (a : Action) : (c.step a).1.connections =
    if a.connects then c.connections.acquire.2
    else if a.closes then c.connections.release else c.connections := by
  cases a <;> simp [step, Action.connects, Action.closes, close]

/-- Only an action that connects sends anything, and then over the connection it holds. -/
theorem step_sent {a : Action} {q : Request} (sent : q ∈ (c.step a).2) :
    a.connects = true ∧ q.connection = c.connections.acquire.1 := by
  cases a with
  | call e request agent =>
    refine ⟨rfl, ?_⟩
    rw [step, call_sent] at sent
    exact c.send_connection sent
  | health agent => exact ⟨rfl, c.send_connection sent⟩
  | close => cases sent
  | enter => cases sent
  | leave => cases sent

theorem step_tidy {a : Action} (tidy : c.connections.Tidy) : (c.step a).1.connections.Tidy := by
  rw [step_connections]
  split
  · exact Connections.acquire_tidy tidy
  split
  · exact Connections.release_tidy tidy
  · exact tidy

theorem step_given {a : Action} (given : c.connections = .ofGiven) :
    (c.step a).1.connections = .ofGiven := by
  rw [step_connections, given]
  split
  · rfl
  split <;> rfl

end Steps

theorem run_tidy {c : AgentClient} (tidy : c.connections.Tidy) (actions : List Action) :
    (c.run actions).1.connections.Tidy := by
  induction actions generalizing c with
  | nil => exact tidy
  | cons a rest ih => exact ih (c.step_tidy tidy)

theorem run_given {c : AgentClient} (given : c.connections = .ofGiven) (actions : List Action) :
    (c.run actions).1.connections = .ofGiven ∧ ∀ q ∈ (c.run actions).2, q.connection = 0 := by
  induction actions generalizing c with
  | nil => exact ⟨given, fun q sent => by cases sent⟩
  | cons a rest ih =>
    obtain ⟨kept, later⟩ := ih (c.step_given given (a := a))
    refine ⟨kept, ?_⟩
    intro q sent
    rcases List.mem_append.mp sent with now | after
    · rw [(c.step_sent now).2, given]
      rfl
    · exact later q after

/-- Every request of a run goes out in one of its steps, and is sent over the open connection that
the client holds. -/
theorem run_sent {c : AgentClient} (tidy : c.connections.Tidy) {actions : List Action} {q : Request}
    (sent : q ∈ (c.run actions).2) : ∃ before a after, actions = before ++ a :: after ∧
      q ∈ ((c.run before).1.step a).2 ∧
      ((c.run before).1.step a).1.connections.Opened q.connection := by
  induction actions generalizing c with
  | nil => cases sent
  | cons a rest ih =>
    rcases List.mem_append.mp sent with now | later
    · refine ⟨[], a, rest, rfl, now, ?_⟩
      obtain ⟨connects, carrier⟩ := c.step_sent now
      apply ((c.step_tidy tidy).opened_iff q.connection).mpr
      rw [step_connections, if_pos connects, carrier]
      exact c.connections.acquire_held
    · obtain ⟨before, b, after, split, there, opened⟩ := ih (c.step_tidy tidy) later
      exact ⟨a :: before, b, after, congrArg (a :: ·) split, there, opened⟩

/-- A connection that was given carries every request, is never closed and stays the only one.
Without one, every request goes out over an open connection; after any run the open connections are
the held one and no other, closing or leaving gives it up, closing again changes nothing, and the
next call makes a connection that was not there. -/
theorem run_connections (baseUrl : String) (config sourceName : Datum) (timeout : Json)
    (actions : List Action) :
    (let given := (make baseUrl config sourceName timeout .ofGiven).run actions
     given.1.connections = .ofGiven ∧ ∀ q ∈ given.2, q.connection = 0) ∧
    let start := make baseUrl config sourceName timeout .empty
    let c := (start.run actions).1
    (∀ q ∈ (start.run actions).2, ∃ before a after, actions = before ++ a :: after ∧
      q ∈ ((start.run before).1.step a).2 ∧
      ((start.run before).1.step a).1.connections.Opened q.connection) ∧
    (∀ i, c.connections.Opened i ↔ c.connections.held = some i) ∧
    c.close.close = c.close ∧
    ∀ a, let after := (c.step a).1.connections
      (a.closes = true → after.held = none) ∧
      (a.connects = true → c.connections.held = none →
        after.isOpen = c.connections.isOpen ++ [true] ∧
          after.held = some c.connections.isOpen.length) := by
  have tidy : ((make baseUrl config sourceName timeout .empty).run actions).1.connections.Tidy :=
    run_tidy Connections.empty_tidy actions
  refine ⟨run_given rfl actions, fun q sent => run_sent Connections.empty_tidy sent,
    tidy.opened_iff, ?_, ?_⟩
  · exact close_close _
  · intro a
    dsimp only
    rw [step_connections]
    constructor
    · intro closes
      cases a with
      | close => exact Connections.release_held tidy
      | leave => exact Connections.release_held tidy
      | call e request agent => cases closes
      | health agent => cases closes
      | enter => cases closes
    · intro connects free
      rw [if_pos connects, Connections.acquire_fresh free]
      exact ⟨rfl, rfl⟩

end AgentClient
end AgentWire
