import AgentWire.Agent.Client
import AgentWire.Proofs.Documents

/-! What a client sends. A call sends the one request that was made for it or none, and a body that
is finite keeps no request back. -/
namespace AgentWire

theorem Json.isFinite_of_finite {j : Json} (finite : j.Finite) : j.isFinite = true := by
  induction j using Json.by_parts with
  | whole j items_finite members_finite =>
    cases j with
    | num x => exact finite
    | arr items =>
      have each : ∀ x ∈ items, x.isFinite = true := by
        intro x inside
        exact items_finite x inside (Json.everywhere_items finite inside)
      clear finite items_finite members_finite
      show Json.areFinite items = true
      induction items with
      | nil => rfl
      | cons x rest ih =>
        rw [List.forall_mem_cons] at each
        rw [Json.areFinite, each.1, ih each.2]
        rfl
    | obj members =>
      have each : ∀ m ∈ members, m.2.isFinite = true := by
        intro m inside
        exact members_finite m inside (Json.everywhere_members finite inside)
      clear finite items_finite members_finite
      show Json.membersAreFinite members = true
      induction members with
      | nil => rfl
      | cons m rest ih =>
        rw [List.forall_mem_cons] at each
        rw [Json.membersAreFinite, each.1, ih each.2]
        rfl
    | _ => rfl

namespace AgentClient

theorem request_made {c : AgentClient} {m : Method} {path : String} {body : Option Json} {n : Nat}
    {q : Request} (made : c.request m path body n = .ok q) :
    ∃ url headers, q = ⟨m, url, headers, (body.map bodyText).getD [], n⟩ := by
  unfold request at made
  simp only [bind_eq_ok_iff] at made
  obtain ⟨_, _, url, _, headers, _, made⟩ := made
  split at made
  · cases made
  · obtain ⟨_, _, same⟩ := bind_eq_ok_iff.mp made
    cases same
    exact ⟨url, headers, rfl⟩

theorem request_finite {c : AgentClient} {m : Method} {path : String} {body : Json}
    (finite : body.isFinite = true) (n : Nat) : c.request m path (some body) n =
      (c.request m path none n).map fun q => { q with body := bodyText body } := by
  simp only [request, bind, Except.bind, Option.map_some, Option.map_none, Option.getD_some,
    Option.getD_none, finite, Bool.not_true, Bool.false_eq_true, if_false]
  cases c.headers with
  | error f => rfl
  | ok headers =>
    dsimp only
    cases (Url.target (c.baseUrl ++ path).toList).mapError CallFault.url with
    | error f => rfl
    | ok url =>
      dsimp only
      cases headers.sent.mapError CallFault.header with
      | error f => rfl
      | ok sent =>
        dsimp only
        cases checkHost url <;> rfl

/-- Nothing is sent exactly if no request can be made. -/
theorem sent_eq_nil_iff {c : AgentClient} {m : Method} {path : String} {body : Option Json}
    {agent : Agent} :
    (c.send m path body agent).sent = [] ↔
      ∃ f, ({ c with connections := c.connections.acquire.2 }).request m path body
        c.connections.acquire.1 = .error f := by
  unfold send
  dsimp only
  cases made : ({ c with connections := c.connections.acquire.2 }).request m path body
    c.connections.acquire.1 with
  | error f => exact iff_of_true rfl ⟨f, rfl⟩
  | ok q =>
    refine iff_of_false ?_ (fun ⟨f, same⟩ => by cases same)
    dsimp only
    split
    · split <;> exact List.cons_ne_nil _ _
    · exact List.cons_ne_nil _ _

theorem sent_finite {c : AgentClient} {m : Method} {path : String} {body : Json} {agent : Agent}
    (finite : body.isFinite = true) :
    (c.send m path (some body) agent).sent = [] ↔ (c.send m path none agent).sent = [] := by
  rw [sent_eq_nil_iff, sent_eq_nil_iff, request_finite finite]
  generalize ({ c with connections := c.connections.acquire.2 }).request m path none
    c.connections.acquire.1 = made
  cases made with
  | error f => exact iff_of_true ⟨f, rfl⟩ ⟨f, rfl⟩
  | ok q => exact iff_of_false (fun ⟨f, same⟩ => by cases same) (fun ⟨f, same⟩ => by cases same)

/-- Whatever becomes of a call, what it sends is the one request that was made for it. -/
theorem send_sent {c : AgentClient} {m : Method} {path : String} {body : Option Json}
    {agent : Agent} {q : Request} (sent : q ∈ (c.send m path body agent).sent) :
    ∃ n, c.request m path body n = .ok q := by
  unfold send at sent
  dsimp only at sent
  split at sent
  · cases sent
  · rename_i made
    refine ⟨_, made.trans ?_⟩
    split at sent
    · split at sent <;> rw [List.mem_singleton.mp sent]
    · rw [List.mem_singleton.mp sent]

theorem call_sent (c : AgentClient) (e : Endpoint) (body : Option Json) (agent : Agent) :
    (c.call e body agent).sent =
      (c.send (if e.request?.isSome then .post else .get) e.path body agent).sent := by
  unfold call
  dsimp only
  split
  · rfl
  · split <;> rfl

theorem body_of_sent {c : AgentClient} {e : Endpoint} {body : Option Json} {agent : Agent}
    {q : Request} (sent : q ∈ (c.call e body agent).sent) :
    q.body = (body.map bodyText).getD [] := by
  rw [call_sent] at sent
  obtain ⟨n, made⟩ := send_sent sent
  obtain ⟨url, headers, rfl⟩ := request_made made
  rfl

/-- The body of a request for a record is the JSON form of the record. -/
theorem bodyOf_record {e : Endpoint} {r : Record} (requests : e.request? = some r)
    {fields : List (String × Value)} :
    bodyOf e (some (.record r fields)) = some (Value.record r fields).encode := by
  simp only [bodyOf, requests, Value.isGiven, Bool.not_true, Bool.and_false,
    Bool.false_eq_true, if_false]
  rfl

end AgentClient

end AgentWire
