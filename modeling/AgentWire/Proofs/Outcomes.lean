import AgentWire.Proofs.Normal
import AgentWire.Proofs.Ownership
import Mathlib

/-! What a call ends with. The settings of the client say whether a request goes out and what stands
in it; the reply alone says what becomes of the call, whatever the client did before. -/
namespace AgentWire

/-- The requests an endpoint is called with: a record of the kind it asks for, or none where it can
do without. -/
def Endpoint.Takes (e : Endpoint) : Option Value → Prop
  | none => e = .capabilities ∨ e = .schema
  | some v => ∃ r fields, e.request? = some r ∧ v = .record r fields

/-- The result and the warnings of a call, by the reply to its request. -/
inductive Endpoint.Ends (e : Endpoint) (q : Request) :
    Reply → Except CallFault Value → List String → Prop where
  | unanswered (message : String) :
      Ends e q (.failure message) (.error (.agent ⟨0, message, none⟩)) []
  | answered {status : Nat} {bytes : List UInt8} (placed : q.url.scheme ≠ [])
      (success : 200 ≤ status ∧ status < 300) :
      Ends e q (.answer status bytes) ((decodeBytes e.response.shape bytes).mapError .decode) []
  | explained {status : Nat} {bytes : List UInt8} {v : Value} {message : String}
      (placed : q.url.scheme ≠ []) (failed : ¬ (200 ≤ status ∧ status < 300))
      (decoded : decodeBytes (.record .errorResponse) bytes = .ok v)
      (said : v.field? "message" = some (.text message)) :
      Ends e q (.answer status bytes) (.error (.agent ⟨status, message, some v⟩))
        [AgentClient.warning q ⟨status, message, some v⟩]
  | verbatim {status : Nat} {bytes : List UInt8} {fault : DecodeError} (placed : q.url.scheme ≠ [])
      (failed : ¬ (200 ≤ status ∧ status < 300))
      (undecoded : decodeBytes (.record .errorResponse) bytes = .error fault) :
      Ends e q (.answer status bytes)
        (.error (.agent ⟨status, String.ofList (Utf8.repair bytes), none⟩))
        [AgentClient.warning q ⟨status, String.ofList (Utf8.repair bytes), none⟩]
  | placeless {status : Nat} {bytes : List UInt8} (placeless : q.url.scheme = []) :
      Ends e q (.answer status bytes) (.error (.noScheme q.url.text)) []

/-- The connection of a request has no part in what becomes of it. -/
theorem Endpoint.Ends.unique {e : Endpoint} {q : Request} {n : Nat} {reply : Reply}
    {result other : Except CallFault Value} {warnings others : List String}
    (here : e.Ends q reply result warnings)
    (there : e.Ends { q with connection := n } reply other others) :
    result = other ∧ warnings = others := by
  cases here with
  | unanswered message =>
    cases there
    exact ⟨rfl, rfl⟩
  | answered placed success =>
    cases there with
    | answered => exact ⟨rfl, rfl⟩
    | explained _ failed => exact absurd success failed
    | verbatim _ failed => exact absurd success failed
    | placeless placeless => exact absurd placeless placed
  | explained placed failed decoded said =>
    cases there with
    | answered _ success => exact absurd success failed
    | explained _ _ again same =>
      cases decoded.symm.trans again
      cases said.symm.trans same
      exact ⟨rfl, rfl⟩
    | verbatim _ _ undecoded => cases decoded.symm.trans undecoded
    | placeless placeless => exact absurd placeless placed
  | verbatim placed failed undecoded =>
    cases there with
    | answered _ success => exact absurd success failed
    | explained _ _ decoded => cases undecoded.symm.trans decoded
    | verbatim => exact ⟨rfl, rfl⟩
    | placeless placeless => exact absurd placeless placed
  | placeless placeless =>
    cases there with
    | answered placed => exact absurd placeless placed
    | explained placed => exact absurd placeless placed
    | verbatim placed => exact absurd placeless placed
    | placeless => exact ⟨rfl, rfl⟩

/-- A reply that decodes as an error response says what is wrong. -/
theorem said_of_decode {bytes : List UInt8} {v : Value}
    (decoded : decodeBytes (.record .errorResponse) bytes = .ok v) :
    ∃ message, v.field? "message" = some (.text message) := by
  have reads : ∃ d, readShape d (.record .errorResponse) = .ok v := by
    unfold decodeBytes decodeText at decoded
    split at decoded
    · split at decoded
      · rename_i d _
        exact ⟨d, decode_eq_ok_iff.mp decoded⟩
      · cases decoded
    · cases decoded
  obtain ⟨d, reads⟩ := reads
  obtain ⟨members, entries, rfl, rfl, all, _⟩ := read_record_iff.mp reads
  cases all with
  | @cons _ details _ _ first more =>
    cases more with
    | @cons _ said _ _ second _ =>
      obtain ⟨_, details⟩ := details
      obtain ⟨_, said⟩ := said
      obtain ⟨rfl, _⟩ := first
      obtain ⟨rfl, field⟩ := second
      obtain ⟨x, found⟩ := Json.exists_lookup (field.name_mem rfl)
      obtain ⟨message, _, rfl⟩ := read_text_iff.mp (field.read found (req_not_skips _ _ x))
      exact ⟨message, rfl⟩

namespace AgentClient

/-- The headers of a client as they go out. -/
def Sends (c : AgentClient) (headers : List (String × List UInt8)) : Prop :=
  ∃ hs, c.headers = .ok hs ∧ hs.sent = .ok headers

/-- The address of a path of the agent, if it is one and its host can be named. -/
def address (c : AgentClient) (path : String) : Except CallFault Url := do
  let url ← (Url.target (c.baseUrl ++ path).toList).mapError .url
  checkHost url
  return url

/-- With headers that can be sent and a finite body nothing but the address keeps a request back. -/
theorem request_addressed {c : AgentClient} {headers : List (String × List UInt8)}
    (sends : c.Sends headers) (m : Method) (path : String) {body : Option Json}
    (finite : (body.map Json.isFinite).getD true = true) (n : Nat) :
    c.request m path body n =
      (c.address path).map fun url => ⟨m, url, headers, (body.map bodyText).getD [], n⟩ := by
  obtain ⟨hs, made, sent⟩ := sends
  simp only [request, address, bind, Except.bind, made, sent, finite, Except.mapError,
    Bool.not_true, Bool.false_eq_true, if_false]
  cases Url.target (c.baseUrl ++ path).toList with
  | error f => rfl
  | ok url =>
    dsimp only
    cases checkHost url <;> rfl

/-- The body of a call is finite whatever its request holds. -/
theorem bodyOf_finite {e : Endpoint} {request : Option Value} (takes : e.Takes request) :
    ((bodyOf e request).map Json.isFinite).getD true = true := by
  cases request with
  | none => rcases takes with rfl | rfl <;> rfl
  | some v =>
    obtain ⟨r, fields, requests, rfl⟩ := takes
    rw [bodyOf_record requests]
    exact Json.isFinite_of_finite (withoutNonFinite_finite _)

/-! Whatever a client does, its settings stay as they are. -/

theorem send_client (c : AgentClient) (m : Method) (path : String) (body : Option Json)
    (agent : Agent) :
    (c.send m path body agent).client = { c with connections := c.connections.acquire.2 } := by
  unfold send
  dsimp only
  split
  · rfl
  split
  · split <;> rfl
  · rfl

theorem call_client (c : AgentClient) (e : Endpoint) (body : Option Json) (agent : Agent) :
    (c.call e body agent).client = { c with connections := c.connections.acquire.2 } := by
  unfold call
  dsimp only
  split
  · exact c.send_client ..
  · split <;> exact c.send_client ..

theorem step_settings (c : AgentClient) (a : Action) :
    ∃ connections, (c.step a).1 = { c with connections } := by
  cases a with
  | call e request agent => exact ⟨_, c.call_client e _ agent⟩
  | health agent => exact ⟨_, c.send_client .get "/health" none agent⟩
  | close => exact ⟨_, rfl⟩
  | enter => exact ⟨_, rfl⟩
  | leave => exact ⟨_, rfl⟩

theorem run_settings (c : AgentClient) (actions : List Action) :
    ∃ connections, (c.run actions).1 = { c with connections } := by
  induction actions generalizing c with
  | nil => exact ⟨_, rfl⟩
  | cons a rest ih =>
    obtain ⟨_, first⟩ := c.step_settings a
    obtain ⟨connections, later⟩ := ih (c.step a).1
    refine ⟨connections, later.trans ?_⟩
    rw [first]

/-! One call. -/

theorem errorOf_explained {status : Nat} {bytes : List UInt8} {v : Value} {message : String}
    (decoded : decodeBytes (.record .errorResponse) bytes = .ok v)
    (said : v.field? "message" = some (.text message)) :
    errorOf status bytes = ⟨status, message, some v⟩ := by
  simp only [errorOf, decoded, said]

theorem errorOf_verbatim {status : Nat} {bytes : List UInt8} {fault : DecodeError}
    (undecoded : decodeBytes (.record .errorResponse) bytes = .error fault) :
    errorOf status bytes = ⟨status, String.ofList (Utf8.repair bytes), none⟩ := by
  simp only [errorOf, undecoded]

section Calls

variable {c : AgentClient} {headers : List (String × List UInt8)} {e : Endpoint}
  {request : Option Value}

/-- A reply is taken as the rules say. -/
theorem call_replied {body : Option Json} {q : Request} (agent : Agent)
    (made : ({ c with connections := c.connections.acquire.2 }).request
      (if e.request?.isSome then .post else .get) e.path body c.connections.acquire.1 = .ok q) :
    (c.call e body agent).sent = [q] ∧
      e.Ends q (agent q) (c.call e body agent).result (c.call e body agent).warnings := by
  unfold call send
  simp only [made]
  cases agent q with
  | failure message => exact ⟨rfl, .unanswered message⟩
  | answer status bytes =>
    by_cases placed : q.url.scheme = []
    · simp only [placed, List.isEmpty_nil, if_true]
      exact ⟨trivial, .placeless placed⟩
    · simp only [List.isEmpty_eq_false_iff.mpr placed, Bool.false_eq_true, if_false]
      by_cases success : 200 ≤ status ∧ status < 300
      · simp only [isSuccess, success, decide_true, Bool.and_self, if_true]
        exact ⟨trivial, .answered placed success⟩
      · have failed : isSuccess status = false := by
          simpa [isSuccess] using success
        simp only [failed, Bool.false_eq_true, if_false]
        refine ⟨trivial, ?_⟩
        cases decoded : decodeBytes (.record .errorResponse) bytes with
        | ok v =>
          obtain ⟨message, said⟩ := said_of_decode decoded
          rw [errorOf_explained decoded said]
          exact .explained placed success decoded said
        | error fault =>
          rw [errorOf_verbatim decoded]
          exact .verbatim placed success decoded

theorem call_refused {body : Option Json} {f : CallFault} (agent : Agent)
    (refused : ({ c with connections := c.connections.acquire.2 }).request
      (if e.request?.isSome then .post else .get) e.path body c.connections.acquire.1 = .error f) :
    (c.call e body agent).result = .error f ∧ (c.call e body agent).sent = [] ∧
      (c.call e body agent).warnings = [] := by
  unfold call send
  simp only [refused, and_self]

/-- What the settings, the request and the reply make of a call. -/
theorem call_ends (sends : c.Sends headers) (takes : e.Takes request) (agent : Agent) :
    let o := c.call e (bodyOf e request) agent
    match c.address e.path with
    | .error f => o.result = .error f ∧ o.sent = [] ∧ o.warnings = []
    | .ok url =>
      let q : Request := ⟨if e.request?.isSome then .post else .get, url, headers,
        ((bodyOf e request).map bodyText).getD [], c.connections.acquire.1⟩
      o.sent = [q] ∧ e.Ends q (agent q) o.result o.warnings := by
  have asks : ({ c with connections := c.connections.acquire.2 } : AgentClient).Sends headers :=
    sends
  have made :=
    request_addressed asks (if e.request?.isSome then .post else .get) e.path (bodyOf_finite takes)
      c.connections.acquire.1
  have there : ({ c with connections := c.connections.acquire.2 } : AgentClient).address e.path =
    c.address e.path :=
    rfl
  rw [there] at made
  cases address : c.address e.path with
  | error f =>
    rw [address] at made
    exact call_refused agent made
  | ok url =>
    rw [address] at made
    exact call_replied agent made

/-- Whatever a client did before, a call with headers that can be sent and an address that is one
sends one request, and the reply alone decides what it ends with; without such an address nothing is
sent. -/
theorem call_outcome (sends : c.Sends headers) (takes : e.Takes request) (agent : Agent)
    (before : List Action) :
    let o := (c.run before).1.call e (bodyOf e request) agent
    match c.address e.path with
    | .error f => o.result = .error f ∧ o.sent = [] ∧ o.warnings = []
    | .ok url => ∃ n, let q : Request := ⟨if e.request?.isSome then .post else .get, url, headers,
          ((bodyOf e request).map bodyText).getD [], n⟩
        o.sent = [q] ∧ e.Ends q (agent q) o.result o.warnings ∧
        ((∀ n, agent { q with connection := n } = agent q) →
          let first := c.call e (bodyOf e request) agent
          o.result = first.result ∧ o.warnings = first.warnings) := by
  obtain ⟨connections, settings⟩ := c.run_settings before
  rw [settings]
  have now := call_ends (c := { c with connections }) sends takes agent
  have first := call_ends sends takes agent
  dsimp only at now first ⊢
  have there : ({ c with connections } : AgentClient).address e.path = c.address e.path := rfl
  rw [there] at now
  cases address : c.address e.path with
  | error f =>
    rw [address] at now
    exact now
  | ok url =>
    rw [address] at now first
    refine ⟨connections.acquire.1, now.1, now.2, fun alike => ?_⟩
    have same := alike c.connections.acquire.1
    exact now.2.unique (same ▸ first.2)

end Calls

/-- A client with a source of its own. -/
def chinook : AgentClient :=
  make "http://agent.test/" (.map none [(.str "db", .str "chinook.db")]) (.str "chinook")
    (.int 30) .empty

def chinookHeaders : List (String × List UInt8) :=
  [("Accept", Utf8.encode "application/json".toList),
    (Headers.configName, Utf8.encode "\x7b\"db\":\"chinook.db\"\x7d".toList),
    (Headers.sourceName, Utf8.encode "chinook".toList)]

theorem chinook_sends : chinook.Sends chinookHeaders := by
  refine ⟨[("Accept", .str "application/json"),
    (Headers.configName, .str "\x7b\"db\":\"chinook.db\"\x7d"),
    (Headers.sourceName, .str "chinook")], ?_, ?_⟩ <;> cbv

def countArtists : Value :=
  .record .rawRequest [("query", .text "SELECT count(*) FROM Artist")]

/-- Out of service, in words that end within a character. -/
def unavailable : Agent :=
  fun _ => .answer 503 [0x6F, 0x66, 0x66, 0xC3]

theorem call_outcome_unavailable :
    chinook.Sends chinookHeaders ∧ Endpoint.raw.Takes (some countArtists) ∧
      let o := (chinook.run [.health unavailable, .close]).1.call .raw
        (bodyOf .raw (some countArtists)) unavailable
      o.sent.length = 1 ∧ o.result = .error (.agent ⟨503, "off\ufffd", none⟩) ∧
        o.warnings.length = 1 := by
  have takes : Endpoint.raw.Takes (some countArtists) := ⟨.rawRequest, _, rfl, rfl⟩
  have address : chinook.address Endpoint.raw.path =
      .ok ⟨"http".toList, [], "agent.test".toList, none, "/raw".toList, none, none⟩ := by
    cbv
  have undecoded : decodeBytes (.record .errorResponse) [0x6F, 0x66, 0x66, 0xC3] =
      .error (.malformed (.encoding .endOfData)) := rfl
  have outcome := call_outcome chinook_sends takes unavailable [.health unavailable, .close]
  rw [address] at outcome
  obtain ⟨n, sent, ends, _⟩ := outcome
  refine ⟨chinook_sends, takes, congrArg List.length sent, ?_⟩
  generalize ((chinook.run _).1.call _ _ _).result = result at ends ⊢
  generalize ((chinook.run _).1.call _ _ _).warnings = warnings at ends ⊢
  cases ends with
  | answered _ success => exact absurd success (by decide)
  | explained _ _ decoded => cases undecoded.symm.trans decoded
  | verbatim => exact ⟨rfl, rfl⟩
  | placeless placeless => cases placeless

/-- An address whose port is no number keeps the request back, although its headers could be
sent. -/
theorem call_outcome_misplaced :
    ¬ ∀ (c : AgentClient) (headers : List (String × List UInt8)) (e : Endpoint)
      (request : Option Value) (agent : Agent), c.Sends headers → e.Takes request →
        ∃ q, (c.call e (bodyOf e request) agent).sent = [q] := by
  intro always
  have sends : ({ chinook with baseUrl := "http://agent.test:port" } : AgentClient).Sends
    chinookHeaders :=
    chinook_sends
  have misplaced : ({ chinook with baseUrl := "http://agent.test:port" } : AgentClient).address
    Endpoint.raw.path =
      .error (.url (.tcpPort "port".toList)) := by
    cbv
  have takes : Endpoint.raw.Takes (some countArtists) := ⟨.rawRequest, _, rfl, rfl⟩
  obtain ⟨q, sent⟩ := always _ chinookHeaders .raw (some countArtists) unavailable sends takes
  have ends := call_ends sends takes unavailable
  rw [misplaced] at ends
  rw [ends.2.1] at sent
  cases sent

end AgentClient
end AgentWire
