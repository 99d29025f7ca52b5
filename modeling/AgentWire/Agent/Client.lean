import AgentWire.Agent.Connection
import AgentWire.Agent.Endpoint
import AgentWire.Agent.Header
import AgentWire.Agent.Url
import AgentWire.Wire.Codec
import AgentWire.Wire.Query
/-!
A client of an agent: what it sends for a call, what it makes of the answer, and what becomes of its
connections.
-/
namespace AgentWire

inductive Method where
  | get
  | post
  deriving DecidableEq, Repr

def Method.name : Method → String
  | .get => "GET"
  | .post => "POST"

inductive Reply where
  | answer (status : Nat) (body : List UInt8)
  | failure (message : String)

structure Request where
  method : Method
  url : Url
  headers : List (String × List UInt8)
  body : List Char
  connection : Nat

abbrev Agent := Request → Reply

/-- An agent answered with an error, or did not answer at all: then the status is zero. -/
structure AgentError where
  status : Nat
  message : String
  response : Option Value

def AgentError.text (e : AgentError) : String :=
  "Agent returned " ++ toString e.status ++ ": " ++ e.message

inductive CallFault where
  | agent (e : AgentError)
  | decode (e : DecodeError)
  | url (f : UrlFault)
  | header (f : HeaderFault)
  | body
  | hostname (f : Hostname.Fault)
  /-- An answer has come, but from an address without a scheme: nobody can tell whose it is. -/
  | noScheme (address : String)

def CallFault.message : CallFault → String
  | .agent e => e.text
  | .decode e => e.message
  | .url f => f.message
  | .header f => f.message
  | .body => "Out of range float values are not JSON compliant"
  | .hostname f => f.message
  | .noScheme address => "unknown url type: " ++ String.ofList (Quoted.text address.toList)

structure AgentClient where
  baseUrl : String
  config : Datum
  sourceName : Datum
  timeout : Json
  connections : Connections

structure Outcome (α : Type) where
  result : Except CallFault α
  sent : List Request
  warnings : List String
  client : AgentClient

mutual
def Json.isFinite : Json → Bool
  | .num x => x.isFinite
  | .arr items => Json.areFinite items
  | .obj members => Json.membersAreFinite members
  | .null | .bool _ | .int _ | .str _ => true

def Json.areFinite : List Json → Bool
  | [] => true
  | j :: rest => Json.isFinite j && Json.areFinite rest

def Json.membersAreFinite : List (String × Json) → Bool
  | [] => true
  | (_, j) :: rest => Json.isFinite j && Json.membersAreFinite rest
end

namespace AgentClient

def defaultTimeout : Float := 30.0

/-- A client for an agent. Slashes at the end of the address are dropped. -/
def make (baseUrl : String) (config sourceName : Datum) (timeout : Json)
    (connections : Connections) :
    AgentClient :=
  let trimmed := (baseUrl.toList.reverse.dropWhile (· = '/')).reverse
  ⟨String.ofList trimmed, config, sourceName, timeout, connections⟩

def headers (c : AgentClient) : Except CallFault Headers :=
  (Headers.ofSource c.config c.sourceName).mapError .header

def bodyText (body : Json) : List Char :=
  body.write ⟨.compact, false⟩ 0

/-- Checks that a host can be named in a header: an encoded name must stand for a name in letters,
and a zone must be ASCII. -/
def checkHost (url : Url) : Except CallFault Unit := do
  if Hostname.encodedMark.isPrefixOf url.host then
    let _ ← (Hostname.decode url.host).mapError .hostname
  let _ ← (Headers.asciiBytes url.hostText).mapError .header

def request (c : AgentClient) (m : Method) (path : String) (body : Option Json) (connection : Nat) :
    Except CallFault Request := do
  let headers ← c.headers
  let url ← (Url.target (c.baseUrl ++ path).toList).mapError .url
  let headers ← headers.sent.mapError .header
  if !(body.map Json.isFinite).getD true then throw .body
  checkHost url
  return ⟨m, url, headers, (body.map bodyText).getD [], connection⟩

/-- Sends a request and takes the reply, if nothing keeps the request from going out. An answer
counts only if the address has a scheme. -/
def send (c : AgentClient) (m : Method) (path : String) (body : Option Json) (agent : Agent) :
    Outcome (Request × Nat × List UInt8) :=
  let (connection, connections) := c.connections.acquire
  let c := { c with connections }
  match c.request m path body connection with
  | .error f => ⟨.error f, [], [], c⟩
  | .ok r => match agent r with
    | .answer status bytes =>
      if r.url.scheme.isEmpty then ⟨.error (.noScheme r.url.text), [r], [], c⟩
      else ⟨.ok (r, status, bytes), [r], [], c⟩
    | .failure message => ⟨.error (.agent ⟨0, message, none⟩), [r], [], c⟩

def isSuccess (status : Nat) : Bool :=
  200 ≤ status && status < 300

/-- The error that an answer stands for: its message is that of an error response, or else its whole
text. -/
def errorOf (status : Nat) (bytes : List UInt8) : AgentError :=
  match decodeBytes (.record .errorResponse) bytes with
  | .ok v => match v.field? "message" with
    | some (.text message) => ⟨status, message, some v⟩
    | _ => ⟨status, String.ofList (Utf8.repair bytes), some v⟩
  | .error _ => ⟨status, String.ofList (Utf8.repair bytes), none⟩

def warning (r : Request) (e : AgentError) : String :=
  "Agent " ++ r.method.name ++ " " ++ r.url.text ++ " returned " ++ toString e.status ++
    ": " ++ e.message

def call (c : AgentClient) (e : Endpoint) (body : Option Json) (agent : Agent) : Outcome Value :=
  let m := if e.request?.isSome then Method.post else .get
  let o := c.send m e.path body agent
  match o.result with
  | .error f => ⟨.error f, o.sent, [], o.client⟩
  | .ok (r, status, bytes) =>
    if isSuccess status then
      ⟨(decodeBytes e.response.shape bytes).mapError .decode, o.sent, [], o.client⟩
    else
      let error := errorOf status bytes
      ⟨.error (.agent error), o.sent, [warning r error], o.client⟩

/-- The body of a call: the request in its own form, none for null. A schema is asked for with an
empty object if the request is missing or does not count as given. -/
def bodyOf (e : Endpoint) (request : Option Value) : Option Json :=
  match e.request?, request with
  | none, _ => none
  | some _, none => some (.obj [])
  | some _, some v =>
    if e = .schema && !v.isGiven then some (.obj [])
    else match v.encodeAlone with
      | .null => none
      | j => some j

def health (c : AgentClient) (agent : Agent) : Outcome Bool :=
  let o := c.send .get "/health" none agent
  ⟨o.result.map fun (_, status, _) => isSuccess status, o.sent, [], o.client⟩

def close (c : AgentClient) : AgentClient :=
  { c with connections := c.connections.release }

end AgentClient

end AgentWire
