import AgentWire.Registry
/-!
The endpoints of an agent that exchange wire types.
-/
namespace AgentWire

inductive Endpoint where
  | capabilities
  | schema
  | query
  | explain
  | mutation
  | raw
  deriving DecidableEq, Repr

namespace Endpoint

def all : List Endpoint :=
  [.capabilities, .schema, .query, .explain, .mutation, .raw]

def name : Endpoint → String
  | .capabilities => "capabilities"
  | .schema => "schema"
  | .query => "query"
  | .explain => "explain"
  | .mutation => "mutation"
  | .raw => "raw"

def path (e : Endpoint) : String :=
  "/" ++ e.name

def request? : Endpoint → Option Record
  | .capabilities => none
  | .schema => some .schemaRequest
  | .query | .explain => some .queryRequest
  | .mutation => some .mutationRequest
  | .raw => some .rawRequest

def response : Endpoint → WireType
  | .capabilities => .record .capabilitiesResponse
  | .schema => .record .schemaResponse
  | .query => .alias .queryResponse
  | .explain => .record .explainResponse
  | .mutation => .record .mutationResponse
  | .raw => .record .rawResponse

end Endpoint

end AgentWire
