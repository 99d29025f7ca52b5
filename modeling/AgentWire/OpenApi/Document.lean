import AgentWire.Agent.Endpoint
import AgentWire.OpenApi.Component
/-!
The exported document: the endpoints of an agent and the components they and the registered types
refer to.
-/
namespace AgentWire

namespace Paths

def content (component : String) : Json :=
  .obj [("application/json", .obj [("schema", Schema.refTo component)])]

def response (description component : String) : Json :=
  .obj [("description", .str description), ("content", content component)]

/-- The operation of an endpoint. Every endpoint may answer with an error. -/
def operation (e : Endpoint) : Json :=
  let responses := ("responses", Json.obj
    [("200", response (e.name ++ " response") e.response.name),
     ("default", response "error" Record.errorResponse.name)])
  match e.request? with
  | none => .obj [("get", .obj [responses])]
  | some r => .obj [("post", .obj [responses,
      ("requestBody", .obj [("required", .bool true), ("content", content r.name)])])]

def health : Json :=
  .obj [("get", .obj [("responses",
    .obj [("204", .obj [("description", .str "agent is healthy")])])])]

def all : Json :=
  .obj (Endpoint.all.map (fun e => (e.path, operation e)) ++ [("/health", health)])

end Paths

namespace Document

def defaultTitle : String := "Hasura GraphQL Data Connector Agent API"

def defaultVersion : String := "0.1.0"

/-- The document of the types of a registry, or of every wire type if the registry holds none; with
the warnings of its components. -/
def ofRegistry (reg : Registry) (title version : String) : Json × List String :=
  let (components, warnings) :=
    Components.ofRegistry (if reg.entries.isEmpty then Registry.standard else reg)
  (.obj
    [("openapi", .str "3.0.0"),
     ("info", .obj [("title", .str title), ("version", .str version)]),
     ("paths", Paths.all),
     ("components", .obj [("schemas", components.toJson)])], warnings)

end Document

end AgentWire
