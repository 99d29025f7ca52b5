import AgentWire.Json.Value
import AgentWire.Wire.Declaration
/-!
Schemas: what the exported document says of a value. A schema is the published counterpart of a
shape; records, enumerations and free JSON are components of their own and are referred to by name.
-/
namespace AgentWire

inductive Schema where
  | ref (component : String)
  | string
  | boolean
  | integer
  | between (low high : Int)
  | null
  | const (word : String)
  /-- An array with at least so many items; zero is not written. -/
  | array (items : Schema) (atLeast : Nat)
  | map (values : Schema)
  /-- Exactly one of some components; each goes with the text that its `type` must be. -/
  | oneOf (variants : List (String × String))
  | anyOf (first second : Schema)
  deriving DecidableEq, Repr

/-- Where a schema stands decides the order of its keys: sorted inside of a component that is a
record, as they are listed here when the schema is a component by itself. -/
inductive KeyOrder where
  | sorted
  | listed
  deriving DecidableEq, Repr

def placeMember (key : String) (value : Json) : List (String × Json) → List (String × Json)
  | [] => [(key, value)]
  | (k, v) :: rest =>
    if key < k then (key, value) :: (k, v) :: rest else (k, v) :: placeMember key value rest

def KeyOrder.arrange (order : KeyOrder) (members : List (String × Json)) : List (String × Json) :=
  match order with
  | .listed => members
  | .sorted => members.foldr (fun (k, v) done => placeMember k v done) []

namespace Schema

def componentRef (name : String) : String :=
  "#/components/schemas/" ++ name

def refTo (name : String) : Json :=
  .obj [("$ref", .str (componentRef name))]

def members (order : KeyOrder) : Schema → List (String × Json)
  | .ref component => [("$ref", .str (componentRef component))]
  | .string => [("type", .str "string")]
  | .boolean => [("type", .str "boolean")]
  | .integer => [("type", .str "integer")]
  | .between low high =>
    order.arrange [("type", .str "integer"), ("maximum", .int high), ("minimum", .int low)]
  | .null => [("type", .str "null")]
  | .const word => order.arrange [("const", .str word), ("type", .str "string")]
  | .array items atLeast =>
    order.arrange ([("type", .str "array"), ("items", .obj (items.members order))] ++
      if atLeast = 0 then [] else [("minItems", .int atLeast)])
  | .map values =>
    order.arrange [("type", .str "object"), ("additionalProperties", .obj (values.members order))]
  | .oneOf variants =>
    order.arrange
      [("oneOf", .arr (variants.map fun (_, component) => refTo component)),
       ("discriminator", .obj (order.arrange
         [("propertyName", .str "type"),
          ("mapping", .obj (order.arrange (variants.map fun (tag, component) =>
            (tag, .str (componentRef component)))))]))]
  | .anyOf first second =>
    [("anyOf", .arr [.obj (first.members order), .obj (second.members order)])]

def refs : Schema → List String
  | .ref component => [component]
  | .array items _ => items.refs
  | .map values => values.refs
  | .oneOf variants => variants.map (·.2)
  | .anyOf first second => first.refs ++ second.refs
  | .string | .boolean | .integer | .between .. | .null | .const _ => []

end Schema

/-- The component of free JSON, which admits everything. -/
def freeJsonName : String := "JsonValue"

def Shape.schema : Shape → Schema
  | .text => .string
  | .flag => .boolean
  | .integer => .integer
  | .natural => .between 0 (naturalEnd - 1)
  | .json => .ref freeJsonName
  | .names => .array .string 1
  | .choice e => .ref e.name
  | .operator _ => .string
  | .tag label => .const label
  | .list item => .array item.schema 0
  | .map value => .map value.schema
  | .record r => .ref r.name
  | .tagged variants => .oneOf (variants.map fun r => (r.label?.getD "", r.name))
  | .either first second => .anyOf first.schema second.schema

end AgentWire
