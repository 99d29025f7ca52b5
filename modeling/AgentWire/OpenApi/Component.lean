import AgentWire.OpenApi.Schema
import AgentWire.Registry
/-!
Components: the named schemas of the exported document. They are the definitions a registry can
reach, and the schemas of the names it holds; where both take a name, the registered one stays and a
warning is given.
-/
namespace AgentWire

/-- What gets a component of its own wherever it is used. -/
inductive Definition where
  | record (r : Record)
  | enumeration (e : Enumeration)
  | freeJson
  deriving DecidableEq, Repr

def Shape.definitions : Shape → List Definition
  | .json => [.freeJson]
  | .choice e => [.enumeration e]
  | .record r => [.record r]
  | .tagged variants => variants.map .record
  | .list item => item.definitions
  | .map value => value.definitions
  | .either first second => first.definitions ++ second.definitions
  | .text | .flag | .integer | .natural | .names | .operator _ | .tag _ => []

namespace Definition

def name : Definition → String
  | .record r => r.name
  | .enumeration e => e.name
  | .freeJson => freeJsonName

def mentions : Definition → List Definition
  | .record r => r.fields.flatMap fun f => f.shape.definitions
  | .enumeration _ => []
  | .freeJson => []

def all : List Definition :=
  .freeJson :: (Record.all.map .record ++ Enumeration.all.map .enumeration)

/-- The definitions that are found or can be reached from those still pending. Each call takes one
off the pending ones; the first argument bounds the calls. -/
def explore : Nat → List Definition → List Definition → List Definition
  | 0, _, found => found
  | _, [], found => found
  | fuel + 1, d :: pending, found =>
    if d ∈ found then explore fuel pending found
    else explore fuel (d.mentions ++ pending) (d :: found)

/-- Enough calls for any start: every definition is taken up once, and so is every mention. -/
def effort (start : List Definition) : Nat :=
  start.length + (all.map fun d => d.mentions.length + 1).foldr (· + ·) 0

def reachable (start : List Definition) : List Definition :=
  explore (effort start) start []

end Definition

/-- A word starts after anything that is no letter; its first letter becomes a capital, the others
small. Names of fields are ASCII. -/
def capitalize (afterLetter : Bool) : List Char → List Char
  | [] => []
  | c :: rest =>
    (if !c.isAlpha then (if c = '_' then ' ' else c)
     else if afterLetter then c.toLower else c.toUpper) :: capitalize c.isAlpha rest

def titleOf (name : String) : String :=
  String.ofList (capitalize false name.toList)

namespace Field

/-- A field that refers to one component needs no title of its own. -/
def hasTitle (f : Field) : Bool :=
  match f.shape with
  | .record _ | .choice _ | .json => false
  | _ => true

def fallback? (f : Field) : Option Json :=
  match f.need, f.shape with
  | .required, _ => none
  | .optional, _ => some .null
  | .constant, .tag label => some (.str label)
  | .constant, _ => none

def schema (f : Field) : Schema :=
  match f.need with
  | .optional => .anyOf f.shape.schema .null
  | _ => f.shape.schema

def property (f : Field) : Json :=
  let ms := f.schema.members .sorted
  let ms := if f.hasTitle then placeMember "title" (.str (titleOf f.name)) ms else ms
  .obj (match f.fallback? with
    | some v => placeMember "default" v ms
    | none => ms)

end Field

inductive Component where
  | definition (d : Definition)
  | schema (s : Schema)
  deriving DecidableEq, Repr

namespace Definition

def describe : Option String → List (String × Json)
  | none => []
  | some d => [("description", .str d)]

def toJson : Definition → Json
  | .freeJson => .obj []
  | .enumeration e => .obj (describe e.description ++
      [("enum", .arr (e.words.map .str)), ("title", .str e.name), ("type", .str "string")])
  | .record r =>
    let required := r.fields.filter (·.need = .required)
    .obj ((if r.closed then [("additionalProperties", .bool false)] else []) ++
      describe r.declaration.description ++
      [("properties", .obj (r.fields.map fun f => (f.name, f.property)))] ++
      (if required.isEmpty then [] else [("required", .arr (required.map fun f => .str f.name))]) ++
      [("title", .str r.name), ("type", .str "object")])

end Definition

def Component.toJson : Component → Json
  | .definition d => d.toJson
  | .schema s => .obj (s.members .listed)

def WireType.schema (t : WireType) : Schema :=
  t.shape.schema

abbrev Components := NameTable Component

namespace Components

def definitions (reg : Registry) : Components :=
  .ofList ((Definition.reachable (reg.entries.flatMap fun (_, t) => t.shape.definitions)).map
    fun d => (d.name, .definition d))

/-- Whether a name would be a component that only refers to itself. -/
def isSelf (name : String) (s : Schema) : Bool :=
  s = .ref name

def collides (cs : Components) (name : String) (s : Schema) : Bool :=
  match cs.find? name with
  | some c => !(c.toJson.same (Component.schema s).toJson)
  | none => false

/-- Adds registered names in turn, with the warnings for names that were taken. -/
def addAll (cs : Components) : List (String × WireType) → Components × List String
  | [] => (cs, [])
  | (name, t) :: rest =>
    if isSelf name t.schema then addAll cs rest
    else
      let (final, later) := addAll (cs.insert name (.schema t.schema)) rest
      (final,
        (if collides cs name t.schema then
          ["Component name collision for '" ++ name ++ "', keeping the alias schema"]
         else []) ++ later)

/-- The components of a registry, and the warnings for names that two of them take. -/
def ofRegistry (reg : Registry) : Components × List String :=
  addAll (definitions reg) reg.entries

def toJson (cs : Components) : Json :=
  .obj (cs.entries.map fun (name, c) => (name, c.toJson))

end Components

end AgentWire
