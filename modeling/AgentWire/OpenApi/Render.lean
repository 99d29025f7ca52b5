import AgentWire.Json.Writer
import AgentWire.Yaml.Node.Writer
/-!
A document as text, in one of two formats.
-/
namespace AgentWire

inductive OutputFormat where
  | json
  | yaml
  deriving DecidableEq, Repr

namespace OutputFormat

def all : List OutputFormat := [.json, .yaml]

def name : OutputFormat → String
  | .json => "json"
  | .yaml => "yaml"

def ofName? (name : String) : Option OutputFormat :=
  all.find? (·.name = name)

end OutputFormat

/-- JSON is indented by two blanks a level; both formats are written in ASCII. -/
def render (document : Json) : OutputFormat → String
  | .json => document.text ⟨.indented 2, true⟩
  | .yaml => String.ofList (Yaml.Node.ofDatum (.ofJson document)).documentText

structure UnsupportedFormat where
  name : String

def UnsupportedFormat.message (f : UnsupportedFormat) : String :=
  "Unsupported format '" ++ f.name ++ "' (expected json or yaml)"

def renderAs (document : Json) (name : String) : Except UnsupportedFormat String :=
  match OutputFormat.ofName? name with
  | some f => .ok (render document f)
  | none => .error ⟨name⟩

end AgentWire
