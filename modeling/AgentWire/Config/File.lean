import AgentWire.Config.Basic
import AgentWire.Yaml.Graph.ToDatum
/-!
Configuration files. A file without data, or with data that are null, false, zero or empty, stands
for the default configuration.
-/
namespace AgentWire

inductive ConfigFileFault where
  | unreadable (fault : Yaml.Fault)
  | invalid (fault : ConfigFault)

/-- The message names the file only if its text is no document. -/
def ConfigFileFault.message (path : String) : ConfigFileFault → String
  | .unreadable .malformed => Yaml.Fault.malformed.message ++ " in " ++ path
  | .unreadable fault => fault.message
  | .invalid fault => fault.message

/-- Whether the fault is the configuration's: the text is no document, or its data are none of a
configuration. A scalar without a value, or a timeout too large, is a fault of its own. -/
def ConfigFileFault.isConfigError : ConfigFileFault → Bool
  | .unreadable .malformed => true
  | .unreadable _ => false
  | .invalid .timeoutTooLarge => false
  | .invalid _ => true

namespace Config

def defaultPath : String := "dc-api-types.yaml"

def fileText (c : Config) : String :=
  String.ofList (Yaml.Node.ofDatum c.toDatum).documentText

def ofFileText (text : List Char) : Except ConfigFileFault Config := do
  let d ← (Yaml.read text).mapError .unreadable
  (ofDatum (if d.isGiven then d else .map none [])).mapError .invalid

end Config

end AgentWire
