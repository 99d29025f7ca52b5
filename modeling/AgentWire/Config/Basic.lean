import AgentWire.Datum.Literal
import AgentWire.Datum.Mapping
import AgentWire.Number.Reader
import AgentWire.OpenApi.Document
import AgentWire.OpenApi.Render
import AgentWire.Text.UpperCase
/-!
The configuration of the command line: what it holds, how it is made from a mapping, and the mapping
it is saved as. Unknown keys are ignored and missing ones have defaults.
-/
namespace AgentWire

inductive LogLevel where
  | debug
  | info
  | warning
  | error
  | critical
  deriving DecidableEq, Repr

namespace LogLevel

def all : List LogLevel := [.debug, .info, .warning, .error, .critical]

def name : LogLevel → String
  | .debug => "DEBUG"
  | .info => "INFO"
  | .warning => "WARNING"
  | .error => "ERROR"
  | .critical => "CRITICAL"

def ofName? (name : String) : Option LogLevel :=
  all.find? (·.name = name)

end LogLevel

structure Config where
  logLevel : LogLevel := .warning
  title : String := Document.defaultTitle
  version : String := Document.defaultVersion
  format : OutputFormat := .json
  timeout : Float := 30.0
  /-- The mark of a timeout that is no number and an object of its own. -/
  timeoutMark : Option Nat := none
  source : Option Mapping := none
  /-- What is sent to an agent as the name of its source, null for nothing. -/
  sourceName : Datum := .null

inductive ConfigFault where
  | noMapping
  | logLevel (text : String)
  | sectionShape (name : String)
  | format (text : String)
  | timeout (given : Datum)
  | source
  | timeoutTooLarge

namespace ConfigFault

def message : ConfigFault → String
  | .noMapping => "Configuration must be a mapping"
  | .logLevel text =>
    "log_level must be one of " ++ ", ".intercalate (LogLevel.all.map (·.name)) ++
      ", got '" ++ text ++ "'"
  | .sectionShape name => "'" ++ name ++ "' must be a mapping"
  | .format text => "openapi.format must be json or yaml, got '" ++ text ++ "'"
  | .timeout given => "agent.timeout must be a positive number, got " ++ String.ofList given.literal
  | .source => "agent.config must be a mapping"
  | .timeoutTooLarge => "int too large to convert to float"

end ConfigFault

namespace Config

/-- A section of the configuration. Everything that is null, false, zero or empty is an empty
one. -/
def section? (name : String) (whole : Mapping) : Except ConfigFault Mapping :=
  let given := (whole.lookup name).getD .null
  if !given.isGiven then .ok .empty
  else match given.mapping? with
    | some m => .ok m
    | none => .error (.sectionShape name)

def textOf (key default : String) (m : Mapping) : String :=
  ((m.lookup key).map Datum.plainText).getD default

def logLevelOf (m : Mapping) : Except ConfigFault LogLevel :=
  let text := upperCaseText (textOf "log_level" LogLevel.warning.name m)
  match LogLevel.ofName? text with
  | some level => .ok level
  | none => .error (.logLevel text)

def formatOf (m : Mapping) : Except ConfigFault OutputFormat :=
  let text := textOf "format" OutputFormat.json.name m
  match OutputFormat.ofName? text with
  | some f => .ok f
  | none => .error (.format text)

structure Timeout where
  quantity : Json.Quantity
  mark : Option Nat

/-- A number of seconds: neither a truth value nor at most zero. A double that is no number
passes. -/
def checkTimeout : Option Datum → Except ConfigFault Timeout
  | none => .ok ⟨.double 30.0, none⟩
  | some (.int i) => if i ≤ 0 then .error (.timeout (.int i)) else .ok ⟨.exact i, none⟩
  | some (.num x) => if x ≤ 0.0 then .error (.timeout (.num x)) else .ok ⟨.double x, none⟩
  | some (.nan mark) => .ok ⟨.double NumberText.notANumber, some mark⟩
  | some d => .error (.timeout d)

def sourceOf (m : Mapping) : Except ConfigFault (Option Mapping) :=
  match m.lookup "config" with
  | none => .ok none
  | some .null => .ok none
  | some d => match d.mapping? with
    | some m => .ok (some m)
    | none => .error .source

def seconds : Json.Quantity → Except ConfigFault Float
  | .double x => .ok x
  | .exact i =>
    let x := Decimal.toFloat ⟨i.natAbs, 0⟩
    if x.isFinite then .ok x else .error .timeoutTooLarge

def ofDatum (d : Datum) : Except ConfigFault Config := do
  let whole ← match d.mapping? with
    | some m => pure m
    | none => throw .noMapping
  let logLevel ← logLevelOf whole
  let openApi ← section? "openapi" whole
  let format ← formatOf openApi
  let agent ← section? "agent" whole
  let given ← checkTimeout (agent.lookup "timeout")
  let source ← sourceOf agent
  let timeout ← seconds given.quantity
  return {
    logLevel, format, timeout, source
    timeoutMark := given.mark
    title := textOf "title" Document.defaultTitle openApi
    version := textOf "version" Document.defaultVersion openApi
    sourceName := (agent.lookup "source_name").getD .null }

def toDatum (c : Config) : Datum :=
  let timeout := match c.timeoutMark with
    | some mark => Datum.nan mark
    | none => .num c.timeout
  .map none
    [(.str "log_level", .str c.logLevel.name),
     (.str "openapi", .map none
       [(.str "title", .str c.title), (.str "version", .str c.version),
        (.str "format", .str c.format.name)]),
     (.str "agent", .map none
       [(.str "timeout", timeout), (.str "config", (c.source.map Mapping.toDatum).getD .null),
        (.str "source_name", c.sourceName)])]

def same (a b : Config) : Bool :=
  a.toDatum.same b.toDatum

end Config

end AgentWire
