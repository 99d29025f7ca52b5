import AgentWire.Agent.Client
import AgentWire.Cli.Files
import AgentWire.Cli.Usage
import AgentWire.OpenApi.Render
/-!
Runs of the command line. A run sees files, the standard input and an agent; it ends with an exit
code or a fault, and leaves its output and the files behind.
-/
namespace AgentWire.Cli

inductive Fault where
  | noPath
  | file (path : String) (f : FileFault)
  | config (path : String) (f : ConfigFileFault)
  | call (f : CallFault)

def Fault.message : Fault → String
  | .noPath => "No path for the configuration"
  | .file path f => f.message path
  | .config path f => f.message path
  | .call f => f.message

inductive Exit where
  | code (n : Nat)
  | fault (f : Fault)

structure World where
  files : Files
  stdin : String
  agent : Agent

structure Trace where
  exit : Exit
  stdout : String
  levels : List LogLevel := []
  sent : List Request := []
  warnings : List String := []
  files : Files

def lines (ls : List String) : String := String.join (ls.map (· ++ "\n"))

def printed (w : World) (code : Nat) (text : String) : Trace :=
  { exit := .code code, stdout := text, files := w.files }

def failed (w : World) (f : Fault) : Trace :=
  { exit := .fault f, stdout := "", files := w.files }

def configAt (w : World) (path : FilePath) : Except Fault Config := do
  if !(← (w.files.contains path).mapError (.file path.text)) then return {}
  let text ← (w.files.read path).mapError (.file path.text)
  (Config.ofFileText text).mapError (.config path.text)

/-- Writes the default configuration. A file that is there stays unless it may be replaced. -/
def runInit (w : World) (path : FilePath) (force : Bool) : Trace :=
  match w.files.contains path with
  | .error f => failed w (.file path.text f)
  | .ok there =>
    if there && !force then
      printed w 1 (lines ["Error: " ++ path.text ++ " already exists. Use --force to overwrite."])
    else match w.files.write path ({} : Config).fileText with
      | .ok files => { printed w 0 (lines ["Created " ++ path.text]) with files }
      | .error f => failed w (.file path.text f)

def column (name : String) : String :=
  name ++ String.ofList (List.replicate (40 - name.length) ' ')

def runList (w : World) (kinds : Bool) : Trace :=
  printed w 0 (lines (Registry.standard.entries.map fun (name, t) =>
    if kinds then column name ++ " " ++ t.kind else name))

def inputText (w : World) (source : String) : Except FileFault (List Char) :=
  if source = "-" then .ok w.stdin.toList else w.files.read (FilePath.ofText source)

def complaints : DecodeError → List String
  | .malformed m => [located [] m.message]
  | .invalid issues => issues.toList.map fun i => located i.path i.cause.message

def runDecode (w : World) (typeName source : String) : Trace :=
  match Registry.standard.get typeName with
  | .error u =>
    printed w 1
      (lines ["Error: " ++ u.message ++ ". Run 'dc-api-types list' for the available names."])
  | .ok t => match inputText w source with
    | .error .unnameable => failed w (.file source .unnameable)
    | .error f =>
      printed w 1
        (lines ["Error reading " ++ source ++ ": " ++ f.message (FilePath.ofText source).text])
    | .ok text => match decodeText t.shape text with
      | .error e => printed w 1 (lines (complaints e))
      | .ok v => printed w 0 (lines [encodeText t.shape (some 2) v])

def runOpenApi (w : World) (c : Config) (output : Option String)
    (format : Option OutputFormat) : Trace :=
  let (document, warnings) := Document.ofRegistry Registry.standard c.title c.version
  let text := render document (format.getD c.format)
  match output with
  | none | some "" => { printed w 0 (lines [text]) with warnings }
  | some name =>
    let path := FilePath.ofText name
    match w.files.write path text with
    | .ok files => { printed w 0 (lines ["Wrote " ++ name]) with files, warnings }
    | .error f => { failed w (.file path.text f) with warnings }

/-- Whether a fault of a call is a finding about the agent, and not about the call itself. -/
def isFinding : CallFault → Bool
  | .agent _ => true
  | .decode _ => true
  | .url _ => false
  | .header _ => false
  | .body => false
  | .hostname _ => false
  | .noScheme _ => false

/-- Asks endpoints one after another, and reports each. A fault that is no finding ends the run. -/
def probe (w : World) (client : AgentClient) (failures : Bool) : List Endpoint → Trace
  | [] => printed w (if failures then 1 else 0) ""
  | e :: rest =>
    let o := client.call e (AgentClient.bodyOf e none) w.agent
    let after (line : String) (failed : Bool) : Trace :=
      let t := probe w o.client (failures || failed) rest
      { t with
        stdout := line ++ "\n" ++ t.stdout, sent := o.sent ++ t.sent,
        warnings := o.warnings ++ t.warnings }
    match o.result with
    | .ok _ => after (e.name ++ ": ok") false
    | .error f =>
      if isFinding f then after (e.name ++ ": FAILED - " ++ f.message) true
      else { failed w (.call f) with sent := o.sent, warnings := o.warnings }

def clientFor (c : Config) (url : String) : AgentClient :=
  AgentClient.make url ((c.source.map Mapping.toDatum).getD .null) c.sourceName
    (.num c.timeout) .empty

def runTask (w : World) (c : Config) (path : FilePath) (s : Settings) : Task → Trace
  | .init => runInit w path s.force
  | .list => runList w s.kinds
  | .decode type file => runDecode w type file
  | .openapi => runOpenApi w c s.output s.format
  | .check url => probe w (clientFor c url) false [.capabilities, .schema]

/-- Runs a list of arguments. The configuration is read before any command starts. -/
def run (w : World) (args : List String) : Trace :=
  match asked args with
  | .help none => printed w 0 Usage.general
  | .help (some c) => printed w 0 (Usage.ofCommand c)
  | .version => printed w 0 Usage.versionLine
  | .misuse => printed w 2 ""
  | .nothing => printed w 0 Usage.general
  | .task t s => match s.config with
    | none => failed w .noPath
    | some text =>
      let path := FilePath.ofText text
      match configAt w path with
      | .ok c => { runTask w c path s t with levels := [s.logLevel.getD c.logLevel] }
      | .error (.config name f) =>
        if f.isConfigError then printed w 1 (lines ["Error: " ++ f.message name])
        else failed w (.config name f)
      | .error f => failed w f

end AgentWire.Cli
