import AgentWire.Config.File
import AgentWire.Text.Numeral
/-!
The arguments of the command line: which switches and words there are, and what a list of arguments
asks for. A switch may be cut short as long as one switch only starts that way, its value may follow
it or be attached to it, and several switches of one letter may share a dash.
-/
namespace AgentWire.Cli

inductive Command where
  | init
  | list
  | decode
  | openapi
  | check
  deriving DecidableEq, Repr

namespace Command

def all : List Command := [.init, .list, .decode, .openapi, .check]

def name : Command → String
  | .init => "init"
  | .list => "list"
  | .decode => "decode"
  | .openapi => "openapi"
  | .check => "check"

def help : Command → String
  | .init => "Write a default config file"
  | .list => "List the wire type names"
  | .decode => "Decode and validate a JSON payload"
  | .openapi => "Export the OpenAPI document"
  | .check => "Validate a live agent's replies"

end Command

inductive Purpose where
  | help
  | version
  | config
  | logLevel
  | force
  | kinds
  | output
  | format
  deriving DecidableEq, Repr

/-- What a switch takes: any text, shown as a word in capitals, or one of some choices. -/
inductive Operand where
  | text (shown : String)
  | choice (choices : List String)
  deriving DecidableEq, Repr

def Operand.shown : Operand → String
  | .text s => s
  | .choice cs => "\x7b" ++ ",".intercalate cs ++ "\x7d"

def Operand.accepts : Operand → String → Bool
  | .text _, _ => true
  | .choice cs, s => cs.contains s

structure Switch where
  names : List String
  purpose : Purpose
  operand : Option Operand
  help : String
  deriving DecidableEq, Repr

structure Word where
  name : String
  optional : Bool
  help : String
  deriving DecidableEq, Repr

def helpSwitch : Switch := ⟨["-h", "--help"], .help, none, "show this help message and exit"⟩

def mainSwitches : List Switch :=
  [helpSwitch,
   ⟨["--version"], .version, none, "show program's version number and exit"⟩,
   ⟨["--config", "-c"], .config, some (.text "CONFIG"), "Config file path"⟩,
   ⟨["--log-level"], .logLevel, some (.choice (LogLevel.all.map (·.name))),
    "Override the configured log level"⟩]

def Command.switches : Command → List Switch
  | .init => [helpSwitch, ⟨["--force", "-f"], .force, none, "Overwrite existing config"⟩]
  | .list => [helpSwitch,
      ⟨["--kinds"], .kinds, none, "Show whether each name is a model, enum or alias"⟩]
  | .decode => [helpSwitch]
  | .openapi => [helpSwitch,
      ⟨["--output", "-o"], .output, some (.text "OUTPUT"), "Output file (default: stdout)"⟩,
      ⟨["--format"], .format, some (.choice (OutputFormat.all.map (·.name))), "Output format"⟩]
  | .check => [helpSwitch]

def Command.words : Command → List Word
  | .decode =>
    [⟨"type", false, "Type name, e.g. QueryRequest"⟩, ⟨"file", true, "JSON file ('-' for stdin)"⟩]
  | .check => [⟨"url", false, "Agent base URL"⟩]
  | .init | .list | .openapi => []

/-! Arguments one by one. -/

inductive Argument where
  | word (text : String)
  | separator
  | switch (s : Switch) (name : String) (attached : Option String)
  | unknown
  deriving Repr

structure Misuse where
  deriving Repr

def switchNamed (switches : List Switch) (name : String) : Option Switch :=
  switches.find? fun s => s.names.contains name

def atEquals (text : String) : String × Option String :=
  match text.toList.span (· ≠ '=') with
  | (name, _ :: value) => (String.ofList name, some (String.ofList value))
  | (name, []) => (String.ofList name, none)

/-- The names of switches that an argument can be short for, with what is attached to it. -/
def candidates (switches : List Switch) (text : String) : List (Switch × String × Option String) :=
  let named := switches.flatMap fun s => s.names.map (s, ·)
  match text.toList with
  | '-' :: '-' :: _ =>
    let (stem, attached) := atEquals text
    named.filterMap fun (s, name) =>
      if stem.toList.isPrefixOf name.toList then some (s, name, attached) else none
  | '-' :: c :: rest =>
    named.filterMap fun (s, name) =>
      if name.toList = ['-', c] then some (s, name, some (String.ofList rest))
      else if text.toList.isPrefixOf name.toList then some (s, name, none)
      else none
  | _ => []

/-- A minus sign and a decimal number, in the digits of any script. A line feed may end it. -/
def isNegativeNumber (text : String) : Bool :=
  match text.toList with
  | '-' :: cs =>
    let cs := if cs.getLast? = some '\n' then cs.dropLast else cs
    let rest := cs.dropWhile Numeral.isDigit
    rest.isEmpty && !cs.isEmpty ||
      rest.head? = some '.' && !(rest.drop 1).isEmpty && (rest.drop 1).all Numeral.isDigit
  | _ => false

def classify (switches : List Switch) (text : String) : Except Misuse Argument :=
  let word := Argument.word text
  if text.toList.head? ≠ some '-' then .ok word
  else match switchNamed switches text with
    | some s => .ok (.switch s text none)
    | none =>
      if text = "-" then .ok word
      else
        let (stem, attached) := atEquals text
        match attached.bind fun value => (switchNamed switches stem).map (·, value) with
        | some (s, value) => .ok (.switch s stem (some value))
        | none => match candidates switches text with
          | [(s, name, value)] => .ok (.switch s name value)
          | _ :: _ :: _ => .error {}
          | [] => .ok (if isNegativeNumber text || text.toList.contains ' ' then word else .unknown)

def classifyAll (switches : List Switch) : List String → Except Misuse (List Argument)
  | [] => .ok []
  | text :: rest =>
    if text = "--" then .ok (.separator :: rest.map .word)
    else do
      let a ← classify switches text
      let as ← classifyAll switches rest
      return a :: as

structure Given where
  switch : Switch
  value : Option String

/-- The switches in one argument and their values. With one dash, text attached to a switch that
takes none names further switches. `fuel` bounds their number. -/
def expand (switches : List Switch) (rest : List Argument) :
    Nat → Switch → String → Option String → Except Misuse (List Given × List Argument)
  | 0, _, _, _ => .error {}
  | fuel + 1, s, name, attached => match attached, s.operand with
    | some value, some _ => .ok ([⟨s, some value⟩], rest)
    | some value, none => match name.toList, value.toList with
      | ['-', _], c :: more =>
        let next := String.ofList ['-', c]
        match switchNamed switches next with
        | some t => do
          let attached := if more.isEmpty then none else some (String.ofList more)
          let (given, rest) ← expand switches rest fuel t next attached
          return (⟨s, none⟩ :: given, rest)
        | none => .error {}
      | _, _ => .error {}
    | none, some _ => match rest with
      | .word value :: rest => .ok ([⟨s, some value⟩], rest)
      | _ => .error {}
    | none, none => .ok ([⟨s, none⟩], rest)

/-! What is asked for. -/

structure Settings where
  /-- The path of the configuration, unless it has been taken away. -/
  config : Option String := some Config.defaultPath
  logLevel : Option LogLevel := none
  force : Bool := false
  kinds : Bool := false
  output : Option String := none
  format : Option OutputFormat := none

inductive Task where
  | init
  | list
  | decode (type file : String)
  | openapi
  | check (url : String)
  deriving DecidableEq, Repr

inductive Asked where
  | help (c : Option Command)
  | version
  | misuse
  | nothing
  | task (t : Task) (s : Settings)

def Settings.unset (s : Settings) : Purpose → Settings
  | .config => { s with config := none }
  | .logLevel => { s with logLevel := none }
  | .output => { s with output := none }
  | .format => { s with format := none }
  | .help | .version | .force | .kinds => s

def noValue : String := "--"

def Settings.set (s : Settings) (c : Option Command) (g : Given) : Except Asked Settings :=
  match g.switch.operand, g.value with
  | some o, some value =>
    if value = noValue then .ok (s.unset g.switch.purpose)
    else if !o.accepts value then .error .misuse
    else match g.switch.purpose with
      | .config => .ok { s with config := some value }
      | .logLevel => .ok { s with logLevel := LogLevel.ofName? value }
      | .output => .ok { s with output := some value }
      | .format => .ok { s with format := OutputFormat.ofName? value }
      | _ => .ok s
  | _, _ => match g.switch.purpose with
    | .help => .error (.help c)
    | .version => .error .version
    | .force => .ok { s with force := true }
    | .kinds => .ok { s with kinds := true }
    | _ => .ok s

structure Progress where
  settings : Settings
  /-- The words in their order, once the first of them have been met. -/
  words : Option (List String)
  surplus : Bool

/-- Takes the words of a run of them. All words of a command come together; there are none for
commands that take none. -/
def Progress.takeWords (c : Command) (run : List String) (p : Progress) : Progress :=
  if run.isEmpty || p.words.isSome || c.words.isEmpty then { p with surplus := true }
  else
    { p with
      words := some (run.take c.words.length),
      surplus := p.surplus || c.words.length < run.length }

def isWord : Argument → Bool
  | .word _ => true
  | .separator => true
  | _ => false

def wordText? : Argument → Option String
  | .word text => some text
  | _ => none

def readAfter (c : Command) : Nat → Progress → List Argument → Except Asked Progress
  | 0, _, _ => .error .misuse
  | fuel + 1, p, as => match as with
    | [] => .ok p
    | .unknown :: rest => readAfter c fuel { p with surplus := true } rest
    | .switch s name attached :: rest =>
      match expand c.switches rest ((attached.map String.length).getD 0 + 1) s name attached with
      | .error _ => .error .misuse
      | .ok (given, rest) => do
        let settings ← given.foldlM (fun s g => s.set (some c) g) p.settings
        readAfter c fuel { p with settings } rest
    | a :: rest =>
      let run := a :: rest.takeWhile isWord
      readAfter c fuel (p.takeWords c (run.filterMap wordText?)) (rest.dropWhile isWord)

/-- The task of a command and its words, unless one is missing. The file `--` is none. -/
def taskOf (c : Command) (words : List String) : Option Task :=
  match c, words with
  | .init, _ => some .init
  | .list, _ => some .list
  | .openapi, _ => some .openapi
  | .decode, [type] => some (.decode type "-")
  | .decode, [type, file] => some (.decode type (if file = "--" then "-" else file))
  | .check, [url] => some (.check url)
  | _, _ => none

/-- What the arguments after a command ask for. `surplus` says that something in front of it belongs
nowhere. -/
def askedOf (c : Command) (settings : Settings) (surplus : Bool) (args : List String) : Asked :=
  match classifyAll c.switches args with
  | .error _ => .misuse
  | .ok as => match readAfter c (as.length + 1) ⟨settings, none, surplus⟩ as with
    | .error asked => asked
    | .ok p => match taskOf c (p.words.getD []) with
      | some t => if p.surplus then .misuse else .task t p.settings
      | none => .misuse

def readMain : Nat → Settings → Bool → List Argument → List String → Asked
  | 0, _, _, _, _ => .misuse
  | fuel + 1, settings, surplus, as, texts => match as with
    | [] => if surplus then .misuse else .nothing
    | .separator :: _ => .misuse
    | .unknown :: rest => readMain fuel settings true rest (texts.drop 1)
    | .word name :: _ => match Command.all.find? (·.name = name) with
      | some c => askedOf c settings surplus (texts.drop 1)
      | none => .misuse
    | .switch s name attached :: rest =>
      match expand mainSwitches rest ((attached.map String.length).getD 0 + 1) s name attached with
      | .error _ => .misuse
      | .ok (given, left) =>
        match given.foldlM (fun s g => s.set none g) settings with
        | .error asked => asked
        | .ok settings => readMain fuel settings surplus left (texts.drop (as.length - left.length))

def asked (args : List String) : Asked :=
  match classifyAll mainSwitches args with
  | .error _ => .misuse
  | .ok as => readMain (as.length + 1) {} false as args

end AgentWire.Cli
