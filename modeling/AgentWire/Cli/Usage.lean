import AgentWire.Cli.Arguments
/-!
Help texts. They are made from the declared switches and words, for a terminal of 80 columns.
-/
namespace AgentWire.Cli.Usage

def width : Nat := 78

def helpColumn : Nat := 24

def program : String := "dc-api-types"

def version : String := "0.1.0"

def description : String := "Hasura GraphQL Data Connector API types"

structure Entry where
  indent : Nat
  head : String
  help : String

def blanks (n : Nat) : String := String.ofList (List.replicate n ' ')

def Entry.ofSwitch (s : Switch) : Entry :=
  let operand := (s.operand.map fun o => " " ++ o.shown).getD ""
  ⟨2, ", ".intercalate (s.names.map (· ++ operand)), s.help⟩

def Entry.ofWord (w : Word) : Entry := ⟨2, w.name, w.help⟩

def commandChoice : String := "\x7b" ++ ",".intercalate (Command.all.map (·.name)) ++ "\x7d"

def commandEntries : List Entry :=
  ⟨2, commandChoice, "Available commands"⟩ :: Command.all.map fun c => ⟨4, c.name, c.help⟩

/-- The column of the explanations: two beyond the longest entry, if that is not too far right. -/
def columnOf (entries : List Entry) : Nat :=
  min helpColumn ((entries.map fun e => e.indent + e.head.length).foldl max 0 + 2)

def Entry.text (column : Nat) (e : Entry) : String :=
  let used := e.indent + e.head.length
  if used + 2 ≤ column then blanks e.indent ++ e.head ++ blanks (column - used) ++ e.help ++ "\n"
  else blanks e.indent ++ e.head ++ "\n" ++ blanks column ++ e.help ++ "\n"

def titled (title : String) (column : Nat) (entries : List Entry) : String :=
  if entries.isEmpty then ""
  else "\n" ++ title ++ ":\n" ++ String.join (entries.map (Entry.text column))

/-- Words in lines of at most `width` characters; `used` is the length of the current line. -/
def fill (indent : Nat) : Nat → Bool → List String → String
  | _, _, [] => ""
  | used, first, part :: rest =>
    if !first && width < used + 1 + part.length then
      "\n" ++ blanks indent ++ part ++ fill indent (indent + part.length) false rest
    else (if first then part else " " ++ part) ++
      fill indent (used + part.length + (if first then 0 else 1)) false rest

def switchPart (s : Switch) : String :=
  "[" ++ (s.names.head?).getD "" ++ (s.operand.map fun o => " " ++ o.shown).getD "" ++ "]"

def wordPart (w : Word) : String :=
  if w.optional then "[" ++ w.name ++ "]" else w.name

def line (name : String) (switches words : List String) : String :=
  let lead := "usage: "
  let whole := lead ++ " ".intercalate (name :: switches ++ words)
  if whole.length ≤ width then whole ++ "\n"
  else
    let indent := lead.length + name.length + 1
    lead ++ name ++ " " ++ fill indent indent true switches ++ "\n" ++
      blanks indent ++ fill indent indent true words ++ "\n"

def general : String :=
  let switches := mainSwitches.map Entry.ofSwitch
  let column := columnOf (commandEntries ++ switches)
  line program (mainSwitches.map switchPart) [commandChoice, "..."] ++
    "\n" ++ description ++ "\n" ++
    titled "positional arguments" column commandEntries ++ titled "options" column switches

def ofCommand (c : Command) : String :=
  let words := c.words.map Entry.ofWord
  let switches := c.switches.map Entry.ofSwitch
  let column := columnOf (words ++ switches)
  line (program ++ " " ++ c.name) (c.switches.map switchPart) (c.words.map wordPart) ++
    titled "positional arguments" column words ++ titled "options" column switches

def versionLine : String := program ++ " " ++ version ++ "\n"

end AgentWire.Cli.Usage
