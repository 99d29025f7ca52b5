import AgentWire.Cli.Run
/-!
The program. It looks up the files that the arguments mention, runs them, and writes what has
changed. It has no way to reach an agent: every request fails.
-/
namespace AgentWire.Cli

def mentioned (args : List String) : List FilePath :=
  match asked args with
  | .task t s =>
    let input := match t with
      | .decode _ file => [file]
      | _ => []
    (s.config.toList ++ input ++ s.output.toList).map FilePath.ofText
  | _ => []

def readsInput (args : List String) : Bool :=
  match asked args with
  | .task (.decode _ "-") _ => true
  | _ => false

def steps (p : FilePath) : List FilePath :=
  (List.range (p.parts.length + 1)).map fun n => { p with parts := p.parts.take n }

def isDirectoryOnDisk (p : FilePath) : IO Bool := do
  ((← IO.currentDir) / p.text).isDir

/-- The files on disk that a path leads to. A directory shows as an entry that no path can name. -/
def onDisk (p : FilePath) : IO (List (String × String)) := do
  let mut found := []
  for step in steps p do
    if ← isDirectoryOnDisk step then
      found := (step.place.key ++ "/.", "") :: found
  try
    return (p.place.key, ← IO.FS.readFile p.text) :: found
  catch _ => return found

end AgentWire.Cli

open AgentWire AgentWire.Cli in
def main (args : List String) : IO UInt32 := do
  let entries ← (mentioned args).flatMapM onDisk
  let files : Files := .ofList entries
  let stdin ← if readsInput args then (← IO.getStdin).readToEnd else pure ""
  let t := run ⟨files, stdin, fun _ => .failure "no connection"⟩ args
  for (path, text) in t.files.entries do
    if files.find? path ≠ some text then IO.FS.writeFile path text
  (← IO.getStdout).putStr t.stdout
  for warning in t.warnings do
    IO.eprintln ("WARNING " ++ warning)
  match t.exit with
  | .code n => return n.toUInt32
  | .fault f =>
    IO.eprintln f.message
    return 1
