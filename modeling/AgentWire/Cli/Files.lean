import AgentWire.NameTable
import AgentWire.Text.Quoted
import AgentWire.Text.Utf8
/-!
The files that a run of the command line can see: texts under paths, from where it runs, from the
directory above or from the root. Directories are there as far as files stand in them, and a few
stand everywhere.
-/
namespace AgentWire

inductive FileFault where
  | missing
  | notDirectory
  | isDirectory
  | nameTooLong
  | unnameable
  deriving DecidableEq, Repr

def FileFault.message (path : String) (f : FileFault) : String :=
  let placed (reason : String) : String := reason ++ ": " ++ String.ofList (Quoted.text path.toList)
  match f with
  | .missing => placed "[Errno 2] No such file or directory"
  | .notDirectory => placed "[Errno 20] Not a directory"
  | .isDirectory => placed "[Errno 21] Is a directory"
  | .nameTooLong => placed "[Errno 36] File name too long"
  | .unnameable => "embedded null byte"

/-! Paths. -/

/-- A path: the slashes that it starts with, two at most, and its parts. -/
structure FilePath where
  slashes : Nat
  parts : List String
  deriving DecidableEq, Repr

namespace FilePath

/-- Empty parts and single points do not count. Three slashes at the start are as good as one. -/
def ofText (text : String) : FilePath :=
  let cs := text.toList
  let parts := (cs.splitOn '/').filter fun p => !p.isEmpty && p ≠ ['.']
  let slashes := (cs.takeWhile (· = '/')).length
  ⟨if 2 < slashes then 1 else slashes, parts.map String.ofList⟩

def text (p : FilePath) : String :=
  let joined := String.ofList (List.replicate p.slashes '/') ++ "/".intercalate p.parts
  if joined.isEmpty then "." else joined

end FilePath

inductive FilePlace.Origin where
  | here
  | above
  | root
  deriving DecidableEq, Repr

structure FilePlace where
  origin : FilePlace.Origin
  parts : List String
  deriving DecidableEq, Repr

namespace FilePlace

def up : FilePlace → FilePlace
  | ⟨.here, []⟩ => ⟨.above, []⟩
  | ⟨origin, parts⟩ => ⟨origin, parts.dropLast⟩

def down (p : FilePlace) (part : String) : FilePlace :=
  { p with parts := p.parts ++ [part] }

def key (p : FilePlace) : String :=
  let start := match p.origin with
    | .here => ""
    | .above => "../"
    | .root => "/"
  start ++ "/".intercalate p.parts

end FilePlace

def FilePath.start (p : FilePath) : FilePlace :=
  ⟨if p.slashes = 0 then .here else .root, []⟩

/-- The place that a path leads to if all the directories on its way are there. -/
def FilePath.place (p : FilePath) : FilePlace :=
  p.parts.foldl (fun place part => if part = ".." then place.up else place.down part) p.start

/-! Files. -/

abbrev Files := NameTable String

namespace Files

inductive Target where
  | directory
  | file (key : String) (text : String)
  | free (key : String)
  | fault (f : FileFault)

def standardDirectories : List String :=
  ["/bin", "/boot", "/dev", "/etc", "/home", "/lib", "/media", "/mnt", "/opt", "/proc", "/root",
   "/run", "/sbin", "/srv", "/sys", "/tmp", "/usr", "/usr/bin", "/usr/lib", "/usr/local",
   "/usr/local/bin", "/usr/local/lib", "/usr/sbin", "/usr/share", "/var", "/var/cache", "/var/lib",
   "/var/log", "/var/tmp"]

def nullDevice : String := "/dev/null"

def isDirectory (fs : Files) (p : FilePlace) : Bool :=
  p.parts.isEmpty || standardDirectories.contains p.key ||
    fs.entries.any fun (path, _) => (p.key ++ "/").toList.isPrefixOf path.toList

def textAt (fs : Files) (key : String) : Option String :=
  if key = nullDevice then some "" else fs.find? key

def byteCount (text : String) : Nat := (Utf8.encode text.toList).length

def partLimit : Nat := 255

def pathLimit : Nat := 4095

def follow (fs : Files) (start : FilePlace) : List String → Target
  | [] => .directory
  | part :: rest =>
    if part = ".." then follow fs start.up rest
    else if partLimit < byteCount part then .fault .nameTooLong
    else
      let there := start.down part
      if fs.isDirectory there then follow fs there rest
      else match fs.textAt there.key, rest with
        | some text, [] => .file there.key text
        | some _, _ :: _ => .fault .notDirectory
        | none, [] => .free there.key
        | none, _ :: _ => .fault .missing

def target (fs : Files) (p : FilePath) : Target :=
  if p.text.toList.contains '\x00' then .fault .unnameable
  else if pathLimit < byteCount p.text then .fault .nameTooLong
  else fs.follow p.start p.parts

/-- Whether something is there. A path that is too long is a fault even so. -/
def contains (fs : Files) (p : FilePath) : Except FileFault Bool :=
  match fs.target p with
  | .directory => .ok true
  | .file .. => .ok true
  | .free _ => .ok false
  | .fault .nameTooLong => .error .nameTooLong
  | .fault _ => .ok false

def read (fs : Files) (p : FilePath) : Except FileFault (List Char) :=
  match fs.target p with
  | .file _ text => .ok (unifyLineEnds text.toList)
  | .directory => .error .isDirectory
  | .free _ => .error .missing
  | .fault f => .error f

def put (fs : Files) (key text : String) : Files :=
  if key = nullDevice then fs else fs.insert key text

def write (fs : Files) (p : FilePath) (text : String) : Except FileFault Files :=
  match fs.target p with
  | .file key _ => .ok (fs.put key text)
  | .free key => .ok (fs.put key text)
  | .directory => .error .isDirectory
  | .fault f => .error f

def below (fs : Files) : List (String × String) :=
  fs.entries.filter fun (path, _) =>
    !("/".toList.isPrefixOf path.toList || "../".toList.isPrefixOf path.toList)

end Files

end AgentWire
