import AgentWire.Hostname.Address
import AgentWire.Hostname.Name
import AgentWire.Number.Reader
import AgentWire.Text.LowerCase
import AgentWire.Text.Percent
/-!
Addresses: taken apart, brought to their usual form and put together again. The usual form has
scheme and host in lower case, the host in ASCII, no number after the host that its scheme implies,
no `.` and `..` in the path, and nothing that must be escaped.
-/
namespace AgentWire

structure Url where
  scheme : List Char
  user : List Char
  host : List Char
  tcpPort : Option Int
  path : List Char
  query : Option (List Char)
  fragment : Option (List Char)
  deriving DecidableEq, Repr

inductive UrlFault where
  | tooLong
  | partTooLong (part : String)
  | control (c : Char) (index : Nat)
  | versionFour (host : List Char)
  | versionSix (host : List Char)
  | hostname (host : List Char)
  | tcpPort (text : List Char)
  | relative (start : String)
  deriving DecidableEq, Repr

namespace UrlFault

def message : UrlFault → String
  | .tooLong => "URL too long"
  | .partTooLong part => "URL component '" ++ part ++ "' too long"
  | .control c index =>
    "Invalid non-printable ASCII character in URL, " ++ String.ofList (Quoted.text [c]) ++
      " at position " ++ toString index ++ "."
  | .versionFour host => "Invalid IPv4 address: " ++ String.ofList (Quoted.text host)
  | .versionSix host => "Invalid IPv6 address: " ++ String.ofList (Quoted.text host)
  | .hostname host => "Invalid IDNA hostname: " ++ String.ofList (Quoted.text host)
  | .tcpPort text => "Invalid port: " ++ String.ofList (Quoted.text text)
  | .relative start => "Relative URLs cannot have a path starting with '" ++ start ++ "'"

end UrlFault

namespace Url

/-! What each part holds without escapes. -/

def isUnreserved (c : Char) : Bool :=
  c.isAlphanum || c = '-' || c = '.' || c = '_' || c = '~'

def allBut (refused : List Char) (c : Char) : Bool :=
  isUnreserved c || 0x20 ≤ c.toNat && c.toNat < 0x7F && !refused.contains c

def inQuery : Char → Bool := allBut " \"#<>".toList

def inPath : Char → Bool := allBut " \"#<>?\x60\x7b\x7d".toList

def inUser : Char → Bool := allBut " \"#<>?\x60\x7b\x7d/;=@[\\]^|".toList

def inFragment : Char → Bool := allBut " \"<>\x60".toList

def inHost (c : Char) : Bool :=
  isUnreserved c || "!$&'()*+,;=\"\x60\x7b\x7d%|\\".toList.contains c

/-! Reading. -/

def upTo (stops : List Char) (cs : List Char) : List Char × List Char :=
  cs.span fun c => !stops.contains c

def isSchemeChar (c : Char) : Bool :=
  c.isAlphanum || c = '+' || c = '.' || c = '-'

def takeScheme (cs : List Char) : List Char × List Char :=
  match cs.span isSchemeChar with
  | ([], ':' :: rest) => ([], rest)
  | (c :: more, ':' :: rest) => if c.isAlpha then (c :: more, rest) else ([], cs)
  | _ => ([], cs)

def splitAuthority (cs : List Char) : List Char × List Char × List Char :=
  let (user, rest) :=
    if cs.contains '@' then
      let back := cs.reverse
      ((back.dropWhile (· ≠ '@')).drop 1 |>.reverse, (back.takeWhile (· ≠ '@')).reverse)
    else ([], cs)
  let (host, rest) :=
    if rest.head? = some '[' && rest.contains ']' then
      let back := rest.reverse
      ((back.dropWhile (· ≠ ']')).reverse, (back.takeWhile (· ≠ ']')).reverse)
    else upTo [':'] rest
  (user, host, if rest.head? = some ':' then rest.drop 1 else rest)

/-- A host in its usual form. One in brackets is an address of version six, and loses them. -/
def hostOf (host : List Char) : Except UrlFault (List Char) :=
  if Hostname.looksNumeric host then
    if Hostname.isVersionFour host then .ok host else .error (.versionFour host)
  else if host.head? = some '[' && host.getLast? = some ']' then
    let address := (host.drop 1).dropLast
    if Hostname.isVersionSix address then .ok address else .error (.versionSix host)
  else if Hostname.isAscii host then .ok (Percent.escape inHost (host.map Char.toLower))
  else (Hostname.encode (lowerCase host)).mapError fun _ => .hostname host

def schemePorts : List (String × Int) :=
  [("ftp", 21), ("http", 80), ("https", 443), ("ws", 80), ("wss", 443)]

def tcpPortOf (text scheme : List Char) : Except UrlFault (Option Int) :=
  if text.isEmpty then .ok none
  else match NumberText.integer? 10 text with
    | some n => .ok (if schemePorts.lookup (String.ofList scheme) = some n then none else some n)
    | none => .error (.tcpPort text)

def withoutDots (done : List (List Char)) : List (List Char) → List (List Char)
  | [] => done
  | part :: rest =>
    if part = ['.'] then withoutDots done rest
    else if part = ['.', '.'] then
      withoutDots (if done = [[]] then done else done.dropLast) rest
    else withoutDots (done ++ [part]) rest

def plainPath (path : List Char) : List Char :=
  ['/'].intercalate (withoutDots [] (path.splitOn '/'))

def limit : Nat := 65536

def ofText (cs : List Char) : Except UrlFault Url := do
  if limit < cs.length then throw .tooLong
  match cs.findIdx? fun c => c.toNat < 0x20 || c.toNat = 0x7F with
  | some i => throw (.control ((cs[i]?).getD ' ') i)
  | none => pure ()
  let (scheme, rest) := takeScheme cs
  let (authority, rest) := match rest with
    | '/' :: '/' :: more => upTo ['/', '?', '#'] more
    | _ => ([], rest)
  let (path, rest) := upTo ['?', '#'] rest
  let (query, rest) := match rest with
    | '?' :: more => let (q, rest) := upTo ['#'] more; (some q, rest)
    | _ => (none, rest)
  let fragment := match rest with
    | '#' :: more => some more
    | _ => none
  let (user, host, portText) := splitAuthority authority
  let host ← hostOf host
  let tcpPort ← tcpPortOf portText scheme
  let placed := !user.isEmpty || !host.isEmpty || tcpPort.isSome
  if !placed && scheme.isEmpty then
    if path.take 2 = ['/', '/'] then throw (.relative "//")
    if path.head? = some ':' then throw (.relative ":")
  let path := if placed || !scheme.isEmpty then plainPath path else path
  return ⟨scheme.map Char.toLower, Percent.escape inUser user, host, tcpPort,
    Percent.escape inPath path, query.map (Percent.escape inQuery),
    fragment.map (Percent.escape inFragment)⟩

def isAbsolute (u : Url) : Bool :=
  !u.scheme.isEmpty && !u.host.isEmpty

def fromRoot (u : Url) : Except UrlFault Url := do
  let path := '/' :: u.path.dropWhile (· = '/')
  if limit < path.length then throw (.partTooLong "path")
  if limit < (u.query.getD []).length then throw (.partTooLong "query")
  return ⟨[], [], [], none, path, u.query, none⟩

/-- The address that a request goes to. Without a host, path and query are taken from the root. -/
def target (cs : List Char) : Except UrlFault Url := do
  let u ← ofText cs
  if u.isAbsolute then return u else u.fromRoot

/-! Writing. -/

def hostText (u : Url) : List Char :=
  (if u.host.contains ':' then '[' :: u.host ++ [']'] else u.host) ++
    (u.tcpPort.map fun n => ':' :: (toString n).toList).getD []

def text (u : Url) : String :=
  let authority := (if u.user.isEmpty then [] else u.user ++ ['@']) ++ u.hostText
  String.ofList ((if u.scheme.isEmpty then [] else u.scheme ++ [':']) ++
    (if authority.isEmpty then [] else '/' :: '/' :: authority) ++ u.path ++
    (u.query.map ('?' :: ·)).getD [] ++ (u.fragment.map ('#' :: ·)).getD [])

/-- The path without escapes, a slash at least. -/
def location (u : Url) : String :=
  String.ofList (Percent.unescape (if u.path.isEmpty then ['/'] else u.path))

end Url

end AgentWire
