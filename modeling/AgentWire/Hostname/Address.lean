import AgentWire.Text.Numeral
/-!
Numeric addresses, of version four as four octets between points and of version six as eight groups
of hexadecimal digits between colons.
-/
namespace AgentWire.Hostname

/-- Whether a host looks like an address of version four: four numbers of any size between
points. -/
def looksNumeric (host : List Char) : Bool :=
  let parts := host.splitOn '.'
  parts.length = 4 && parts.all fun part => !part.isEmpty && part.all Char.isDigit

def isOctet (part : List Char) : Bool :=
  !part.isEmpty && part.length ≤ 3 && part.all Char.isDigit &&
    (part.length = 1 || part.head? ≠ some '0') &&
    Nat.ofDigitChars 10 part 0 < 256

def isVersionFour (address : List Char) : Bool :=
  let parts := address.splitOn '.'
  parts.length = 4 && parts.all isOctet

def isGroup (part : List Char) : Bool :=
  !part.isEmpty && part.length ≤ 4 && part.all Numeral.isHexDigit

/-- The parts between colons, with two groups of zeros for an address of version four at the end. -/
def groupsOf (address : List Char) : Option (List (List Char)) :=
  let parts := address.splitOn ':'
  let last := (parts.getLast?).getD []
  if parts.length < 3 then none
  else if last.contains '.' then
    if isVersionFour last then some (parts.dropLast ++ [['0'], ['0']]) else none
  else some parts

/-- Whether these are all groups of an address. An empty part between two others stands for the
groups that are missing, one at least. There is at most one, and only beside it may an end be
empty. -/
def areGroups (parts : List (List Char)) : Bool :=
  let inner := (parts.drop 1).dropLast
  if parts.length > 9 then false
  else match inner.findIdx? List.isEmpty with
    | none => parts.length = 8 && parts.all isGroup
    | some i =>
      let ahead := parts.take (i + 1)
      let behind := parts.drop (i + 2)
      let ahead := if ahead = [[]] then [] else ahead
      let behind := if behind = [[]] then [] else behind
      ahead.all isGroup && behind.all isGroup && ahead.length + behind.length < 8

def splitZone (address : List Char) : List Char × Option (List Char) :=
  match address.span (· ≠ '%') with
  | (groups, _ :: zone) => (groups, some zone)
  | (groups, []) => (groups, none)

def isVersionSix (address : List Char) : Bool :=
  let (groups, zone) := splitZone address
  !address.contains '/' && (zone.all fun z => !z.isEmpty && !z.contains '%') &&
    ((groupsOf groups).map areGroups).getD false

end AgentWire.Hostname
