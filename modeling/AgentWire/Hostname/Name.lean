import AgentWire.Hostname.Context
import AgentWire.Hostname.Direction
import AgentWire.Hostname.Letter
import AgentWire.Text.Composition
import AgentWire.Text.Punycode
import AgentWire.Text.Quoted
/-!
International host names: labels with points between them, and perhaps one at the end. The points of
other scripts are understood, and become points of ASCII. A label is checked in the letters it
stands for; in ASCII these are written as `xn--` and Punycode, unless the label is ASCII already.
What is decoded may hold code points that are no characters: they are checked as the character zero,
which no label may hold.
-/
namespace AgentWire.Hostname

/-- Why a text is no host name. Positions count from one. -/
inductive Fault where
  | nameTooLong
  | noName
  | labelTooLong
  | noLabel
  | composition
  | hyphenPlaces
  | hyphenEnds
  | leadingMark
  | character (code position : Nat) (label : List Nat)
  | joiner (code position : Nat) (label : List Nat)
  | context (code position : Nat) (label : List Nat)
  | direction (fault : DirectionFault) (label : List Nat)
  | nothingEncoded
  | encodedHyphen
  | encoding
  | otherEncoding
  deriving Repr

def codePointText (code : Nat) : String :=
  "U+" ++ String.ofList ((Quoted.hex 4 code).map Char.toUpper)

def quoted (label : List Nat) : String := String.ofList (Quoted.codePoints label)

def DirectionFault.message (label : List Nat) : DirectionFault → String
  | .unknown n =>
    "Unknown directionality in label " ++ quoted label ++ " at position " ++ toString n
  | .start => "First codepoint in label " ++ quoted label ++ " must be directionality L, R or AL"
  | .inRightToLeft n =>
    "Invalid direction for codepoint at position " ++ toString n ++ " in a right-to-left label"
  | .numbers => "Can not mix numeral types in a right-to-left label"
  | .inLeftToRight n =>
    "Invalid direction for codepoint at position " ++ toString n ++ " in a left-to-right label"
  | .ending => "Label ends with illegal codepoint directionality"

def Fault.message : Fault → String
  | .nameTooLong => "Domain too long"
  | .noName => "Empty domain"
  | .labelTooLong => "Label too long"
  | .noLabel => "Empty Label"
  | .composition => "Label must be in Normalization Form C"
  | .hyphenPlaces => "Label has disallowed hyphens in 3rd and 4th position"
  | .hyphenEnds => "Label must not start or end with a hyphen"
  | .leadingMark => "Label begins with an illegal combining character"
  | .character code n label =>
    "Codepoint " ++ codePointText code ++ " at position " ++ toString n ++ " of " ++
      quoted label ++ " not allowed"
  | .joiner code n label =>
    "Unknown codepoint adjacent to joiner " ++ codePointText code ++ " at position " ++
      toString n ++ " in " ++ quoted label
  | .context code n label =>
    "Codepoint " ++ codePointText code ++ " not allowed at position " ++ toString n ++
      " in " ++ quoted label
  | .direction fault label => fault.message label
  | .nothingEncoded => "Malformed A-label, no Punycode eligible content found"
  | .encodedHyphen => "A-label must not end with a hyphen"
  | .encoding => "Invalid A-label"
  | .otherEncoding => "A-label is not the canonical Punycode encoding of its U-label"

/-- Checks the characters of a label one by one. `before` stands before them, the nearest first. -/
def checkCharacters (label : List Nat) (before : List Char) : List Nat → Except Fault Unit
  | [] => .ok ()
  | code :: rest =>
    let c := Char.ofNat code
    let after := rest.map Char.ofNat
    let position := before.length + 1
    if isLetter c then checkCharacters label (c :: before) rest
    else if isJoiner c then
      if joinerFits c before after then checkCharacters label (c :: before) rest
      else .error (.joiner code position label)
    else if isContextual c then
      if contextFits c before after then checkCharacters label (c :: before) rest
      else .error (.context code position label)
    else .error (.character code position label)

/-- The most characters of a name, with a point at its end. -/
def nameLimit : Nat := 254

def labelLimit : Nat := 63

def checkLabel (label : List Nat) : Except Fault Unit := do
  let letters := label.map Char.ofNat
  if letters.isEmpty then throw .noLabel
  if nameLimit < letters.length then throw .labelTooLong
  if !isComposed letters then throw .composition
  if (letters.drop 2).take 2 = ['-', '-'] then throw .hyphenPlaces
  if letters.head? = some '-' || letters.getLast? = some '-' then throw .hyphenEnds
  if (letters.head?.map isMark).getD false then throw .leadingMark
  checkCharacters label [] label
  match Direction.check letters with
  | some fault => throw (.direction fault label)
  | none => return ()

def encodedMark : List Char := "xn--".toList

def isAscii (cs : List Char) : Bool := cs.all fun c => c.toNat < 0x80

/-- The letters that a label in ASCII stands for. There is one way to encode them, but the decoder
knows a second: a hyphen before an encoding that has none. -/
def decodeLabel (label : List Char) : Except Fault (List Char) := do
  let lower := label.map Char.toLower
  if encodedMark.isPrefixOf lower then
    let encoded := lower.drop encodedMark.length
    if encoded.isEmpty then throw .nothingEncoded
    if encoded.getLast? = some '-' then throw .encodedHyphen
    match Punycode.decode encoded with
    | none => throw .encoding
    | some label => do
      checkLabel label
      let letters := label.map Char.ofNat
      if Punycode.encode letters ≠ encoded then throw .otherEncoding
      return letters
  else
    checkLabel (lower.map Char.toNat)
    return lower

def encodeLabel (label : List Char) : Except Fault (List Char) := do
  if isAscii label then
    let _ ← decodeLabel label
    if labelLimit < label.length then throw .labelTooLong
    return label
  else
    checkLabel (label.map Char.toNat)
    let encoded := encodedMark ++ Punycode.encode label
    if labelLimit < encoded.length then throw .labelTooLong
    return encoded

def isPoint (c : Char) : Bool :=
  c = '.' || c = '\u3002' || c = '\uff0e' || c = '\uff61'

def labels (name : List Char) : Except Fault (List (List Char) × Bool) := do
  if nameLimit < name.length then throw .nameTooLong
  let parts := (name.map fun c => if isPoint c then '.' else c).splitOn '.'
  if parts = [[]] then throw .noName
  return if parts.getLast? = some [] then (parts.dropLast, true) else (parts, false)

def encode (name : List Char) : Except Fault (List Char) := do
  let (parts, pointed) ← labels name
  let encoded ← parts.mapM encodeLabel
  let whole := ['.'].intercalate (if pointed then encoded ++ [[]] else encoded)
  if (if pointed then nameLimit else nameLimit - 1) < whole.length then throw .nameTooLong
  return whole

def decode (name : List Char) : Except Fault (List Char) := do
  let (parts, pointed) ← labels name
  let decoded ← parts.mapM decodeLabel
  return ['.'].intercalate (if pointed then decoded ++ [[]] else decoded)

end AgentWire.Hostname
