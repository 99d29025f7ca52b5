import AgentWire.Json.Value
import AgentWire.Text.Numeral
/-!
Reading JSON text. The grammar is the standard one; three words that are numbers elsewhere (`NaN`,
`Infinity`, `-Infinity`) are recognised only to be refused at once. A failure carries the text from
where it was noticed, so its line and column are those of the place where that rest begins.
-/
namespace AgentWire.Json

inductive Fault where
  | expectingValue
  | expectingName
  | expectingColon
  | expectingComma
  | extraData
  | unterminatedString
  | controlCharacter
  | badEscape
  | badUnicodeEscape
  | byteOrderMark
  | constant (word : String)
  deriving DecidableEq, Repr

structure Failure where
  fault : Fault
  rest : List Char

def isBlank (c : Char) : Bool :=
  c = ' ' || c = '\t' || c = '\n' || c = '\r'

def skipBlanks (cs : List Char) : List Char :=
  cs.dropWhile isBlank

def hexUnit? (a b c d : Char) : Option Nat := do
  let a ← Numeral.hexDigit? a
  let b ← Numeral.hexDigit? b
  let c ← Numeral.hexDigit? c
  let d ← Numeral.hexDigit? d
  return ((a * 16 + b) * 16 + c) * 16 + d

def shortEscape? (c : Char) : Option Char :=
  if c = '"' then some '"'
  else if c = '\\' then some '\\'
  else if c = '/' then some '/'
  else if c = 'b' then some '\x08'
  else if c = 'f' then some '\x0c'
  else if c = 'n' then some '\n'
  else if c = 'r' then some '\r'
  else if c = 't' then some '\t'
  else none

def isHighSurrogate (n : Nat) : Bool :=
  0xD800 ≤ n && n < 0xDC00

def isLowSurrogate (n : Nat) : Bool :=
  0xDC00 ≤ n && n < 0xE000

/-- The character of one escaped unit; a surrogate without its partner has none and becomes
U+FFFD. -/
def unitChar (n : Nat) : Char :=
  if 0xD800 ≤ n && n < 0xE000 then '\ufffd' else Char.ofNat n

/-- What one written character of a string stands for: itself, or the 16-bit unit of an escape. -/
inductive Piece where
  | char (c : Char)
  | unit (n : Nat)

/-- The characters of the pieces. Two escaped units that are a surrogate pair make one character. -/
def joinPieces : List Piece → List Char
  | [] => []
  | .char c :: rest => c :: joinPieces rest
  | .unit n :: rest => match rest with
    | .unit m :: more =>
      if isHighSurrogate n && isLowSurrogate m then
        Char.ofNat (0x10000 + (n - 0xD800) * 0x400 + (m - 0xDC00)) :: joinPieces more
      else unitChar n :: joinPieces (.unit m :: more)
    | rest => unitChar n :: joinPieces rest

/-- The pieces up to the closing quote. `start` is the text from the opening quote on. -/
def readPieces (start : List Char) : List Char → Except Failure (List Piece × List Char)
  | [] => .error ⟨.unterminatedString, start⟩
  | c :: rest =>
    if c = '"' then .ok ([], rest)
    else if c = '\\' then match rest with
      | [] => .error ⟨.unterminatedString, start⟩
      | 'u' :: more => match more with
        | h1 :: h2 :: h3 :: h4 :: beyond => match hexUnit? h1 h2 h3 h4, beyond with
          | some n, _ :: _ => (readPieces start beyond).map fun (ps, r) => (.unit n :: ps, r)
          | _, _ => .error ⟨.badUnicodeEscape, rest⟩
        | _ => .error ⟨.badUnicodeEscape, rest⟩
      | e :: more => match shortEscape? e with
        | some d => (readPieces start more).map fun (ps, r) => (.char d :: ps, r)
        | none => .error ⟨.badEscape, c :: rest⟩
    else if c.toNat < 0x20 then .error ⟨.controlCharacter, c :: rest⟩
    else (readPieces start rest).map fun (ps, r) => (.char c :: ps, r)

def readString (start rest : List Char) : Except Failure (String × List Char) :=
  (readPieces start rest).map fun (ps, r) => (String.ofList (joinPieces ps), r)

def digits (cs : List Char) : List Char × List Char :=
  cs.span Char.isDigit

def integerPart? (cs : List Char) : Option (List Char × List Char) :=
  match cs with
  | '0' :: rest => some (['0'], rest)
  | c :: _ => if c.isDigit then some (digits cs) else none
  | [] => none

def fraction? (cs : List Char) : Option (List Char × List Char) :=
  match cs with
  | '.' :: rest => match digits rest with
    | ([], _) => none
    | (ds, more) => some (ds, more)
  | _ => none

def exponent? (cs : List Char) : Option (Int × List Char) :=
  match cs with
  | c :: rest =>
    if c = 'e' || c = 'E' then
      let (negative, rest) := match rest with
        | '-' :: more => (true, more)
        | '+' :: more => (false, more)
        | _ => (false, rest)
      match digits rest with
      | ([], _) => none
      | (ds, more) =>
        let n : Int := Nat.ofDigitChars 10 ds 0
        some (if negative then -n else n, more)
    else none
  | [] => none

/-- The number a text starts with: an integer, unless a fraction or an exponent is written. -/
def number? (cs : List Char) : Option (Json × List Char) := do
  let (negative, unsigned) := match cs with
    | '-' :: rest => (true, rest)
    | _ => (false, cs)
  let (whole, rest) ← integerPart? unsigned
  let (part, rest) := (fraction? rest).getD ([], rest)
  let (power, rest) := match exponent? rest with
    | some (e, more) => (some e, more)
    | none => (none, rest)
  if part.isEmpty && power.isNone then
    let n : Int := Nat.ofDigitChars 10 whole 0
    return (.int (if negative then -n else n), rest)
  else
    let x := Decimal.toFloat ⟨Nat.ofDigitChars 10 (whole ++ part) 0, power.getD 0 - part.length⟩
    return (.num (if negative then -x else x), rest)

def after? (word : String) (cs : List Char) : Option (List Char) :=
  if word.toList.isPrefixOf cs then some (cs.drop word.length) else none

def readPlain (cs : List Char) : Except Failure (Json × List Char) :=
  match after? "null" cs, after? "true" cs, after? "false" cs with
  | some rest, _, _ => .ok (.null, rest)
  | _, some rest, _ => .ok (.bool true, rest)
  | _, _, some rest => .ok (.bool false, rest)
  | none, none, none =>
    match ["NaN", "Infinity", "-Infinity"].find? fun word => (after? word cs).isSome with
    | some word => .error ⟨.constant word, cs⟩
    | none => match number? cs with
      | some parsed => .ok parsed
      | none => .error ⟨.expectingValue, cs⟩

mutual
/-- The value a text starts with. The first argument bounds the depth of the calls; twice the length
of the text is always enough. -/
def readValue : Nat → List Char → Except Failure (Json × List Char)
  | 0, cs => .error ⟨.expectingValue, cs⟩
  | fuel + 1, cs => match cs with
    | '"' :: rest => (readString cs rest).map fun (s, r) => (.str s, r)
    | '[' :: rest => match skipBlanks rest with
      | ']' :: more => .ok (.arr [], more)
      | inner => (readItems fuel inner).map fun (items, r) => (.arr items, r)
    | '{' :: rest => match skipBlanks rest with
      | '}' :: more => .ok (.obj [], more)
      | inner => (readMembers fuel inner).map fun (members, r) => (ofMembers members, r)
    | _ => readPlain cs

def readItems : Nat → List Char → Except Failure (List Json × List Char)
  | 0, cs => .error ⟨.expectingValue, cs⟩
  | fuel + 1, cs => do
    let (x, rest) ← readValue fuel cs
    match skipBlanks rest with
    | ']' :: more => return ([x], more)
    | ',' :: more =>
      let (items, r) ← readItems fuel (skipBlanks more)
      return (x :: items, r)
    | other => throw ⟨.expectingComma, other⟩

/-- The members up to the closing brace, repeats included. -/
def readMembers : Nat → List Char → Except Failure (List (String × Json) × List Char)
  | 0, cs => .error ⟨.expectingValue, cs⟩
  | fuel + 1, cs => match cs with
    | '"' :: rest => do
      let (key, rest) ← readString cs rest
      match skipBlanks rest with
      | ':' :: rest =>
        let (x, rest) ← readValue fuel (skipBlanks rest)
        match skipBlanks rest with
        | '}' :: more => return ([(key, x)], more)
        | ',' :: more =>
          let (members, r) ← readMembers fuel (skipBlanks more)
          return ((key, x) :: members, r)
        | other => throw ⟨.expectingComma, other⟩
      | other => throw ⟨.expectingColon, other⟩
    | _ => .error ⟨.expectingName, cs⟩
end

def read (text : List Char) : Except Failure Json :=
  match text with
  | '\ufeff' :: _ => .error ⟨.byteOrderMark, text⟩
  | _ => do
    let (x, rest) ← readValue (2 * text.length + 2) (skipBlanks text)
    match skipBlanks rest with
    | [] => return x
    | other => throw ⟨.extraData, other⟩

def position (before : List Char) : Nat × Nat :=
  (before.count '\n' + 1, (before.reverse.takeWhile (· ≠ '\n')).length + 1)

def Fault.text : Fault → String
  | .expectingValue => "Expecting value"
  | .expectingName => "Expecting property name enclosed in double quotes"
  | .expectingColon => "Expecting ':' delimiter"
  | .expectingComma => "Expecting ',' delimiter"
  | .extraData => "Extra data"
  | .unterminatedString => "Unterminated string starting at"
  | .controlCharacter => "Invalid control character at"
  | .badEscape => "Invalid \\escape"
  | .badUnicodeEscape => "Invalid \\uXXXX escape"
  | .byteOrderMark => "Unexpected UTF-8 BOM (decode using utf-8-sig)"
  | .constant word => "'" ++ word ++ "' is not a JSON value"

/-- What a failure says of the text it was found in. A refused word is reported without its
place. -/
def Failure.message (text : List Char) (f : Failure) : String :=
  match f.fault with
  | .constant _ => f.fault.text
  | _ =>
    let (line, column) := position (text.take (text.length - f.rest.length))
    f.fault.text ++ " at line " ++ toString line ++ " column " ++ toString column

end AgentWire.Json
