import AgentWire.Text.Utf8
import AgentWire.Yaml.Unquoted
/-!
Tokens: the words and signs of a document, with the bounds of its blocks, which the text shows by
indentation alone. A word is known to be a key only at the colon after it. So reading writes down,
in front of every word that may turn out to be one, that a key may start there, and at the colon
that it does; `settle` brings the two together. Nothing that has been written down is changed. Where
reading fails, the tokens that are known by then stay, and a last token says why there are no more.
-/
namespace AgentWire.Yaml

inductive Token where
  | version (major minor : Nat)
  | tagHandle (handle stem : String)
  | otherDirective
  | documentStart
  | documentEnd
  | blockSequence
  | blockMapping
  | blockEnd
  | flowSequence
  | flowSequenceEnd
  | flowMapping
  | flowMappingEnd
  | item
  | separator
  | key
  | value
  | alias (name : String)
  | anchor (name : String)
  /-- A tag: its full name, or a handle and what follows it. -/
  | tag (handle : Option String) (rest : String)
  | scalar (plain : Bool) (text : String)
  | broken (fault : Fault)
  deriving DecidableEq, Repr

/-- What reading writes down. A word that may be a key is known by its place in the text. -/
inductive Mark where
  | token (t : Token)
  | mayBeKey (index : Nat)
  /-- The word at `index` is a key; it opens a block if the flag is set. -/
  | isKey (index : Nat) (opens : Bool)
  /-- Reading fails while it is open whether the words at `waiting` are keys. -/
  | broken (fault : Fault) (waiting : List Nat)
  deriving DecidableEq, Repr

/-- Tokens, and what is known about words further left: which are keys, and which keep back all that
follows them because reading failed too early. -/
structure Settled where
  keys : List (Nat × Bool)
  failure : Option (Fault × List Nat)
  tokens : List Token

def settleFrom : List Mark → Settled
  | [] => ⟨[], none, []⟩
  | .token t :: rest =>
    let s := settleFrom rest
    { s with tokens := t :: s.tokens }
  | .isKey index opens :: rest =>
    let s := settleFrom rest
    { s with keys := (index, opens) :: s.keys }
  | .broken fault waiting :: _ => ⟨[], some (fault, waiting), [.broken fault]⟩
  | .mayBeKey index :: rest =>
    let s := settleFrom rest
    match s.failure, s.keys.lookup index with
    | some (fault, waiting), none =>
      if waiting.contains index then { s with tokens := [.broken fault] } else s
    | _, some true => { s with tokens := .blockMapping :: .key :: s.tokens }
    | _, some false => { s with tokens := .key :: s.tokens }
    | none, none => s

def settle (marks : List Mark) : List Token :=
  (settleFrom marks).tokens

/-- A word that may be a key as long as no line ends and not too much text follows. -/
structure Candidate where
  place : Place
  required : Bool
  deriving DecidableEq, Repr

/-- The most characters between the start of a key and its colon. -/
def keyLimit : Nat := 1024

def Candidate.isStale (p : Place) (k : Candidate) : Bool :=
  k.place.line ≠ p.line || keyLimit < p.index - k.place.index

structure Lexer where
  cursor : Cursor
  /-- The columns of the open blocks, the innermost first. -/
  blocks : List Nat
  mayStartKey : Bool
  candidate : Option Candidate
  /-- The candidates around each open flow collection, the innermost first. -/
  outer : List (Option Candidate)

namespace Lexer

def start (text : List Char) : Lexer :=
  ⟨⟨.start, text⟩, [], true, none, []⟩

def inFlow (s : Lexer) : Bool := !s.outer.isEmpty

def column (s : Lexer) : Nat := s.cursor.column

/-- The least column that still belongs to the innermost block's entries. -/
def least (s : Lexer) : Nat :=
  match s.blocks with
  | [] => 0
  | n :: _ => n + 1

/-- Passes over blanks, comments and line ends. A key may start on a new line, but for flow
collections. -/
def skipSpace (flow : Bool) (mayStartKey comment : Bool) (p : Place) : List Char → Bool × Cursor
  | [] => (mayStartKey, ⟨p, []⟩)
  | c :: rest =>
    if isBreak c then skipSpace flow (mayStartKey || !flow) false (p.next c) rest
    else if comment || c = ' ' then skipSpace flow mayStartKey comment (p.next c) rest
    else if c = '#' then skipSpace flow mayStartKey true (p.next c) rest
    else (mayStartKey, ⟨p, c :: rest⟩)

/-- A stale candidate is none any more; it is a mistake if it was required. -/
def refresh (p : Place) : Option Candidate → Except Fault (Option Candidate)
  | none => .ok none
  | some k =>
    if k.isStale p then
      if k.required then .error .malformed else .ok none
    else .ok (some k)

def waiting (s : Lexer) : List Nat :=
  (((s.candidate :: s.outer).filterMap id).filter fun k => !k.isStale s.cursor.place).map
    (·.place.index)

def advance (s : Lexer) : Except Fault Lexer := do
  let (mayStartKey, cursor) := skipSpace s.inFlow s.mayStartKey false s.cursor.place s.cursor.rest
  let candidate ← refresh cursor.place s.candidate
  let outer ← s.outer.mapM (refresh cursor.place)
  return { s with cursor, mayStartKey, candidate, outer }

def closeBlocks (column : Nat) : List Nat → List Mark × List Nat
  | [] => ([], [])
  | n :: rest =>
    if column < n then
      let (marks, left) := closeBlocks column rest
      (.token .blockEnd :: marks, left)
    else ([], n :: rest)

def dedent (s : Lexer) : List Mark × Lexer :=
  if s.inFlow then ([], s)
  else
    let (marks, blocks) := closeBlocks s.column s.blocks
    (marks, { s with blocks })

def closeAll (s : Lexer) : List Mark × Lexer :=
  if s.inFlow then ([], s) else (s.blocks.map fun _ => .token .blockEnd, { s with blocks := [] })

def opensAt (s : Lexer) (column : Nat) : Bool :=
  !s.inFlow && s.least ≤ column

def openAt (s : Lexer) (column : Nat) : Lexer :=
  if s.opensAt column then { s with blocks := column :: s.blocks } else s

def dropCandidate (s : Lexer) : Except Fault Lexer :=
  if (s.candidate.map (·.required)).getD false then .error .malformed
  else .ok { s with candidate := none }

def noteCandidate (s : Lexer) : Except Fault (List Mark × Lexer) :=
  if s.mayStartKey then do
    let s ← s.dropCandidate
    let required := !s.inFlow && s.blocks.head? = some s.column
    return ([.mayBeKey s.cursor.place.index],
      { s with candidate := some ⟨s.cursor.place, required⟩ })
  else return ([], s)

def skip (s : Lexer) (n : Nat) : Lexer :=
  { s with cursor := s.cursor.skip n }

/-! Names, tags and directives. Each gives a token and the text after it. -/

def name (c : Cursor) : Option (String × Cursor) :=
  let (cs, rest) := c.span isNameChar
  if cs.isEmpty then none else some (String.ofList cs, rest)

def anchorName (c : Cursor) : Option (String × Cursor) := do
  let (cs, rest) ← name c
  match rest.rest with
  | [] => return (cs, rest)
  | d :: _ => if isSpace d || "?:,]\x7d%@\x60".toList.contains d then return (cs, rest) else none

/-- A handle: `!`, or a name between two of them. -/
def handle (c : Cursor) : Option (String × Cursor) :=
  match c.rest with
  | '!' :: rest =>
    if rest.head? = some ' ' then some ("!", c.skip 1)
    else
      let word := rest.takeWhile isNameChar
      if (rest.drop word.length).head? = some '!' then
        some (String.ofList ('!' :: word ++ ['!']), c.skip (word.length + 2))
      else none
  | _ => none

def escapedBytes : List Char → Option (List UInt8 × List Char)
  | '%' :: a :: b :: rest => do
    let high ← Numeral.hexDigit? a
    let low ← Numeral.hexDigit? b
    let (bytes, rest) ← escapedBytes rest
    return (UInt8.ofNat (high * 16 + low) :: bytes, rest)
  | '%' :: _ => none
  | rest => some ([], rest)

def tagChars : Nat → List Char → Option (List Char × List Char)
  | 0, _ => none
  | fuel + 1, cs =>
    let plain := cs.takeWhile fun c => isTagChar c && c ≠ '%'
    match cs.drop plain.length with
    | '%' :: rest => do
      let (bytes, rest) ← escapedBytes ('%' :: rest)
      let decoded ← (Utf8.decode bytes).toOption
      let (more, rest) ← tagChars fuel rest
      return (plain ++ decoded ++ more, rest)
    | rest => some (plain, rest)

def tagRest (c : Cursor) : Option (String × Cursor) := do
  let (cs, rest) ← tagChars (c.rest.length + 1) c.rest
  let taken := c.rest.length - rest.length
  if taken = 0 then none else return (String.ofList cs, c.skip taken)

/-- Whether a word ends here; a tab does not end it. -/
def endsAtBlank : List Char → Bool
  | [] => true
  | c :: _ => c = ' ' || isBreak c

/-- A tag: `!<` and a full name and `>`, a lone `!`, or a handle and the rest. -/
def tag (c : Cursor) : Option (Token × Cursor) := do
  let (t, rest) ← match c.rest with
    | '!' :: '<' :: _ => do
      let (full, rest) ← tagRest (c.skip 2)
      if rest.rest.head? = some '>' then some (Token.tag none full, rest.skip 1) else none
    | '!' :: after =>
      if endsWord after then some (Token.tag none "!", c.skip 1)
      else
        let word := after.takeWhile fun d => d ≠ ' ' && !isBreak d
        let (h, rest) ← if word.contains '!' then handle c else some ("!", c.skip 1)
        let (suffix, rest) ← tagRest rest
        some (Token.tag (some h) suffix, rest)
    | _ => none
  if endsAtBlank rest.rest then return (t, rest) else none

def skipBlanks (c : Cursor) : Cursor := (c.span (· = ' ')).2

def natural (c : Cursor) : Option (Nat × Cursor) :=
  let (ds, rest) := c.span Char.isDigit
  if ds.isEmpty then none else some (Nat.ofDigitChars 10 ds 0, rest)

def version (c : Cursor) : Option (Token × Cursor) := do
  let (major, rest) ← natural (skipBlanks c)
  if rest.rest.head? ≠ some '.' then none
  let (minor, rest) ← natural (rest.skip 1)
  if endsAtBlank rest.rest then return (.version major minor, rest) else none

def handleMeaning (c : Cursor) : Option (Token × Cursor) := do
  let (h, rest) ← handle (skipBlanks c)
  if rest.rest.head? ≠ some ' ' then none
  let (stem, rest) ← tagRest (skipBlanks rest)
  if endsAtBlank rest.rest then return (.tagHandle h stem, rest) else none

def directive (c : Cursor) : Option (Token × Cursor) := do
  let (word, rest) ← name (c.skip 1)
  if !endsAtBlank rest.rest then none
  let (t, rest) ← match word with
    | "YAML" => version rest
    | "TAG" => handleMeaning rest
    | _ => some (Token.otherDirective, (rest.span (!isBreak ·)).2)
  return (t, ← Block.restOfLine rest)

/-! One token at a time. -/

def orMalformed {α : Type} (o : Option α) : Except Fault α :=
  match o with
  | some a => .ok a
  | none => .error .malformed

def boundary (s : Lexer) (t : Token) : Except Fault (List Mark × Lexer) := do
  let (ends, s) := s.closeAll
  let s ← s.dropCandidate
  return (ends ++ [.token t], { s with mayStartKey := false }.skip 3)

def directiveToken (s : Lexer) : Except Fault (List Mark × Lexer) := do
  let (ends, s) := s.closeAll
  let s ← s.dropCandidate
  let (t, cursor) ← orMalformed (directive s.cursor)
  return (ends ++ [.token t], { s with mayStartKey := false, cursor })

def flowStart (s : Lexer) (t : Token) : Except Fault (List Mark × Lexer) := do
  let (note, s) ← s.noteCandidate
  return (note ++ [.token t],
    { s with mayStartKey := true, candidate := none, outer := s.candidate :: s.outer }.skip 1)

def flowEnd (s : Lexer) (t : Token) : Except Fault (List Mark × Lexer) := do
  let s ← s.dropCandidate
  match s.outer with
  | [] => .error .malformed
  | k :: outer => return ([.token t], { s with mayStartKey := false, candidate := k, outer }.skip 1)

def separatorToken (s : Lexer) : Except Fault (List Mark × Lexer) := do
  let s ← s.dropCandidate
  return ([.token .separator], { s with mayStartKey := true }.skip 1)

def itemToken (s : Lexer) : Except Fault (List Mark × Lexer) := do
  if !s.inFlow && !s.mayStartKey then throw .malformed
  let opens := s.opensAt s.column
  let s ← (s.openAt s.column).dropCandidate
  return ((if opens then [.token .blockSequence] else []) ++ [.token .item],
    { s with mayStartKey := true }.skip 1)

def keyToken (s : Lexer) : Except Fault (List Mark × Lexer) := do
  if !s.inFlow && !s.mayStartKey then throw .malformed
  let opens := s.opensAt s.column
  let s ← (s.openAt s.column).dropCandidate
  return ((if opens then [.token .blockMapping] else []) ++ [.token .key],
    { s with mayStartKey := !s.inFlow }.skip 1)

/-- A colon: the candidate before it is a key, or else the key was announced or left out. -/
def valueToken (s : Lexer) : Except Fault (List Mark × Lexer) :=
  match s.candidate with
  | some k =>
    let opens := s.opensAt k.place.column
    .ok ([.isKey k.place.index opens, .token .value],
      { s.openAt k.place.column with mayStartKey := false, candidate := none }.skip 1)
  | none =>
    if !s.inFlow && !s.mayStartKey then .error .malformed
    else
      let opens := s.opensAt s.column
      .ok ((if opens then [.token .blockMapping] else []) ++ [.token .value],
        { s.openAt s.column with mayStartKey := !s.inFlow }.skip 1)

def wordToken (s : Lexer) (read : Cursor → Except Fault (Token × Cursor)) :
    Except Fault (List Mark × Lexer) := do
  let (note, s) ← s.noteCandidate
  let (t, cursor) ← read s.cursor
  return (note ++ [.token t], { s with mayStartKey := false, cursor })

def quotedToken (s : Lexer) (read : Gap → Place → List Char → Quoted.Reading) :
    Except Fault (List Mark × Lexer) :=
  s.wordToken fun c => do
    let c := c.skip 1
    let (value, rest) ← read .empty c.place c.rest
    return (.scalar false (String.ofList value), rest)

/-- A plain scalar. If it ends with a line, a key may start on the next one. -/
def plainToken (s : Lexer) : Except Fault (List Mark × Lexer) := do
  let (note, s) ← s.noteCandidate
  let r := Plain.read s.inFlow s.least .empty s.cursor.place s.cursor.rest
  return (note ++ [.token (.scalar true (String.ofList r.value))],
    { s with mayStartKey := r.crossed, cursor := r.rest })

def blockToken (s : Lexer) (folded : Bool) : Except Fault (List Mark × Lexer) := do
  let s ← s.dropCandidate
  let (value, cursor) ← orMalformed (Block.read folded s.least (s.cursor.skip 1))
  return ([.token (.scalar false (String.ofList value))], { s with mayStartKey := true, cursor })

def indicators : List Char := "-?:,[]\x7b\x7d#&*!|>'\"%@\x60".toList

def startsPlain (flow : Bool) (c : Char) (rest : List Char) : Bool :=
  !isSpace c && !indicators.contains c ||
  !endsWord rest && (c = '-' || !flow && (c = '?' || c = ':'))

def named (make : String → Token) (c : Cursor) : Except Fault (Token × Cursor) := do
  let (word, rest) ← orMalformed (anchorName (c.skip 1))
  return (make word, rest)

def token (s : Lexer) (c : Char) (rest : List Char) : Except Fault (List Mark × Lexer) :=
  if c = '%' && s.column = 0 then s.directiveToken
  else if c = '-' && s.column = 0 && startsBoundary (c :: rest) then s.boundary .documentStart
  else if c = '.' && s.column = 0 && startsBoundary (c :: rest) then s.boundary .documentEnd
  else if c = '[' then s.flowStart .flowSequence
  else if c = '{' then s.flowStart .flowMapping
  else if c = ']' then s.flowEnd .flowSequenceEnd
  else if c = '}' then s.flowEnd .flowMappingEnd
  else if c = ',' then s.separatorToken
  else if c = '-' && endsWord rest then s.itemToken
  else if c = '?' && (s.inFlow || endsWord rest) then s.keyToken
  else if c = ':' && (s.inFlow || endsWord rest) then s.valueToken
  else if c = '*' then s.wordToken (named .alias)
  else if c = '&' then s.wordToken (named .anchor)
  else if c = '!' then s.wordToken fun c => orMalformed (tag c)
  else if c = '|' && !s.inFlow then s.blockToken false
  else if c = '>' && !s.inFlow then s.blockToken true
  else if c = '\'' then s.quotedToken Quoted.single
  else if c = '"' then s.quotedToken Quoted.double
  else if startsPlain s.inFlow c rest then s.plainToken
  else .error .malformed

/-- The marks of one token, with the blocks that end before it. None are left at the end of the
text. -/
def step (s : Lexer) : Except Fault (List Mark × Option Lexer) := do
  let s ← s.advance
  match s.cursor.rest with
  | [] =>
    let (ends, s) := s.closeAll
    let _ ← s.dropCandidate
    return (ends, none)
  | c :: rest =>
    let (ends, s) := s.dedent
    let (marks, s) ← s.token c rest
    return (ends ++ marks, some s)

/-- Reads to the end of the text, or to the first fault. Every token takes at least a character, so
`fuel` need not exceed their number by more than one. -/
def marksFrom : Nat → Lexer → List Mark
  | 0, _ => [.broken .malformed []]
  | fuel + 1, s => match s.step with
    | .error fault => [.broken fault s.waiting]
    | .ok (marks, none) => marks
    | .ok (marks, some next) => marks ++ marksFrom fuel next

end Lexer

def withoutByteOrderMark : List Char → List Char
  | c :: rest => if c = byteOrderMark then rest else c :: rest
  | [] => []

def tokens (text : List Char) : List Token :=
  if !text.all isAllowed then [.broken .malformed]
  else settle (Lexer.marksFrom (text.length + 1) (.start (withoutByteOrderMark text)))

end AgentWire.Yaml
