import AgentWire.Yaml.Node
import AgentWire.Yaml.Scalar
import AgentWire.Yaml.Token
/-!
The document that tokens make up: one node, after directives and `---` or without. Every function
takes what it needs from the front of the tokens and gives back the rest. An anchor is given once,
and an alias mentions one that has been given; where the text could not be read further, its fault
is met only if what stands before it holds no other mistake.
-/
namespace AgentWire.Yaml.Node

structure Rest where
  tokens : List Token
  anchors : List String

def stuck : List Token → Fault
  | .broken fault :: _ => fault
  | _ => .malformed

def Rest.fail {α : Type} (r : Rest) : Except Fault α := .error (stuck r.tokens)

def Rest.enter (r : Rest) : Option String → Except Fault Rest
  | none => .ok r
  | some name =>
    if r.anchors.contains name then .error .malformed
    else .ok { r with anchors := name :: r.anchors }

def Rest.at (r : Rest) (tokens : List Token) : Rest := { r with tokens }

abbrev Handles := List (String × String)

def Handles.standard : Handles := [("!", "!"), ("!!", Tag.standardStem)]

/-- Anchor and tag in front of a node. A tag that is a lone `!` says nothing but that it is
there. -/
structure Properties where
  anchor : Option String
  tag : Option String

def fullTag (hs : Handles) (handle : Option String) (rest : String) : Except Fault String :=
  match handle with
  | none => .ok rest
  | some h => match hs.lookup h with
    | some stem => .ok (stem ++ rest)
    | none => .error .malformed

def properties (hs : Handles) : List Token → Except Fault (Properties × List Token)
  | .broken fault :: _ => .error fault
  | .anchor _ :: .broken fault :: _ => .error fault
  | .tag _ _ :: .broken fault :: _ => .error fault
  | .anchor a :: .tag h r :: rest => (fullTag hs h r).map fun t => (⟨some a, some t⟩, rest)
  | .tag h r :: .anchor a :: rest => (fullTag hs h r).map fun t => (⟨some a, some t⟩, rest)
  | .anchor a :: rest => .ok (⟨some a, none⟩, rest)
  | .tag h r :: rest => (fullTag hs h r).map fun t => (⟨none, some t⟩, rest)
  | rest => .ok (⟨none, none⟩, rest)

/-- The tag of a scalar: as written, by the form of a plain text, or else that of a string. -/
def scalarTag (tag : Option String) (plain : Bool) (text : String) : Tag :=
  match tag with
  | some "!" => Tag.ofPlain text.toList
  | some full => Tag.ofName full
  | none => if plain then Tag.ofPlain text.toList else .str

def collectionTag (tag : Option String) (usual : Tag) : Tag :=
  match tag with
  | none => usual
  | some "!" => usual
  | some full => Tag.ofName full

/-- Where a node stands: in a block, where a sequence may stand as far left as the key before it, or
not. -/
inductive Position where
  | block
  | afterKey
  | flow
  deriving DecidableEq

def leftOutInMapping : List Token → Bool
  | .key :: _ => true
  | .value :: _ => true
  | .blockEnd :: _ => true
  | _ => false

def leftOutInSequence : List Token → Bool
  | .item :: _ => true
  | .blockEnd :: _ => true
  | _ => false

def leftOutInFlow (closing : Token) : List Token → Bool
  | .separator :: _ => true
  | t :: _ => t = closing
  | [] => false

def keyLeftOut (closing : Token) : List Token → Bool
  | .value :: _ => true
  | ts => leftOutInFlow closing ts

def leftOut (ps : Properties) (r : Rest) : Except Fault (Node × Rest) :=
  match ps with
  | ⟨none, none⟩ => r.fail
  | ⟨anchor, tag⟩ => do return (.scalar anchor (scalarTag tag true "") "", ← r.enter anchor)

mutual
/-- A node. The first argument bounds the depth of the calls; twice the number of tokens and two is
enough. -/
def ofTokens (hs : Handles) : Nat → Position → Rest → Except Fault (Node × Rest)
  | 0, _, _ => .error .malformed
  | fuel + 1, position, r => do
    match r.tokens with
    | .alias name :: rest =>
      if r.anchors.contains name then return (.alias name, r.at rest) else throw .malformed
    | _ =>
    let (ps, ts) ← properties hs r.tokens
    let r := r.at ts
    match ts, position with
    | .broken fault :: _, _ => throw fault
    | .item :: _, .afterKey =>
      let (items, r) ← looseItems hs fuel (← r.enter ps.anchor)
      return (.sequence ps.anchor (collectionTag ps.tag .seq) items, r)
    | .scalar plain text :: rest, _ =>
      return (.scalar ps.anchor (scalarTag ps.tag plain text) text, (← r.enter ps.anchor).at rest)
    | .flowSequence :: rest, _ =>
      let (items, r) ← flowItems hs fuel true ((← r.enter ps.anchor).at rest)
      return (.sequence ps.anchor (collectionTag ps.tag .seq) items, r)
    | .flowMapping :: rest, _ =>
      let (entries, r) ← flowEntries hs fuel true ((← r.enter ps.anchor).at rest)
      return (.mapping ps.anchor (collectionTag ps.tag .map) entries, r)
    | .blockSequence :: rest, p =>
      if p = .flow then leftOut ps r
      else
        let (items, r) ← blockItems hs fuel ((← r.enter ps.anchor).at rest)
        return (.sequence ps.anchor (collectionTag ps.tag .seq) items, r)
    | .blockMapping :: rest, p =>
      if p = .flow then leftOut ps r
      else
        let (entries, r) ← blockEntries hs fuel ((← r.enter ps.anchor).at rest)
        return (.mapping ps.anchor (collectionTag ps.tag .map) entries, r)
    | _, _ => leftOut ps r

def blockItems (hs : Handles) : Nat → Rest → Except Fault (List Node × Rest)
  | 0, _ => .error .malformed
  | fuel + 1, r => match r.tokens with
    | .blockEnd :: rest => .ok ([], r.at rest)
    | .item :: rest => do
      let (n, r) ←
        if leftOutInSequence rest then .ok (nothing, r.at rest)
        else ofTokens hs fuel .block (r.at rest)
      let (items, r) ← blockItems hs fuel r
      return (n :: items, r)
    | _ => r.fail

/-- The items of a sequence without a block of its own, up to the first token that is no item. -/
def looseItems (hs : Handles) : Nat → Rest → Except Fault (List Node × Rest)
  | 0, _ => .error .malformed
  | fuel + 1, r => match r.tokens with
    | .item :: rest => do
      let (n, r) ←
        if leftOutInSequence rest || leftOutInMapping rest then .ok (nothing, r.at rest)
        else ofTokens hs fuel .block (r.at rest)
      let (items, r) ← looseItems hs fuel r
      return (n :: items, r)
    | .broken fault :: _ => .error fault
    | _ => .ok ([], r)

def blockEntries (hs : Handles) : Nat → Rest → Except Fault (List (Node × Node) × Rest)
  | 0, _ => .error .malformed
  | fuel + 1, r => match r.tokens with
    | .blockEnd :: rest => .ok ([], r.at rest)
    | .key :: rest => do
      let (k, r) ←
        if leftOutInMapping rest then .ok (nothing, r.at rest)
        else ofTokens hs fuel .afterKey (r.at rest)
      let (v, r) ← match r.tokens with
        | .value :: rest =>
          if leftOutInMapping rest then .ok (nothing, r.at rest)
          else ofTokens hs fuel .afterKey (r.at rest)
        | .broken fault :: _ => .error fault
        | _ => .ok (nothing, r)
      let (entries, r) ← blockEntries hs fuel r
      return ((k, v) :: entries, r)
    | _ => r.fail

/-- The items of a flow sequence. A key among them makes a mapping with that one entry. -/
def flowItems (hs : Handles) : Nat → Bool → Rest → Except Fault (List Node × Rest)
  | 0, _, _ => .error .malformed
  | fuel + 1, first, r => do
    match r.tokens with
    | .flowSequenceEnd :: rest => return ([], r.at rest)
    | _ =>
    let r ← match first, r.tokens with
      | true, _ => .ok r
      | false, .separator :: rest => .ok (r.at rest)
      | false, _ => r.fail
    match r.tokens with
    | .flowSequenceEnd :: rest => return ([], r.at rest)
    | .key :: rest =>
      let (k, r) ←
        if keyLeftOut .flowSequenceEnd rest then .ok (nothing, r.at rest)
        else ofTokens hs fuel .flow (r.at rest)
      let (v, r) ← match r.tokens with
        | .value :: rest =>
          if leftOutInFlow .flowSequenceEnd rest then .ok (nothing, r.at rest)
          else ofTokens hs fuel .flow (r.at rest)
        | .broken fault :: _ => .error fault
        | _ => .ok (nothing, r)
      let (items, r) ← flowItems hs fuel false r
      return (.mapping none .map [(k, v)] :: items, r)
    | _ =>
      let (n, r) ← ofTokens hs fuel .flow r
      let (items, r) ← flowItems hs fuel false r
      return (n :: items, r)

/-- The entries of a flow mapping. A node without a colon is a key without a value. -/
def flowEntries (hs : Handles) : Nat → Bool → Rest → Except Fault (List (Node × Node) × Rest)
  | 0, _, _ => .error .malformed
  | fuel + 1, first, r => do
    match r.tokens with
    | .flowMappingEnd :: rest => return ([], r.at rest)
    | _ =>
    let r ← match first, r.tokens with
      | true, _ => .ok r
      | false, .separator :: rest => .ok (r.at rest)
      | false, _ => r.fail
    match r.tokens with
    | .flowMappingEnd :: rest => return ([], r.at rest)
    | .key :: rest =>
      let (k, r) ←
        if keyLeftOut .flowMappingEnd rest then .ok (nothing, r.at rest)
        else ofTokens hs fuel .flow (r.at rest)
      let (v, r) ← match r.tokens with
        | .value :: rest =>
          if leftOutInFlow .flowMappingEnd rest then .ok (nothing, r.at rest)
          else ofTokens hs fuel .flow (r.at rest)
        | .broken fault :: _ => .error fault
        | _ => .ok (nothing, r)
      let (entries, r) ← flowEntries hs fuel false r
      return ((k, v) :: entries, r)
    | _ =>
      let (k, r) ← ofTokens hs fuel .flow r
      let (entries, r) ← flowEntries hs fuel false r
      return ((k, nothing) :: entries, r)
end

def content (hs : Handles) (ts : List Token) : Except Fault (Node × List Token) :=
  (ofTokens hs (2 * ts.length + 2) .block ⟨ts, []⟩).map fun (n, r) => (n, r.tokens)

/-- Directives, up to the first other token: at most one version, which is 1.x, and each handle
once. -/
def directives (versioned : Bool) (hs : Handles) : List Token → Except Fault (Handles × List Token)
  | .version major _ :: rest =>
    if versioned || major ≠ 1 then .error .malformed else directives true hs rest
  | .tagHandle h stem :: rest =>
    if (hs.lookup h).isSome then .error .malformed else directives versioned ((h, stem) :: hs) rest
  | .otherDirective :: rest => directives versioned hs rest
  | .broken fault :: _ => .error fault
  | rest => .ok (hs, rest)

def startsDocument : Token → Bool
  | .version .. => true
  | .tagHandle .. => true
  | .otherDirective => true
  | .documentStart => true
  | _ => false

def isDocumentEnd : Token → Bool
  | .documentEnd => true
  | _ => false

def announced (ts : List Token) : Except Fault (Node × List Token) := do
  let (hs, rest) ← directives false [] ts
  let hs := hs ++ Handles.standard
  match rest with
  | .documentStart :: [] => return (nothing, [])
  | .documentStart :: next :: rest =>
    if startsDocument next || isDocumentEnd next then return (nothing, next :: rest)
    else content hs (next :: rest)
  | rest => throw (stuck rest)

/-- Nothing but ends of documents may follow the first one. -/
def atEnd (ts : List Token) : Except Fault Unit := do
  let rest := ts.dropWhile isDocumentEnd
  if rest.isEmpty then return () else
  let (_, rest) ← directives false [] rest
  throw (stuck rest)

/-- The single document of a text, if there is one; more than one is a mistake. -/
def document (ts : List Token) : Except Fault (Option Node) := do
  match ts with
  | [] => return none
  | t :: _ =>
    let (n, rest) ← if startsDocument t then announced ts else content Handles.standard ts
    atEnd rest
    return some n

end AgentWire.Yaml.Node
