import AgentWire.Yaml.Quoted
/-!
Scalars without quotes: plain ones, which end where the text could mean something else, and blocks
of lines after `|` or `>`, which end where the lines stand further left.
-/
namespace AgentWire.Yaml

namespace Plain

def isFlowIndicator (c : Char) : Bool :=
  c = ',' || c = '[' || c = ']' || c = '{' || c = '}'

def stops (flow : Bool) (c : Char) (rest : List Char) : Bool :=
  isSpace c ||
  c = ':' && (endsWord rest || flow && (rest.head?.map isFlowIndicator).getD false) ||
  flow && (c = '?' || isFlowIndicator c)

structure Reading where
  value : List Char
  /-- Whether a line break stands between the value and the place where reading stopped. -/
  crossed : Bool
  rest : Cursor

def Reading.prepend (cs : List Char) (r : Reading) : Reading :=
  { r with value := cs ++ r.value }

/-- Reads on. Lines after the first are indented by at least `least`, except in flow collections. -/
def read (flow : Bool) (least : Nat) (gap : Gap) (p : Place) : List Char → Reading
  | [] => ⟨[], gap.isBroken, ⟨p, []⟩⟩
  | c :: rest =>
    if c = ' ' then read flow least (gap.addBlank c) (p.next c) rest
    else if isBreak c then
      if startsBoundary rest then ⟨[], true, ⟨p.next c, rest⟩⟩
      else read flow least (gap.addBreak c) (p.next c) rest
    else if stops flow c rest || (gap ≠ .empty && c = '#') ||
        (gap.isBroken && !flow && p.column < least) then
      ⟨[], gap.isBroken, ⟨p, c :: rest⟩⟩
    else Reading.prepend (gap.text ++ [c]) (read flow least .empty (p.next c) rest)

end Plain

namespace Block

inductive Chomp where
  | strip
  | clip
  | keep
  deriving DecidableEq, Repr

def Chomp.text (ending breaks : List Char) : Chomp → List Char
  | .strip => []
  | .clip => ending
  | .keep => ending ++ breaks

structure Header where
  chomp : Chomp
  /-- The written indentation, relative to the surrounding block. -/
  step : Option Nat

def chomp? (c : Char) : Option Chomp :=
  if c = '+' then some .keep else if c = '-' then some .strip else none

def step? (c : Char) : Option Nat :=
  if '1' ≤ c && c ≤ '9' then some (c.toNat - 48) else none

def header (c : Cursor) : Header × Cursor :=
  match c.rest with
  | a :: rest => match chomp? a, step? a with
    | some k, _ => match rest.head?.bind step? with
      | some n => (⟨k, some n⟩, c.skip 2)
      | none => (⟨k, none⟩, c.skip 1)
    | none, some n => match rest.head?.bind chomp? with
      | some k => (⟨k, some n⟩, c.skip 2)
      | none => (⟨.clip, some n⟩, c.skip 1)
    | none, none => (⟨.clip, none⟩, c)
  | [] => (⟨.clip, none⟩, c)

/-- Leading empty lines: their breaks, and the widest indentation up to the first character that
stands. -/
def leading (p : Place) (widest : Nat) : List Char → List Char × Nat × Cursor
  | [] => ([], widest, ⟨p, []⟩)
  | c :: rest =>
    if c = ' ' then leading (p.next c) (max widest (p.next c).column) rest
    else if isBreak c then
      let (breaks, n, cursor) := leading (p.next c) widest rest
      (breakText c :: breaks, n, cursor)
    else ([], widest, ⟨p, c :: rest⟩)

def empties (indent : Nat) (p : Place) : List Char → List Char × Cursor
  | [] => ([], ⟨p, []⟩)
  | c :: rest =>
    if c = ' ' && p.column < indent then empties indent (p.next c) rest
    else if isBreak c then
      let (breaks, cursor) := empties indent (p.next c) rest
      (breakText c :: breaks, cursor)
    else ([], ⟨p, c :: rest⟩)

def startsBlank (cs : List Char) : Bool :=
  (cs.head?.map isBlank).getD false

/-- What stands for the end of a line that another one follows. In a folded block the break between
two lines of text is a blank, or nothing if empty lines follow. -/
def joint (folded : Bool) (line ending breaks next : List Char) : List Char :=
  if folded && ending = ['\n'] && !startsBlank line && !startsBlank next then
    if breaks.isEmpty then [' '] else []
  else ending

/-- The lines of a block, each from its indentation on. The number of lines is bounded by `fuel`. -/
def lines (folded : Bool) (k : Chomp) (indent : Nat) : Nat → List Char → Cursor → List Char × Cursor
  | 0, _, c => ([], c)
  | fuel + 1, breaks, c =>
    if c.column ≠ indent || c.rest.isEmpty then (k.text [] breaks, c)
    else
      let (line, afterLine) := c.span (!isBreak ·)
      let ending := (afterLine.rest.take 1).map breakText
      let afterBreak := afterLine.skip 1
      let (more, next) := empties indent afterBreak.place afterBreak.rest
      if next.column = indent && !next.rest.isEmpty then
        let (value, rest) := lines folded k indent fuel more next
        (breaks ++ line ++ joint folded line ending more next.rest ++ value, rest)
      else (breaks ++ line ++ k.text ending more, next)

/-- Passes over blanks and a comment to the next line; anything else there is a mistake. -/
def restOfLine (c : Cursor) : Option Cursor :=
  let c := (c.span (· = ' ')).2
  let c := if c.rest.head? = some '#' then (c.span (!isBreak ·)).2 else c
  match c.rest with
  | [] => some c
  | b :: _ => if isBreak b then some (c.skip 1) else none

/-- A block from the character after its indicator on. `least` is the least column its lines may
have. -/
def read (folded : Bool) (least : Nat) (c : Cursor) : Option (List Char × Cursor) := do
  let (h, c) := header c
  if !endsHeader c.rest then none
  let c ← restOfLine c
  let least := max 1 least
  match h.step with
  | none =>
    let (breaks, widest, c) := leading c.place 0 c.rest
    return lines folded h.chomp (max least widest) (c.rest.length + 1) breaks c
  | some n =>
    let indent := least + n - 1
    let (breaks, c) := empties indent c.place c.rest
    return lines folded h.chomp indent (c.rest.length + 1) breaks c
where
  endsHeader : List Char → Bool
    | [] => true
    | c :: _ => c = ' ' || isBreak c

end Block

end AgentWire.Yaml
