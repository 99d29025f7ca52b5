import AgentWire.Yaml.Node
import AgentWire.Yaml.Scalar
/-!
The node that stands for a datum. What is mentioned more than once gets an anchor, `id001` and so on
in the order of the second mentions; every mention after the first is an alias.
-/
namespace AgentWire.Yaml.Node

/-- The marks met so far, and those met again in the order of their second mention. -/
structure Census where
  seen : List Nat
  again : List Nat

namespace Census

/-- Counts a mention. The flag says that it is the first one, or that nothing is counted. -/
def count (c : Census) : Option Nat → Census × Bool
  | none => (c, true)
  | some mark =>
    if !c.seen.contains mark then ({ c with seen := mark :: c.seen }, true)
    else if c.again.contains mark then (c, false)
    else ({ c with again := c.again ++ [mark] }, false)

end Census

mutual
def census (c : Census) : Datum → Census
  | .day mark _ => (c.count mark).1
  | .moment mark _ => (c.count mark).1
  | .within mark _ => (c.count (some mark)).1
  | .list mark items =>
    let (c, first) := c.count mark
    if first then censusOfItems c items else c
  | .set mark members =>
    let (c, first) := c.count mark
    if first then censusOfItems c members else c
  | .map mark entries =>
    let (c, first) := c.count mark
    if first then censusOfEntries c entries else c
  | .pair a b => census (census c a) b
  | .null | .bool _ | .int _ | .num _ | .nan _ | .str _ | .bytes _ => c

def censusOfItems (c : Census) : List Datum → Census
  | [] => c
  | d :: rest => censusOfItems (census c d) rest

def censusOfEntries (c : Census) : List (Datum × Datum) → Census
  | [] => c
  | (k, v) :: rest => censusOfEntries (census (census c k) v) rest
end

/-- `id` and the position, counted from one, in three digits or more. -/
def anchorName (marks : List Nat) (mark : Nat) : Option String :=
  (marks.findIdx? (· = mark)).map fun i =>
    String.ofList ("id".toList ++ NumberText.padded 3 (i + 1))

structure Written where
  marks : List Nat
  done : List Nat

namespace Written

inductive Mention where
  | alias (name : String)
  | node (anchor : Option String)

def mention (w : Written) (mark : Option Nat) : Mention × Written :=
  match mark.bind fun m => (anchorName w.marks m).map (m, ·) with
  | none => (.node none, w)
  | some (m, name) =>
    if w.done.contains m then (.alias name, w)
    else (.node (some name), { w with done := m :: w.done })

end Written

def pairTag : Tag := .other (Tag.standardStem ++ "python/tuple")

def text (t : Tag) (cs : List Char) : Node :=
  .scalar none t (String.ofList cs)

mutual
def ofDatumWith (w : Written) : Datum → Node × Written
  | .null => (text .null "null".toList, w)
  | .bool b => (text .bool (if b then "true" else "false").toList, w)
  | .int i => (text .int ((if i < 0 then ['-'] else []) ++ Nat.toDigits 10 i.natAbs), w)
  | .num x => (text .float (Scalar.floatText x), w)
  | .nan _ => (text .float (Scalar.floatText NumberText.notANumber), w)
  | .str s => (.scalar none .str s, w)
  | .bytes bs => (text .binary (Base64.encode bs), w)
  | .day mark d => match w.mention mark with
    | (.alias name, w) => (.alias name, w)
    | (.node anchor, w) => (.scalar anchor .timestamp (String.ofList d.text), w)
  | .moment mark m => match w.mention mark with
    | (.alias name, w) => (.alias name, w)
    | (.node anchor, w) => (.scalar anchor .timestamp (String.ofList m.text), w)
  | .within mark isList => match w.mention (some mark) with
    | (.alias name, w) => (.alias name, w)
    | (.node anchor, w) => (if isList then .sequence anchor .seq [] else .mapping anchor .map [], w)
  | .list mark items => match w.mention mark with
    | (.alias name, w) => (.alias name, w)
    | (.node anchor, w) =>
      let (nodes, w) := ofItems w items
      (.sequence anchor .seq nodes, w)
  | .pair a b =>
    let (first, w) := ofDatumWith w a
    let (second, w) := ofDatumWith w b
    (.sequence none pairTag [first, second], w)
  | .set mark members => match w.mention mark with
    | (.alias name, w) => (.alias name, w)
    | (.node anchor, w) =>
      let (nodes, w) := ofItems w members
      (.mapping anchor .set (nodes.map fun n => (n, text .null "null".toList)), w)
  | .map mark entries => match w.mention mark with
    | (.alias name, w) => (.alias name, w)
    | (.node anchor, w) =>
      let (nodes, w) := ofEntries w entries
      (.mapping anchor .map nodes, w)

def ofItems (w : Written) : List Datum → List Node × Written
  | [] => ([], w)
  | d :: rest =>
    let (n, w) := ofDatumWith w d
    let (nodes, w) := ofItems w rest
    (n :: nodes, w)

def ofEntries (w : Written) : List (Datum × Datum) → List (Node × Node) × Written
  | [] => ([], w)
  | (k, v) :: rest =>
    let (key, w) := ofDatumWith w k
    let (value, w) := ofDatumWith w v
    let (nodes, w) := ofEntries w rest
    ((key, value) :: nodes, w)
end

def ofDatum (d : Datum) : Node :=
  (ofDatumWith ⟨(census ⟨[], []⟩ d).again, []⟩ d).1

end AgentWire.Yaml.Node
