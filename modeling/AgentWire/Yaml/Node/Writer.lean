import AgentWire.Yaml.Node.OfDatum
import AgentWire.Yaml.ScalarText
/-!
The text of a node, in blocks. Each level is two columns further right, but for a sequence right
after its key, which stands below it.
-/
namespace AgentWire.Yaml.Node

structure Spot where
  /-- The column of the block around it; none at the root. -/
  indent : Option Nat
  column : Nat
  spaced : Bool
  /-- Whether a block can start on this line: at the root, and after `-`, `?` and `:` signs of their
  own. -/
  fresh : Bool
  inMapping : Bool

namespace Spot

def root : Spot := ⟨none, 0, false, true, false⟩

def item (indent : Nat) : Spot := ⟨some indent, indent + 1, true, true, false⟩

def announced (indent : Nat) : Spot := ⟨some indent, indent + 1, true, true, true⟩

def value (indent column : Nat) : Spot := ⟨some indent, column, true, false, true⟩

def key (indent : Nat) : Spot := ⟨some indent, indent, false, false, true⟩

def word (s : Spot) (cs : List Char) : List Char :=
  if s.spaced then ' ' :: cs else cs

def past (s : Spot) (cs : List Char) : Spot :=
  { s with column := s.column + (s.word cs).length, spaced := true, fresh := false }

def scalarIndent (s : Spot) : Nat := (s.indent.map (· + 2)).getD 2

def mappingIndent (s : Spot) : Nat := (s.indent.map (· + 2)).getD 0

def sequenceIndent (s : Spot) : Nat :=
  if s.inMapping && !s.fresh then s.indent.getD 0 else s.mappingIndent

def opening (s : Spot) (indent : Nat) : List Char :=
  if s.fresh then List.replicate (indent - s.column) ' ' else ScalarText.newLine indent

end Spot

def propertyWords (anchor : Option String) (t : Option Tag) : List (List Char) :=
  (anchor.map fun a => '&' :: a.toList).toList ++ (t.map fun t => t.shorthand.toList).toList

def written (s : Spot) : List (List Char) → List Char × Spot
  | [] => ([], s)
  | w :: rest =>
    let (more, after) := written (s.past w) rest
    (s.word w ++ more, after)

/-- The tag of a scalar, unless its style and text say it. -/
def shownTag (st : Style) (t : Tag) (cs : List Char) : Option Tag :=
  if st = .plain && Tag.ofPlain cs = t || st ≠ .plain && t = .str then none else some t

def writeScalar (s : Spot) (foldable : Bool) (anchor : Option String) (t : Tag) (cs : List Char) :
    List Char :=
  let st := ScalarText.style t cs
  let (front, s) := written s (propertyWords anchor (shownTag st t cs))
  let column := s.column + (if s.spaced then 1 else 0)
  front ++ s.word (ScalarText.write ⟨column, s.scalarIndent, foldable⟩ st cs)

/-- The most characters that anchor, tag and text of a key may have together to stand before its
colon. -/
def keyWidth : Nat := 127

def isSimpleKey : Node → Bool
  | .alias name => name.length ≤ keyWidth
  | .scalar anchor t text =>
    (anchor.map String.length).getD 0 + t.shorthand.length + text.length ≤ keyWidth &&
      !text.isEmpty && !text.toList.any isBreak
  | .sequence anchor t items =>
    (anchor.map String.length).getD 0 + t.shorthand.length ≤ keyWidth && items.isEmpty
  | .mapping anchor t entries =>
    (anchor.map String.length).getD 0 + t.shorthand.length ≤ keyWidth && entries.isEmpty

def writeSimpleKey (s : Spot) : Node → List Char
  | .alias name => s.word ('*' :: name.toList)
  | .scalar anchor t text => writeScalar s false anchor t text.toList
  | .sequence anchor t _ =>
    let (front, s) := written s (propertyWords anchor (if t = .seq then none else some t))
    front ++ s.word ['[', ']']
  | .mapping anchor t _ =>
    let (front, s) := written s (propertyWords anchor (if t = .map then none else some t))
    front ++ s.word ['{', '}']

mutual
def write (s : Spot) : Node → List Char
  | .alias name => s.word ('*' :: name.toList)
  | .scalar anchor t text => writeScalar s true anchor t text.toList
  | .sequence anchor t items =>
    let (front, s) := written s (propertyWords anchor (if t = .seq then none else some t))
    match items with
    | [] => front ++ s.word ['[', ']']
    | n :: rest =>
      let indent := s.sequenceIndent
      front ++ s.opening indent ++ '-' :: write (.item indent) n ++ writeItems indent rest
  | .mapping anchor t entries =>
    let (front, s) := written s (propertyWords anchor (if t = .map then none else some t))
    match entries with
    | [] => front ++ s.word ['{', '}']
    | (k, v) :: rest =>
      let indent := s.mappingIndent
      front ++ s.opening indent ++
        (if isSimpleKey k then
          let key := writeSimpleKey (.key indent) k
          key ++ ':' :: write (.value indent (indent + key.length + 1)) v
        else '?' :: write (.announced indent) k ++ ScalarText.newLine indent ++
          ':' :: write (.announced indent) v) ++
        writeEntries indent rest

def writeItems (indent : Nat) : List Node → List Char
  | [] => []
  | n :: rest =>
    ScalarText.newLine indent ++ '-' :: write (.item indent) n ++ writeItems indent rest

def writeEntries (indent : Nat) : List (Node × Node) → List Char
  | [] => []
  | (k, v) :: rest =>
    ScalarText.newLine indent ++
      (if isSimpleKey k then
        let key := writeSimpleKey (.key indent) k
        key ++ ':' :: write (.value indent (indent + key.length + 1)) v
      else '?' :: write (.announced indent) k ++ ScalarText.newLine indent ++
        ':' :: write (.announced indent) v) ++
      writeEntries indent rest
end

/-- What ends a document: a plain scalar at the root needs a sign that nothing follows. -/
def ending : Node → List Char
  | .scalar _ t text => if ScalarText.style t text.toList = .plain then "\n...\n".toList else ['\n']
  | _ => ['\n']

def documentText (n : Node) : List Char :=
  write .root n ++ n.ending

end AgentWire.Yaml.Node
