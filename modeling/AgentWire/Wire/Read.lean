import AgentWire.Wire.Issue
import AgentWire.Wire.Value
/-!
Reading documents. A document is folded into a reader: something that, given a shape, yields the
value or every issue in reported order. Fields come in declared order, then keys a closed record
refuses in document order; items and entries come in document order. Locations name the variant
taken at a tagged place.
-/
namespace AgentWire

abbrev Reading := Except Issues Value

structure Part where
  document : Json
  read : Shape → Reading

namespace Reading

def fail (c : Cause) : Reading :=
  .error ⟨⟨[], c⟩, []⟩

def mismatch (expected : Expected) (document : Json) : Reading :=
  fail (.mismatch expected document.kind)

def under (s : Step) : Reading → Reading
  | .ok v => .ok v
  | .error issues => .error (issues.map (Issue.under s))

/-- All values, or the issues of all. -/
def collect : List Reading → Except Issues (List Value)
  | [] => .ok []
  | r :: rest => match r, collect rest with
    | .ok v, .ok vs => .ok (v :: vs)
    | .ok _, .error issues => .error issues
    | .error issues, .ok _ => .error issues
    | .error issues, .error more => .error (issues.append more.toList)

end Reading

def readItemsFrom (start : Nat) (shape : Shape) : List Part → List Reading
  | [] => []
  | p :: rest => (p.read shape).under (.index start) :: readItemsFrom (start + 1) shape rest

/-- The items of a name. A name needs one that is a text; if none is, that is an issue of its own,
after those of the items. -/
def readNames (document : Json) (items : List Reading) : Reading :=
  let empty : Issue := ⟨[], .mismatch .nonEmptyArray document.kind⟩
  match Reading.collect items with
  | .ok [] => .error ⟨empty, []⟩
  | .ok vs => .ok (.list vs)
  | .error issues =>
    .error (if items.any Except.isOk then issues else issues.append [empty])

def partOf (key : String) : List (String × Part) → Option Part
  | [] => none
  | (k, p) :: rest => if k = key then some p else partOf key rest

def readField (members : List (String × Part)) (f : Field) : Reading :=
  match partOf f.name members with
  | none => match f.need, f.shape with
    | .required, _ => .error ⟨⟨[.key f.name], .missing⟩, []⟩
    | .optional, _ => .ok .absent
    | .constant, .tag label => .ok (.text label)
    | .constant, _ => .ok .absent
  | some p => match f.need, p.document with
    | .optional, .null => .ok .absent
    | _, _ => (p.read f.shape).under (.key f.name)

def undeclared (r : Record) (members : List (String × Part)) : List Issue :=
  (members.filter fun (k, _) => !r.fields.any (·.name = k)).map fun (k, p) =>
    ⟨[.key k], .mismatch .noField p.document.kind⟩

def readRecord (r : Record) (members : List (String × Part)) : Reading :=
  let extra := if r.closed then undeclared r members else []
  match Reading.collect (r.fields.map (readField members)), extra with
  | .ok vs, [] => .ok (.record r ((r.fields.map (·.name)).zip vs))
  | .ok _, first :: more => .error ⟨first, more⟩
  | .error issues, more => .error (issues.append more)

def variantOf (label : String) (variants : List Record) : Option Record :=
  variants.find? fun r => r.label? = some label

/-- A tagged object: its `type` decides, and no other variant is looked at. -/
def readTagged (variants : List Record) (members : List (String × Part)) : Reading :=
  match partOf "type" members with
  | none => .fail .untagged
  | some p => match p.document with
    | .str label => match variantOf label variants with
      | some r => (readRecord r members).under (.key label)
      | none => .fail (.unrecognised (some (.unknownTag p.document)))
    | tag => .fail (.unrecognised (some (.unknownTag tag)))

/-- Reads a document whose items and members already have readers. -/
def readWith (document : Json) (items : List Part) (members : List (String × Part)) :
    Shape → Reading
  | .text => match document with
    | .str s => .ok (.text s)
    | d => .mismatch .string d
  | .flag => match document with
    | .bool b => .ok (.flag b)
    | d => .mismatch .boolean d
  | .integer => match document with
    | .int i => .ok (.integer i)
    | d => .mismatch .integer d
  | .natural => match document with
    | .int i => if 0 ≤ i ∧ i < naturalEnd then .ok (.integer i) else .mismatch .unsigned document
    | d => .mismatch .integer d
  | .json => .ok (.json document)
  | .names => match document with
    | .arr _ => readNames document (readItemsFrom 0 .text items)
    | d => .mismatch .array d
  | .choice e => match document with
    | .str s =>
      if s ∈ e.words then .ok (.member e s) else .fail (.unrecognised (some (.notAmong e.words)))
    | d => .mismatch .string d
  | .operator e => match document with
    | .str s => .ok (if s ∈ e.words then .member e s else .text s)
    | d => .mismatch .string d
  | .tag label => match document with
    | .str s =>
      if s = label then .ok (.text s) else .fail (.unrecognised (some (.notAmong [label])))
    | d => .mismatch .string d
  | .list item => match document with
    | .arr _ => (Reading.collect (readItemsFrom 0 item items)).map .list
    | d => .mismatch .array d
  | .map value => match document with
    | .obj _ =>
      (Reading.collect (members.map fun (k, p) => (p.read value).under (.key k))).map fun vs =>
        .map ((members.map (·.1)).zip vs)
    | d => .mismatch .object d
  | .record r => match document with
    | .obj _ => readRecord r members
    | d => .mismatch .object d
  | .tagged variants => match document with
    | .obj _ => readTagged variants members
    | d => .mismatch .object d
  | .either first second => match readWith document items members first with
    | .ok v => .ok v
    | .error _ => match readWith document items members second with
      | .ok v => .ok v
      | .error _ => .fail (.unrecognised none)

mutual
def readShape : Json → Shape → Reading
  | .null => readWith .null [] []
  | .bool b => readWith (.bool b) [] []
  | .int i => readWith (.int i) [] []
  | .num x => readWith (.num x) [] []
  | .str s => readWith (.str s) [] []
  | .arr items => readWith (.arr items) (itemParts items) []
  | .obj members => readWith (.obj members) [] (memberParts members)

def itemParts : List Json → List Part
  | [] => []
  | x :: rest => ⟨x, readShape x⟩ :: itemParts rest

def memberParts : List (String × Json) → List (String × Part)
  | [] => []
  | (k, x) :: rest => (k, ⟨x, readShape x⟩) :: memberParts rest
end

end AgentWire
