import AgentWire.Wire.Value
/-!
Two ways to write a value as JSON: by itself, going by what it is, and through a shape, going by
what is declared at each place. Both write the fields of a record that are present, in their order,
and put null for every infinite or undefined double inside of a record.
-/
namespace AgentWire

namespace Value

mutual
/-- The JSON form of a value. A record writes the fields that are present, in their order, and puts
null for every infinite or undefined double inside. -/
def encode : Value → Json
  | .absent => .null
  | .json j => j
  | .text s => .str s
  | .flag b => .bool b
  | .integer i => .int i
  | .member _ w => .str w
  | .list items => .arr (encodeItems items)
  | .map entries => .obj (encodeEntries entries)
  | .record _ fields => (Json.obj (encodeEntries fields)).withoutNonFinite

def encodeItems : List Value → List Json
  | [] => []
  | x :: rest => encode x :: encodeItems rest

def encodeEntries : List (String × Value) → List (String × Json)
  | [] => []
  | (k, v) :: rest => match v with
    | .absent => encodeEntries rest
    | v => (k, encode v) :: encodeEntries rest
end

/-- The JSON form of a value with no shape to go by. Outside of records, too, the doubles inside of
arrays and objects that are infinite or undefined become null. -/
def encodeAlone : Value → Json
  | .json (.arr items) => (Json.arr items).withoutNonFinite
  | .json (.obj members) => (Json.obj members).withoutNonFinite
  | v => v.encode

end Value

/-- Whether a value can come from a shape, by its outermost form alone. -/
def Shape.admits : Shape → Value → Bool
  | .text, .text _ => true
  | .flag, .flag _ => true
  | .integer, .integer _ => true
  | .natural, .integer _ => true
  | .json, .json _ => true
  | .names, .list _ => true
  | .choice e, .member f _ => e == f
  | .operator e, .member f _ => e == f
  | .operator _, .text _ => true
  | .tag label, .text s => label == s
  | .list _, .list _ => true
  | .map _, .map _ => true
  | .record r, .record q _ => r == q
  | .tagged variants, .record q _ => variants.contains q
  | .either first second, v => first.admits v || second.admits v
  | _, _ => false

structure Written where
  value : Value
  write : Shape → Json

/-- The fields of a record next to their declarations; what is absent is not written. -/
def writeFields : List Field → List (String × Written) → List (String × Json)
  | f :: declared, (k, w) :: rest => match w.value with
    | .absent => writeFields declared rest
    | _ => (k, w.write f.shape) :: writeFields declared rest
  | _, _ => []

def writeWith (v : Value) (items : List Written) (entries : List (String × Written)) : Shape → Json
  | .names => match v with
    | .list _ => .arr (items.map (·.write .text))
    | _ => v.encode
  | .list item => match v with
    | .list _ => .arr (items.map (·.write item))
    | _ => v.encode
  | .map value => match v with
    | .map _ => .obj (entries.map fun (k, w) => (k, w.write value))
    | _ => v.encode
  | .record r => match v with
    | .record _ _ => (Json.obj (writeFields r.fields entries)).withoutNonFinite
    | _ => v.encode
  | .tagged _ => match v with
    | .record r _ => (Json.obj (writeFields r.fields entries)).withoutNonFinite
    | _ => v.encode
  | .either first second =>
    if first.admits v then writeWith v items entries first else writeWith v items entries second
  | .text | .flag | .integer | .natural | .json | .choice _ | .operator _ | .tag _ => v.encode

mutual
/-- The JSON form of a value through a shape. A value that is not of the shape is written by
itself. -/
def encodeAt : Value → Shape → Json
  | .absent => writeWith .absent [] []
  | .json j => writeWith (.json j) [] []
  | .text s => writeWith (.text s) [] []
  | .flag b => writeWith (.flag b) [] []
  | .integer i => writeWith (.integer i) [] []
  | .member e w => writeWith (.member e w) [] []
  | .list items => writeWith (.list items) (writtenItems items) []
  | .map entries => writeWith (.map entries) [] (writtenEntries entries)
  | .record r fields => writeWith (.record r fields) [] (writtenEntries fields)

def writtenItems : List Value → List Written
  | [] => []
  | v :: rest => ⟨v, encodeAt v⟩ :: writtenItems rest

def writtenEntries : List (String × Value) → List (String × Written)
  | [] => []
  | (k, v) :: rest => (k, ⟨v, encodeAt v⟩) :: writtenEntries rest
end

end AgentWire
