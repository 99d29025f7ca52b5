import AgentWire.Json.Writer
import AgentWire.Wire.Encode
import AgentWire.Wire.Read
/-!
Decoding and encoding. Decoding reports places in the document itself: the variant labels of
locations are dropped. What is written is the JSON form of the value, as a value or as text.
-/
namespace AgentWire

def Issue.placed (document : Json) (i : Issue) : Issue :=
  ⟨Path.ofLocation document i.path ++ i.cause.beyond, i.cause⟩

def decode (shape : Shape) (document : Json) : Except DecodeError Value :=
  match readShape document shape with
  | .ok v => .ok v
  | .error issues => .error (.invalid (issues.map (Issue.placed document)))

def decodeText (shape : Shape) (text : List Char) : Except DecodeError Value :=
  match Json.read text with
  | .ok document => decode shape document
  | .error failure => .error (.malformed (.json text failure))

def decodeBytes (shape : Shape) (bytes : List UInt8) : Except DecodeError Value :=
  match Utf8.decode bytes with
  | .ok text => decodeText shape text
  | .error fault => .error (.malformed (.encoding fault))

namespace Value

/-- How encoded values are written: with blanks on one line, or with the given step of indentation,
none if it is negative. Every character is kept. -/
def style (indent : Option Int) : Json.Style :=
  ⟨match indent with
    | none => .line
    | some n => .indented n.toNat, false⟩

end Value

def encodeText (shape : Shape) (indent : Option Int) (v : Value) : String :=
  (encodeAt v shape).text (Value.style indent)

end AgentWire
