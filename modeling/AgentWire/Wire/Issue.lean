import AgentWire.Json.Reader
import AgentWire.Text.Utf8
import AgentWire.Wire.Path
/-!
What can be wrong with a document. Causes are kept apart from their wording, which is all in
`message`.
-/
namespace AgentWire

inductive Expected where
  | string
  | integer
  | boolean
  | array
  | object
  | unsigned
  | nonEmptyArray
  | noField
  deriving DecidableEq, Repr

def Expected.name : Expected → String
  | .string => "string"
  | .integer => "integer"
  | .boolean => "boolean"
  | .array => "array"
  | .object => "object"
  | .unsigned => "unsigned 64-bit integer"
  | .nonEmptyArray => "non-empty array"
  | .noField => "no additional field"

inductive Detail where
  /-- A tagged object whose `type` names none of the variants. -/
  | unknownTag (tag : Json)
  | notAmong (words : List String)

/-- `'a'`, `'a' or 'b'`, `'a', 'b' or 'c'`. -/
def oneOf : List String → String
  | [] => ""
  | [w] => "'" ++ w ++ "'"
  | [v, w] => "'" ++ v ++ "' or '" ++ w ++ "'"
  | w :: rest => "'" ++ w ++ "', " ++ oneOf rest

def Detail.text : Detail → String
  | .unknownTag tag => "unknown type '" ++ (Datum.ofJson tag).plainText ++ "'"
  | .notAmong words => "expected " ++ oneOf words

inductive Cause where
  | missing
  /-- An object that does not say which variant it is. -/
  | untagged
  | mismatch (expected : Expected) (actual : Kind)
  | unrecognised (detail : Option Detail)

def Cause.message : Cause → String
  | .missing => "required field is missing"
  | .untagged => "required field is missing"
  | .mismatch expected actual => "expected " ++ expected.name ++ ", got " ++ actual.name
  | .unrecognised none => "value matches none of the expected variants"
  | .unrecognised (some d) => "value matches none of the expected variants (" ++ d.text ++ ")"

/-- What the path of an issue has beyond the value itself: the tag that an object lacks. -/
def Cause.beyond : Cause → Path
  | .untagged => [.key "type"]
  | _ => []

structure Issue where
  path : List Step
  cause : Cause

def Issue.under (s : Step) (i : Issue) : Issue :=
  ⟨s :: i.path, i.cause⟩

structure Issues where
  first : Issue
  more : List Issue

namespace Issues

def toList (is : Issues) : List Issue :=
  is.first :: is.more

def map (f : Issue → Issue) (is : Issues) : Issues :=
  ⟨f is.first, is.more.map f⟩

def append (is : Issues) (later : List Issue) : Issues :=
  ⟨is.first, is.more ++ later⟩

end Issues

inductive Malformed where
  | encoding (fault : Utf8.Fault)
  | json (source : List Char) (failure : Json.Failure)

def Malformed.reason : Malformed → String
  | .encoding fault => "invalid UTF-8: " ++ fault.reason
  | .json source failure => failure.message source

inductive DecodeError where
  | malformed (m : Malformed)
  | invalid (issues : Issues)

def Malformed.message (m : Malformed) : String :=
  "malformed input: " ++ m.reason

def located (path : Path) (message : String) : String :=
  Path.text path ++ ": " ++ message

def DecodeError.message : DecodeError → String
  | .malformed m => located [] m.message
  | .invalid issues => located issues.first.path issues.first.cause.message

end AgentWire
