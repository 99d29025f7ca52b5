import AgentWire.Datum.Literal
/-!
Places in a document. A location may also name the variant taken at a tagged place; such labels are
no part of the document and are dropped by walking the document along the location.
-/
namespace AgentWire

/-- One step of a location. Documents have only keys and indices. -/
inductive Step where
  | key (k : String)
  | index (i : Int)
  | flag (b : Bool)
  | null
  | num (x : Float)

namespace Step

def toJson : Step → Json
  | .key k => .str k
  | .index i => .int i
  | .flag b => .bool b
  | .null => .null
  | .num x => .num x

def isBracketed : Step → Bool
  | .index _ | .flag _ => true
  | _ => false

def text (s : Step) : String :=
  (Datum.ofJson s.toJson).plainText

end Step

abbrev Path := List Step

namespace Path

/-- Puts a step after the text of those before it: a dot stands between two names, unless there is
no text yet. -/
def extend (before : String) (s : Step) : String :=
  if s.isBracketed then before ++ "[" ++ s.text ++ "]"
  else if before = "" then s.text
  else before ++ "." ++ s.text

def text : Path → String
  | [] => "<root>"
  | steps => steps.foldl extend ""

def child (here : Json) (s : Step) : Option Json :=
  match here, s with
  | .obj members, .key k => Json.lookup k members
  | .arr items, .index i => if 0 ≤ i then items[i.toNat]? else none
  | _, _ => none

def isContainer : Json → Bool
  | .arr _ | .obj _ => true
  | _ => false

/-- Whether a step names the variant of the object here and not one of its members. A step that is
both is a label if the next step leads on from this object, or if the member has nothing inside. -/
def isLabel (here : Json) (s next : Step) : Bool :=
  match here with
  | .obj members =>
    ((Json.lookup "type" members).getD .null).same s.toJson &&
      (match child here s with
       | none => true
       | some value => (child here next).isSome || !isContainer value)
  | _ => false

/-- The path of a location in a document: labels and steps that lead nowhere are dropped, the last
step is kept as it is. -/
def ofLocation (here : Json) : List Step → Path
  | [] => []
  | s :: rest => match rest with
    | [] => [s]
    | next :: _ =>
      if isLabel here s next then ofLocation here rest
      else match child here s with
        | some value => s :: ofLocation value rest
        | none => ofLocation here rest

end Path

end AgentWire
