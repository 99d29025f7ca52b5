import AgentWire.Datum.Literal
import AgentWire.Json.Writer
import AgentWire.Number.Reader
import AgentWire.Text.Utf8
/-!
The headers of a request. The configuration of the source is sent as JSON in ASCII, the name of the
source as it is. What cannot be sent is found before anything is.
-/
namespace AgentWire

inductive HeaderFault where
  | noText (d : Datum)
  /-- A character outside ASCII, the first at `start`; up to `stop` all are. -/
  | noAscii (first : Char) (start stop : Nat)
  | noKey (d : Datum)
  | noJson (d : Datum)
  | endless

def Datum.kindName : Datum → String
  | .null => "NoneType"
  | .bool _ => "bool"
  | .int _ => "int"
  | .num _ => "float"
  | .nan _ => "float"
  | .str _ => "str"
  | .bytes _ => "bytes"
  | .day .. => "date"
  | .moment .. => "datetime"
  | .list .. => "list"
  | .pair .. => "tuple"
  | .set .. => "set"
  | .map .. => "dict"
  | .within _ isList => if isList then "list" else "dict"

namespace HeaderFault

def message : HeaderFault → String
  | .noText d => "Header value must be str or bytes, not <class '" ++ d.kindName ++ "'>"
  | .noAscii first start stop =>
    if stop = start + 1 then
      "'ascii' codec can't encode character '" ++ String.ofList (Quoted.numbered first.toNat) ++
        "' in position " ++ toString start ++ ": ordinal not in range(128)"
    else
      "'ascii' codec can't encode characters in position " ++ toString start ++ "-" ++
        toString (stop - 1) ++ ": ordinal not in range(128)"
  | .noKey d => "keys must be str, int, float, bool or None, not " ++ d.kindName
  | .noJson d => "Object of type " ++ d.kindName ++ " is not JSON serializable"
  | .endless => "Circular reference detected"

end HeaderFault

namespace Datum

def jsonKey : Datum → Except HeaderFault String
  | .str s => .ok s
  | .null => .ok "null"
  | .bool b => .ok (if b then "true" else "false")
  | .int i => .ok (String.ofList (Json.writeInt i))
  | .num x => .ok (String.ofList (Json.writeFloat x))
  | .nan _ => .ok (String.ofList (Json.writeFloat NumberText.notANumber))
  | d => .error (.noKey d)

mutual
/-- A datum as JSON, inside of the collections with the marks `around`. Keys that become the same
text all stay. -/
def toJsonIn (around : List Nat) : Datum → Except HeaderFault Json
  | .null => .ok .null
  | .bool b => .ok (.bool b)
  | .int i => .ok (.int i)
  | .num x => .ok (.num x)
  | .nan _ => .ok (.num NumberText.notANumber)
  | .str s => .ok (.str s)
  | .list mark items =>
    if isOpen around mark then .error .endless else (toItems (inside around mark) items).map .arr
  | .pair a b => do
    let first ← toJsonIn around a
    let second ← toJsonIn around b
    return .arr [first, second]
  | .map mark entries =>
    if isOpen around mark then .error .endless
    else (toMembers (inside around mark) entries).map .obj
  | .within .. => .error .endless
  | .bytes bs => .error (.noJson (.bytes bs))
  | .day mark d => .error (.noJson (.day mark d))
  | .moment mark m => .error (.noJson (.moment mark m))
  | .set mark members => .error (.noJson (.set mark members))

def toItems (around : List Nat) : List Datum → Except HeaderFault (List Json)
  | [] => .ok []
  | d :: rest => do
    let x ← toJsonIn around d
    let xs ← toItems around rest
    return x :: xs

def toMembers (around : List Nat) : List (Datum × Datum) → Except HeaderFault (List (String × Json))
  | [] => .ok []
  | (k, v) :: rest => do
    let key ← jsonKey k
    let x ← toJsonIn around v
    let members ← toMembers around rest
    return (key, x) :: members
end

def toJson (d : Datum) : Except HeaderFault Json :=
  toJsonIn [] d

end Datum

abbrev Headers := List (String × Datum)

namespace Headers

def configName : String := "X-Hasura-DataConnector-Config"

def sourceName : String := "X-Hasura-DataConnector-SourceName"

def configText (config : Datum) : Except HeaderFault String :=
  (config.toJson).map fun j => j.text ⟨.compact, true⟩

/-- The headers for a source. A source without configuration or name has no header for it. -/
def ofSource (config name : Datum) : Except HeaderFault Headers := do
  let configured ← match config with
    | .null => pure []
    | d => pure [(configName, .str (← configText d))]
  let named := match name with
    | .null => []
    | d => [(sourceName, d)]
  return ("Accept", .str "application/json") :: configured ++ named

def asciiBytes (cs : List Char) : Except HeaderFault (List UInt8) :=
  match cs.findIdx? fun c => 0x80 ≤ c.toNat with
  | none => .ok (cs.map fun c => UInt8.ofNat c.toNat)
  | some start =>
    let run := (cs.drop start).takeWhile fun c => 0x80 ≤ c.toNat
    .error (.noAscii ((run.head?).getD ' ') start (start + run.length))

def sendable : Datum → Except HeaderFault (List UInt8)
  | .str s => asciiBytes s.toList
  | .bytes bs => .ok bs
  | d => .error (.noText d)

def sent (hs : Headers) : Except HeaderFault (List (String × List UInt8)) :=
  hs.mapM fun (name, d) => (sendable d).map (name, ·)

def latinText (bs : List UInt8) : String :=
  String.ofList (bs.map fun b => Char.ofNat b.toNat)

/-- Headers that have been sent, to be read: as UTF-8 if all of them are, or else with one byte for
a character. -/
def shown (hs : List (String × List UInt8)) : List (String × String) :=
  let read := hs.mapM fun (name, bs) => (Utf8.decode bs).map fun cs => (name, String.ofList cs)
  match read with
  | .ok texts => texts
  | .error _ => hs.map fun (name, bs) => (name, latinText bs)

end Headers

end AgentWire
