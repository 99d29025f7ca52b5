import AgentWire.Datum.Calendar
import AgentWire.Text.Quoted
/-!
Why a text is not the data of a configuration: it is no document, or a scalar has the form of its
tag but no value.
-/
namespace AgentWire.Yaml

inductive Fault where
  /-- The text is no single document, or the document stands for no data. -/
  | malformed
  | codePoint (n : Nat)
  | calendar (fault : CalendarFault)
  | noTimestamp
  | timestampShape
  | noTruthValue (word : List Char)
  | noInteger (base : Nat) (digits : List Char)
  | noNumber (digits : List Char)
  | noDigits
  /-- A group in base sixty too far left for a double. -/
  | tooLarge
  | endless
  deriving DecidableEq, Repr

namespace Fault

/-- The most characters that a message shows of a text in quotes which is no integer. -/
def quotationLimit : Nat := 200

def message : Fault → String
  | .malformed => "Invalid YAML"
  | .codePoint n =>
    if n < 0x80000000 then "chr() arg not in range(0x110000)"
    else "Python int too large to convert to C int"
  | .calendar f => f.message
  | .noTimestamp => "'NoneType' object has no attribute 'groupdict'"
  | .timestampShape => "expected string or bytes-like object, got 'list'"
  | .noTruthValue word => String.ofList (Quoted.text word)
  | .noInteger base digits =>
    "invalid literal for int() with base " ++ toString base ++ ": " ++
      String.ofList ((Quoted.text digits).take quotationLimit)
  | .noNumber digits => "could not convert string to float: " ++ String.ofList (Quoted.text digits)
  | .noDigits => "string index out of range"
  | .tooLarge => "int too large to convert to float"
  | .endless => "maximum recursion depth exceeded"

end Fault

end AgentWire.Yaml
