import Intake.Diagnostic
import Intake.Json.Reader.Value
import Intake.Text.Blank

namespace Intake

inductive FaultCategory where
  | syntactic
  | eof
  | data
  | depthLimit
  | io
  | unknown
deriving DecidableEq, Repr

namespace FaultCategory

def name : FaultCategory → String
  | syntactic => "syntax"
  | eof => "eof"
  | data => "data"
  | depthLimit => "depth-limit"
  | io => "io"
  | unknown => "unknown"

def ofMessage (message : String) : FaultCategory :=
  let lower := message.toList.map Char.toLower
  let has (phrase : String) := Text.occurs phrase.toList lower
  if has "recursion limit" then depthLimit
  else if has "eof while parsing" then eof
  else if has "expected value" || has "trailing characters" || has "key must be a string" then
    syntactic
  else unknown

def ofFault (fault : Json.Fault) : FaultCategory := if fault.isEnd then eof else syntactic

/-- The words of the message decide; where they give nothing away, the fault does. -/
def ofReadError (e : Json.ReadError) : FaultCategory :=
  match ofMessage e.text with
  | unknown => ofFault e.fault
  | found => found

end FaultCategory

namespace Document

def hint (e : Json.ReadError) (label : String) : String :=
  let position := if 0 < e.position.line then
    " at line " ++ Decimal.string e.position.line ++ " column " ++ Decimal.string e.position.column
    else ""
  "Input is not valid JSON" ++ position ++ ". parse category: " ++
    (FaultCategory.ofReadError e).name ++ "; context: " ++ label

def invalid (e : Json.ReadError) (label : String) : Diagnostic :=
  (Diagnostic.new .invalidJson)
    |>.withMessage "invalid JSON"
    |>.withHint (hint e label)
    |>.withContext "category" (.str (FaultCategory.ofReadError e).name)
    |>.withCauses [e.text]

def decode (text label : String) : Except Diagnostic Json :=
  (Json.read text).mapError (invalid · label)

end Document

end Intake
