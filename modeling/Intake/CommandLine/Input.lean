import Intake.CommandLine.Command
import Intake.Document
import Intake.Text.Utf8

namespace Intake.CommandLine

structure OsError where
  reason : String
  code : Nat
deriving DecidableEq, Repr

namespace OsError

def text (e : OsError) : String := e.reason ++ " (os error " ++ Decimal.string e.code ++ ")"

def notFound : OsError := ⟨"No such file or directory", 2⟩

def notADirectory : OsError := ⟨"Not a directory", 20⟩

def isADirectory : OsError := ⟨"Is a directory", 21⟩

end OsError

/-- What came of opening and reading an input, as far as the limit asks: a failure behind that is
never met, and so is none. -/
inductive Fetched where
  | bytes (content : List UInt8)
  | notOpened (e : OsError)
  | notRead (e : OsError)

instance : Coe (List UInt8) Fetched := ⟨.bytes⟩

def Origin.label : Origin → String
  | inline _ => "inline"
  | stdin _ => "stdin"
  | file path => path

def checkSize (size limit : Nat) : Except Diagnostic Unit :=
  if limit < size then
    .error ((Diagnostic.new .usage)
      |>.withMessage ("input exceeds " ++ Decimal.string limit ++ " bytes")
      |>.withHint "Split the submission or raise --max-bytes.")
  else .ok ()

/-- The number of bytes to ask for: one more than the limit tells that there are too many. -/
def readAhead (limit : Nat) : Nat := min (limit + 1) 0xFFFF_FFFF_FFFF_FFFF

def notUtf8 (label : String) (f : Text.Utf8Fault) : Diagnostic :=
  (Diagnostic.new .invalidJson)
    |>.withMessage (label ++ " is not valid UTF-8")
    |>.withHint "JSON input must be UTF-8 encoded."
    |>.withContext "category" (.str "syntax")
    |>.withCauses [f.text]

def textOfBytes (label : String) (limit : Nat) (content : List UInt8) : Except Diagnostic String := do
  let bytes := content.take (readAhead limit)
  checkSize bytes.length limit
  (Text.decodeUtf8 bytes).mapError (notUtf8 label)

def notOpened (path : String) (e : OsError) : Diagnostic :=
  (Diagnostic.new .io)
    |>.withMessage ("failed to open " ++ path)
    |>.withContext "path" (.str path)
    |>.withCauses [e.text]

def notRead (label : String) (e : OsError) : Diagnostic :=
  (Diagnostic.new .io)
    |>.withMessage ("failed to read " ++ label)
    |>.withCauses [e.text]

def missingInput : Diagnostic :=
  (Diagnostic.new .usage)
    |>.withMessage "missing data input"
    |>.withHint "Provide JSON via DATA, --file, or pipe JSON to stdin."

/-- The text behind an origin, given what came of reading it. An inline text is its own input. -/
def textOf (origin : Origin) (limit : Nat) (fetched : Fetched) : Except Diagnostic String :=
  match origin with
  | .inline text => do
    checkSize text.utf8ByteSize limit
    return text
  | _ =>
    match fetched with
    | .bytes content => textOfBytes origin.label limit content
    | .notOpened e => .error (notOpened origin.label e)
    | .notRead e => .error (notRead origin.label e)

def readDocument (origin : Origin) (limit : Nat) (fetched : Fetched) : Except Diagnostic Json := do
  let text ← textOf origin limit fetched
  Document.decode text origin.label

end Intake.CommandLine
