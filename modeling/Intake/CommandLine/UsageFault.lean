import Intake.CommandLine.Command
import Intake.Diagnostic
import Intake.Text.Lines
import Intake.Text.Unstyled

namespace Intake.CommandLine

inductive Slot where
  | color
  | maxBytes
  | file
  | data
  | shell
deriving DecidableEq, Repr

def Slot.shown : Slot → String
  | color => "--color <COLOR>"
  | maxBytes => "--max-bytes <MAX_BYTES>"
  | file => "--file <FILE>"
  | data => "[DATA]"
  | shell => "<SHELL>"

inductive NumberFault where
  | empty
  | notADigit
  | tooLarge
deriving DecidableEq, Repr

def NumberFault.text : NumberFault → String
  | empty => "cannot parse integer from empty string"
  | notADigit => "invalid digit found in string"
  | tooLarge => "number too large to fit in target type"

inductive UsageFault where
  | missingValue (slot : Slot)
  | givenTwice (slot : Slot)
  | badChoice (slot : Slot) (value : String)
  | badNumber (slot : Slot) (value : String) (why : NumberFault)
  | unexpectedArgument (text : String)
  | unexpectedValue (flag value : String)
  | unknownCommand (text : String)
  | conflict (first second : Slot)
  | missingCommand
  | missingArguments
deriving DecidableEq, Repr

namespace UsageFault

/-- An argument as it was given stands in a message without control sequences. -/
def given (argument : String) : String :=
  "'" ++ String.ofList (Text.unstyled .text argument.toList) ++ "'"

def text : UsageFault → String
  | missingValue slot => "a value is required for '" ++ slot.shown ++ "' but none was supplied"
  | givenTwice slot => "the argument '" ++ slot.shown ++ "' cannot be used multiple times"
  | badChoice slot value => "invalid value " ++ given value ++ " for '" ++ slot.shown ++ "'"
  | badNumber slot value why =>
    "invalid value " ++ given value ++ " for '" ++ slot.shown ++ "': " ++ why.text
  | unexpectedArgument text => "unexpected argument " ++ given text ++ " found"
  | unexpectedValue flag value =>
    "unexpected value " ++ given value ++ " for '" ++ flag ++ "' found; no more were expected"
  | unknownCommand text => "unrecognized subcommand " ++ given text
  | conflict first second =>
    "the argument '" ++ first.shown ++ "' cannot be used with '" ++ second.shown ++ "'"
  | missingCommand => "'txjson' requires a subcommand but one was not provided"
  | missingArguments => "the following required arguments were not provided:"

/-- Faults in a value are told without a usage line, so they point at no command in particular. -/
def namesCommand : UsageFault → Bool
  | missingValue _ | badChoice .. | badNumber .. => false
  | _ => true

end UsageFault

structure UsageError where
  fault : UsageFault
  command : Option String
deriving DecidableEq, Repr

namespace UsageError

def message (e : UsageError) : String :=
  Text.trim (String.ofList (e.fault.text.toList.takeWhile (· != '\n')))

def usage? (line : List Char) : Option (List Char) :=
  let bare := Text.trimRight (Text.trimLeft line)
  let beginning := "Usage: ".toList
  if beginning.isPrefixOf bare then some (bare.drop beginning.length) else none

/-- The command in a usage line is the word behind the name of the program, unless that word
stands for an option, a value or something optional. -/
def named? (usage : List Char) : Option String :=
  match (Text.words usage).dropWhile (· != "txjson".toList) with
  | _ :: word :: _ =>
    if word.head?.any (fun c => c = '-' || c = '<' || c = '[') then none
    else some (String.ofList word)
  | _ => none

/-- The command whose help explains more. The first usage line tells it, and that may be a line of
the argument at fault; the line of the program itself follows the fault. -/
def explaining? (e : UsageError) : Option String :=
  match (Text.lines e.fault.text.toList).findSome? usage? with
  | some usage => named? usage
  | none => if e.fault.namesCommand then e.command else none

def hint (e : UsageError) : String :=
  match e.explaining? with
  | some name => "Try `txjson " ++ name ++ " --help`."
  | none => "Try `txjson --help`."

def diagnostic (e : UsageError) : Diagnostic :=
  (Diagnostic.new .usage)
    |>.withMessage e.message
    |>.withHint e.hint

end UsageError

end Intake.CommandLine
