import Intake.Clause

namespace Intake.CommandLine

inductive Command where
  | tx
  | op
  | withClause
  | returnClause
  | completion
  | version
deriving DecidableEq, Repr

namespace Command

def name : Command → String
  | tx => "tx"
  | op => "op"
  | withClause => "with"
  | returnClause => "return"
  | completion => "completion"
  | version => "version"

def all : List Command := [tx, op, withClause, returnClause, completion, version]

def ofName? (s : String) : Option Command := all.find? fun c => c.name == s

/-- Whether a word stands for a command; `help` does too. -/
def isWord (s : String) : Bool := s == "help" || (ofName? s).isSome

end Command

inductive DocumentKind where
  | submission
  | operation
  | clause (kind : ClauseKind)
deriving DecidableEq, Repr

def Command.documentKind? : Command → Option DocumentKind
  | .tx => some .submission
  | .op => some .operation
  | .withClause => some (.clause .withBindings)
  | .returnClause => some (.clause .returnColumns)
  | .completion => none
  | .version => none

inductive ColorMode where
  | auto
  | always
  | never
deriving DecidableEq, Repr

namespace ColorMode

def ofName? : String → Option ColorMode
  | "auto" => some auto
  | "always" => some always
  | "never" => some never
  | _ => none

/-- A terminal is needed only where nothing else was asked for. -/
def applies (m : ColorMode) (terminal : Bool) : Bool :=
  match m with
  | auto => terminal
  | always => true
  | never => false

end ColorMode

inductive Shell where
  | bash
  | elvish
  | fish
  | powershell
  | zsh
deriving DecidableEq, Repr

def Shell.ofName? : String → Option Shell
  | "bash" => some bash
  | "elvish" => some elvish
  | "fish" => some fish
  | "powershell" => some powershell
  | "zsh" => some zsh
  | _ => none

/-- Where a document comes from. Standard input may be named as a file, or be meant because nothing
else is. -/
inductive Origin where
  | inline (text : String)
  | stdin (named : Bool)
  | file (path : String)
deriving DecidableEq, Repr

def defaultLimit : Nat := 16 * 1024 * 1024

end Intake.CommandLine
