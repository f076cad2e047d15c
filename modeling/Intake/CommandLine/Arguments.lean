import Intake.CommandLine.UsageFault

namespace Intake.CommandLine

inductive HelpPage where
  | program
  | command (c : Command)
  | help
deriving DecidableEq, Repr

inductive Detour where
  | nothing
  | help (page : HelpPage)
  | version
  | fault (e : UsageError)
deriving DecidableEq, Repr

inductive Setting where
  | color (mode : ColorMode)
  | maxBytes (n : Nat)
  | file (path : String)
  | data (text : String)
  | shell (s : Shell)
deriving DecidableEq, Repr

namespace Setting

def slot : Setting → Slot
  | color _ => .color
  | maxBytes _ => .maxBytes
  | file _ => .file
  | data _ => .data
  | shell _ => .shell

end Setting

def readNumber (n : Nat) : List Char → Except NumberFault Nat
  | [] => .ok n
  | c :: cs =>
    if !Decimal.isDigit c then .error .notADigit
    else if 10 * n + Decimal.digitValue c < 0x1_0000_0000_0000_0000 then
      readNumber (10 * n + Decimal.digitValue c) cs
    else .error .tooLarge

def number (s : String) : Except NumberFault Nat :=
  match s.toList with
  | [] => .error .empty
  | ['+'] => .error .notADigit
  | '+' :: cs => readNumber 0 cs
  | cs => readNumber 0 cs

/-- One of the values that a slot admits. An empty choice counts as no value at all. -/
def choice {α : Type} (slot : Slot) (value : String) (found : Option α) : Except UsageFault α :=
  match found with
  | some a => .ok a
  | none => .error (if value = "" then .missingValue slot else .badChoice slot value)

def checkValue (slot : Slot) (value : String) : Except UsageFault Setting :=
  match slot with
  | .color => (choice slot value (ColorMode.ofName? value)).map .color
  | .maxBytes =>
    match number value with
    | .ok n => .ok (.maxBytes n)
    | .error why => .error (.badNumber slot value why)
  | .file => .ok (.file value)
  | .data => .ok (.data value)
  | .shell => (choice slot value (Shell.ofName? value)).map .shell

structure Scope where
  command : Option Command
deriving DecidableEq

namespace Scope

def commandName (s : Scope) : Option String := s.command.map Command.name

def error (s : Scope) (fault : UsageFault) : UsageError := ⟨fault, s.commandName⟩

def fail {α : Type} (s : Scope) (fault : UsageFault) : Except Detour α :=
  .error (.fault (s.error fault))

def readsDocument (s : Scope) : Bool := (s.command.bind Command.documentKind?).isSome

def positional? (s : Scope) : Option Slot :=
  match s.command with
  | some .completion => some .shell
  | _ => if s.readsDocument then some .data else none

inductive OptionRole where
  | takes (slot : Slot)
  | answers (d : Detour)

def help (s : Scope) : Detour :=
  match s.command with
  | none => .help .program
  | some c => .help (.command c)

def long? (s : Scope) (name : String) : Option OptionRole :=
  if name = "help" then some (.answers s.help)
  else if s.command = none then
    if name = "color" then some (.takes .color)
    else if name = "max-bytes" then some (.takes .maxBytes)
    else if name = "version" then some (.answers .version)
    else none
  else if s.readsDocument && name = "file" then some (.takes .file)
  else none

def short? (s : Scope) (c : Char) : Option OptionRole :=
  if c = 'h' then some (.answers s.help)
  else if s.command = none then (if c = 'V' then some (.answers .version) else none)
  else if s.readsDocument && c = 'f' then some (.takes .file)
  else none

end Scope

/-- How far the arguments of a scope have been read. `pending` is the slot last filled, or last
named and still without a value. -/
structure Progress where
  settings : List Setting
  pending : Option (Slot × Option String)
  positionals : Nat
  plainOnly : Bool

namespace Progress

def start : Progress := ⟨[], none, 0, false⟩

def awaitsValue (p : Progress) : Bool :=
  match p.pending with
  | some (_, none) => true
  | _ => false

def has (p : Progress) (slot : Slot) : Bool := p.settings.any fun s => s.slot == slot

/-- Takes over one value. That it is there comes first, then that it is the only one, then that it
is good. -/
def accept (p : Progress) (slot : Slot) (value : Option String) : Except UsageFault Progress :=
  match value with
  | none => .error (.missingValue slot)
  | some v =>
    if p.has slot then .error (.givenTwice slot)
    else (checkValue slot v).map fun s => { p with settings := p.settings ++ [s], pending := none }

/-- Takes over what is pending. This happens when the next argument is reached, so that an unknown
argument is told before a value that is no good. -/
def settle (p : Progress) : Except UsageFault Progress :=
  match p.pending with
  | none => .ok p
  | some (slot, value) => p.accept slot value

end Progress

def inScope {α : Type} (s : Scope) (r : Except UsageFault α) : Except Detour α :=
  r.mapError fun f => .fault (s.error f)

def takeOption (s : Scope) (p : Progress) (slot : Slot) (attached : Option String) :
    Except Detour Progress :=
  inScope s do
    let p ← p.settle
    match attached with
    | some v => p.accept slot (some v)
    | none => return { p with pending := some (slot, none) }

def takeAnswer (s : Scope) (p : Progress) (d : Detour) : Except Detour Progress := do
  let _ ← inScope s p.settle
  .error d

def takeLong (s : Scope) (p : Progress) (arg : List Char) : Except Detour Progress :=
  let name := String.ofList (arg.takeWhile (· != '='))
  let attached := match arg.dropWhile (· != '=') with
    | [] => none
    | _ :: value => some (String.ofList value)
  match s.long? name with
  | none => s.fail (.unexpectedArgument ("--" ++ name))
  | some (.takes slot) => takeOption s p slot attached
  | some (.answers d) =>
    match attached with
    | some v => s.fail (.unexpectedValue ("--" ++ name) v)
    | none => takeAnswer s p d

def takeShort (s : Scope) (p : Progress) : List Char → Except Detour Progress
  | [] => .ok p
  | c :: rest =>
    match s.short? c with
    | none => s.fail (.unexpectedArgument (String.ofList ['-', c]))
    | some (.answers d) => takeAnswer s p d
    | some (.takes slot) =>
      takeOption s p slot <|
        match rest with
        | [] => none
        | '=' :: value => some (String.ofList value)
        | value => some (String.ofList value)

/-- A value without a name. Behind two dashes no command begins, so its name is told as out of
place and not as unknown. -/
def takePlain (s : Scope) (p : Progress) (arg : String) : Except Detour Progress :=
  match s.positional?, p.positionals with
  | some slot, 0 =>
    inScope s do
      let p ← p.settle
      return { p with pending := some (slot, some arg), positionals := 1 }
  | _, _ =>
    if s.command = none && !(p.plainOnly && Command.isWord arg) then
      s.fail (.unknownCommand arg)
    else s.fail (.unexpectedArgument arg)

def helpPage (page : HelpPage) : List String → Detour
  | [] => .help page
  | arg :: rest =>
    let next? : Option HelpPage :=
      if page ≠ .program then none
      else if arg = "help" then some .help
      else (Command.ofName? arg).map .command
    match next? with
    | some next => helpPage next rest
    | none =>
      let here : Option String := match page with
        | .program => none
        | .command c => some c.name
        | .help => some "help"
      .fault ⟨.unknownCommand arg, here⟩

def scan (s : Scope) (p : Progress) :
    List String → Except Detour (Progress × Option (Command × List String))
  | [] => .ok (p, none)
  | arg :: rest =>
    if p.plainOnly then
      match takePlain s p arg with
      | .ok p => scan s p rest
      | .error d => .error d
    else if s.command = none && !p.awaitsValue && arg = "help" then .error (helpPage .program rest)
    else
      match (if s.command = none && !p.awaitsValue then Command.ofName? arg else none) with
      | some c => .ok (p, some (c, rest))
      | none =>
        match arg.toList with
        | ['-', '-'] => scan s { p with plainOnly := true } rest
        | '-' :: '-' :: long =>
          match takeLong s p long with
          | .ok p => scan s p rest
          | .error d => .error d
        | '-' :: c :: letters =>
          match takeShort s p (c :: letters) with
          | .ok p => scan s p rest
          | .error d => .error d
        | _ =>
          match p.pending with
          | some (slot, none) => scan s { p with pending := some (slot, some arg) } rest
          | _ =>
            match takePlain s p arg with
            | .ok p => scan s p rest
            | .error d => .error d

inductive Job where
  | document (kind : DocumentKind) (origin : Origin)
  | completion (shell : Shell)
  | version
deriving DecidableEq, Repr

structure Request where
  color : ColorMode
  limit : Nat
  job : Job
deriving DecidableEq, Repr

namespace Progress

def color (p : Progress) : ColorMode :=
  (p.settings.findSome? fun | .color m => some m | _ => none).getD .auto

def limit (p : Progress) : Nat :=
  (p.settings.findSome? fun | .maxBytes n => some n | _ => none).getD defaultLimit

def shell? (p : Progress) : Option Shell :=
  p.settings.findSome? fun | .shell s => some s | _ => none

def origin (p : Progress) : Origin :=
  (p.settings.findSome? fun
    | .data text => some (Origin.inline text)
    | .file path => some (if path = "-" then .stdin true else .file path)
    | _ => none).getD (.stdin false)

def job (p : Progress) (c : Command) : Except UsageFault Job :=
  match c with
  | .version => .ok .version
  | .completion =>
    match p.shell? with
    | some s => .ok (.completion s)
    | none => .error .missingArguments
  | .tx => documentJob .submission
  | .op => documentJob .operation
  | .withClause => documentJob (.clause .withBindings)
  | .returnClause => documentJob (.clause .returnColumns)
where
  documentJob (kind : DocumentKind) : Except UsageFault Job :=
    match p.settings.map Setting.slot with
    | first :: second :: _ => .error (.conflict first second)
    | _ => .ok (.document kind p.origin)

end Progress

def readCommand (c : Command) (args : List String) : Except Detour Job := do
  let scope : Scope := ⟨some c⟩
  let (p, _) ← scan scope .start args
  inScope scope do
    let p ← p.settle
    p.job c

/-- Reads the arguments of the program. The settings before a command are checked after those
behind it. -/
def readArguments (args : List String) : Except Detour Request := do
  let scope : Scope := ⟨none⟩
  let (p, found) ← scan scope .start args
  match found with
  | some (c, rest) =>
    let job ← readCommand c rest
    let p ← inScope scope p.settle
    return ⟨p.color, p.limit, job⟩
  | none =>
    let p ← inScope scope p.settle
    if p.settings.isEmpty then .error .nothing else scope.fail .missingCommand

/-- An argument with one dash too many before `help` or `version` means the option. -/
def normalize (arg : String) : String :=
  if arg = "---help" then "--help"
  else if arg = "---version" then "--version"
  else arg

end Intake.CommandLine
