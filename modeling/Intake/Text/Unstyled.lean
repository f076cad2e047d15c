namespace Intake.Text

/-- Where a character stands: in the text itself, or in a sequence of some form. A sequence of
parameters ends with a letter, a command with the bell; other data has no end of its own. -/
inductive SequenceState where
  | text
  | escape
  | intermediate
  | parameters
  | command
  | data
deriving DecidableEq, Repr

namespace SequenceState

def breaks : SequenceState → Bool
  | text | escape | intermediate | parameters => true
  | command | data => false

def after (s : SequenceState) (c : Char) : SequenceState :=
  match s with
  | text => text
  | escape =>
    if c = '[' then parameters
    else if c = ']' then command
    else if c = 'P' || c = 'X' || c = '^' || c = '_' then data
    else if c.toNat < 0x20 || c = '\x7f' then escape
    else if c.toNat < 0x30 then intermediate
    else text
  | intermediate => if c.toNat < 0x30 || c = '\x7f' then intermediate else text
  | parameters => if c.toNat < 0x40 || c = '\x7f' then parameters else text
  | command => if c = '\x07' then text else command
  | data => data

end SequenceState

def isTabOrBreak (c : Char) : Bool := c == '\t' || c == '\n' || c == '\x0c' || c == '\r'

def isControl (c : Char) : Bool := c.toNat < 0x20 || c == '\x7f'

/-- What is left of a text that begins in the given state. A character beyond ASCII ends a
sequence that it stands in; its first byte is lost there, and each further byte is told as a
replacement character. -/
def unstyled : SequenceState → List Char → List Char
  | _, [] => []
  | s, c :: cs =>
    if c = '\x1b' then unstyled .escape cs
    else if c = '\x18' || c = '\x1a' then unstyled .text cs
    else if isTabOrBreak c && s.breaks then c :: unstyled .text cs
    else if s = .text then (if isControl c then unstyled .text cs else c :: unstyled .text cs)
    else if 0x80 ≤ c.toNat then
      List.replicate (c.utf8Size - 1) '\uFFFD' ++ unstyled .text cs
    else unstyled (s.after c) cs

end Intake.Text
