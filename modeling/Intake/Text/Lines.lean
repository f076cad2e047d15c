import Intake.Text.Blank

namespace Intake.Text

/-- The lines of a text, each without the carriage return at its end; a line feed at the end of the
text opens no further line. -/
def lines (text : List Char) : List (List Char) :=
  match text with
  | [] => []
  | c :: cs =>
    if c = '\n' then [] :: lines cs
    else
      match cs, lines cs with
      | '\n' :: _, first :: rest => (if c = '\r' then first else c :: first) :: rest
      | _, first :: rest => (c :: first) :: rest
      | _, [] => [[c]]

def words (line : List Char) : List (List Char) :=
  (line.splitBy fun a b => isBlank a == isBlank b).filter fun w => !w.all isBlank

end Intake.Text
