import Intake.CommandLine.Arguments

namespace Intake.CommandLine

def version : String := "0.1.0"

def Command.about : Command → String
  | tx => "Parse a transaction submission (\x7b\"tx_ops\": [...], \"tx_options\"?: \x7b...\x7d\x7d)"
  | op => "Parse a single operation object (put|delete|erase|call|sql)"
  | withClause => "Parse a with clause (\x7b\"with\": [...]\x7d)"
  | returnClause => "Parse a return clause (\x7b\"return\": [...]\x7d)"
  | completion => "Generate shell completion scripts"
  | version => "Print version info"

def Command.examples : Command → List String
  | tx =>
    [ "$ txjson tx '\x7b\"tx_ops\": [\x7b\"put\": \"docs\", \"doc\": \x7b\"xt/id\": 1\x7d\x7d]\x7d'"
    , "$ txjson tx '\x7b\"tx_ops\": [\x7b\"delete\": \"docs\", \"id\": 1\x7d], \"tx_options\": \x7b\"default_tz\": \"UTC\"\x7d\x7d'" ]
  | op =>
    [ "$ txjson op '\x7b\"put\": \"docs\", \"doc\": \x7b\"xt/id\": 1\x7d, \"valid_from\": \"2024-01-01T00:00:00Z\"\x7d'"
    , "$ txjson op '\x7b\"sql\": \"INSERT INTO docs RECORDS ?\", \"arg_rows\": [[\x7b\"xt$id\": 1\x7d]]\x7d'" ]
  | withClause => [ "$ txjson with '\x7b\"with\": [\"a\", \x7b\"b\": \x7b\"+\": [\"a\", 1]\x7d\x7d]\x7d'" ]
  | returnClause =>
    [ "$ txjson return '\x7b\"return\": [\"name\", \x7b\"total\": \x7b\"sum\": [\"amount\"]\x7d\x7d]\x7d'" ]
  | completion => []
  | version => []

def literal (styled : Bool) (word : String) : String :=
  if styled then "\x1b[1m" ++ word ++ "\x1b[0m" else word

def heading (styled : Bool) (word : String) : String :=
  if styled then "\x1b[1m\x1b[4m" ++ word ++ "\x1b[0m" else word

def optionNames (styled : Bool) (letter long : String) : String :=
  literal styled letter ++ ", " ++ literal styled long

def block (lines : List String) : String := String.join (lines.map fun l => l ++ "\n")

def documentHelp (c : Command) (styled : Bool) : String :=
  block <|
    [ c.about
    , ""
    , heading styled "Usage:" ++ " " ++ literal styled ("txjson " ++ c.name) ++ " [OPTIONS] [DATA]"
    , ""
    , heading styled "Arguments:"
    , "  [DATA]  Inline JSON document"
    , ""
    , heading styled "Options:"
    , "  " ++ optionNames styled "-f" "--file" ++
        " <FILE>  Read the document from a file (use - for stdin)"
    , "  " ++ optionNames styled "-h" "--help" ++ "         Print help"
    , ""
    , "EXAMPLES" ] ++ c.examples.map fun e => "  " ++ e

def Command.help (c : Command) (styled : Bool) : String :=
  match c with
  | completion =>
    block
      [ c.about
      , ""
      , heading styled "Usage:" ++ " " ++ literal styled "txjson completion" ++ " <SHELL>"
      , ""
      , heading styled "Arguments:"
      , "  <SHELL>  [possible values: bash, elvish, fish, powershell, zsh]"
      , ""
      , heading styled "Options:"
      , "  " ++ optionNames styled "-h" "--help" ++ "  Print help" ]
  | version =>
    block
      [ c.about
      , ""
      , heading styled "Usage:" ++ " " ++ literal styled "txjson version"
      , ""
      , heading styled "Options:"
      , "  " ++ optionNames styled "-h" "--help" ++ "  Print help" ]
  | _ => documentHelp c styled

def helpAbout : String := "Print this message or the help of the given subcommand(s)"

def commandLine (styled : Bool) (name about : String) : String :=
  "  " ++ literal styled name ++ String.ofList (List.replicate (12 - name.length) ' ') ++ about

def programHelp (styled : Bool) : String :=
  block <|
    [ "Validate JSON transaction submissions and query clauses"
    , ""
    , "USAGE"
    , "  " ++ literal styled "txjson" ++ " [OPTIONS] <COMMAND>"
    , ""
    , "COMMANDS" ] ++
    (Command.all.map fun c => commandLine styled c.name c.about) ++
    [ commandLine styled "help" helpAbout
    , ""
    , "OPTIONS"
    , "      " ++ literal styled "--color" ++ " <COLOR>          Colorize stderr diagnostics: auto|always|never [default: auto] [possible values: auto, always, never]"
    , "      " ++ literal styled "--max-bytes" ++ " <MAX_BYTES>  Reject inputs larger than this many bytes [default: 16777216]"
    , "  " ++ optionNames styled "-h" "--help" ++ "                   Print help"
    , "  " ++ optionNames styled "-V" "--version" ++ "                Print version"
    , ""
    , ""
    , ""
    , "EXAMPLES"
    , "  $ txjson tx '\x7b\"tx_ops\": [\x7b\"put\": \"docs\", \"doc\": \x7b\"xt/id\": 1\x7d\x7d]\x7d'"
    , "  $ txjson op '\x7b\"erase\": \"docs\", \"id\": 1\x7d'"
    , "  $ txjson with '\x7b\"with\": [\"a\", \x7b\"b\": \x7b\"+\": [\"a\", 1]\x7d\x7d]\x7d'"
    , "  $ txjson tx -f submission.json"
    , "  $ cat clause.json | txjson return"
    , ""
    , "NOTES"
    , "  - Input: inline JSON, -f FILE, or stdin when neither is given"
    , "  - Exit codes: 0 ok, 2 usage, 3 i/o, 4 invalid JSON, 5 rejected document"
    , "  - Set RUST_LOG=debug to trace parser decisions on stderr" ]

def HelpPage.text (page : HelpPage) (styled : Bool) : String :=
  match page with
  | program => programHelp styled
  | command c => c.help styled
  | help =>
    block
      [ helpAbout
      , ""
      , heading styled "Usage:" ++ " " ++ literal styled "txjson help" ++ " [COMMAND]..."
      , ""
      , heading styled "Arguments:"
      , "  [COMMAND]...  Print help for the subcommand(s)" ]

end Intake.CommandLine
