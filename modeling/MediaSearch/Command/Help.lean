import MediaSearch.Command.Request

set_option autoImplicit false

namespace MediaSearch.Command

def versionText : String := "advq 0.1.0\n"

def helpText : String :=
  "Compile advanced media search queries into SQL

Usage: advq <COMMAND>

Commands:
  compile  Compile a query and print the SQL statement and parameters
  fields   List the searchable fields
  init     Initialize advq configuration in current directory
  config   Show effective configuration settings
  help     Print this message

Options of compile:
  -o, --order <ORDER>      Ordering list, e.g. \"-lastplayed, artist\"
  -u, --user <USER>        User bound by starred, albumrating and ranking
  -s, --scope <SCOPE>      Media type scope: all, songs, albums, artists
      --table <TABLE>      Table named in the assembled statement
      --columns <COLUMNS>  Column list selected by the assembled statement
      --json               Output in JSON format
      --explain            Show the parsed query AST and order keys without compiling

Options of fields:
      --json    Output in JSON format

Options of init:
      --global  Create global ~/.advq.toml instead
      --force   Overwrite existing configuration file

QUERY SYNTAX:
  field:value           Contains (text) or equals (numbers, dates)
  field=value           Exact match
  field~regexp          Regular expression (text fields)
  field<value           Also <=, >, >= (numbers, dates)
  field:[low TO high]   Inclusive range
  field:null            Missing value
  \"quoted value\"        Values with spaces
  a:1 b:2               Both (implicit AND)
  a:1 OR b:2            Either
  NOT a:1               Negation
  (expr)                Grouping

ORDERING:
  Comma-separated fields, '-' for descending: -lastplayed, artist
"

namespace Usage

def fault? : Usage → Option String
  | .helpAsked => none
  | .versionAsked => none
  | .noCommand => some "a command is required"
  | .unknownCommand => some "unrecognized command"
  | .missingQuery => some "the query is missing"
  | .unknownArgument => some "unexpected argument"
  | .missingValue => some "a value is required"
  | .unknownScope => some "unknown scope"
  | .surplusValue => some "unexpected value"
  | .repeatedSwitch => some "an option cannot be used multiple times"

def output : Usage → String
  | .helpAsked => helpText
  | .versionAsked => versionText
  | _ => ""

def errors (usage : Usage) : String :=
  match usage.fault? with
  | some fault => "error: " ++ fault ++ "\n\nFor more information, try '--help'.\n"
  | none => ""

end Usage

end MediaSearch.Command
